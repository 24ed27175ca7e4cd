import QueryTemplate.CommandLine.Run
import QueryTemplate.Proofs.Results
import QueryTemplate.Proofs.Schema.OptionsFile

/-!
# What a run reads

A run reads its template, its options and its arguments, each of which may not be to be had. What
goes wrong is told in that order, with its message. The standard input is read once: if the template
is read from it, nothing of it is left for the arguments.

Of the environment it is asked that the file system refuses no path for its length, that the text of
the arguments holds no half of a pair of escapes, and that the reader of YAML fails with an error of
YAML or of a value.
-/

namespace QueryTemplate

namespace CommandLine

/-! ## What a run asks for -/

namespace Environment

/-- A word stands for a text: the standard input, a file, or the word itself. -/
inductive Reads (env : Environment) : Text → Text → Prop
  /-- The standard input. -/
  | input {t : Text} : Utf8.decode env.input = .ok t → Reads env ['-'] (unifyBreaks t)
  /-- A file. -/
  | file {path t : Text} {octets : List UInt8} :
      env.files.lookup (Path.ofText path) = .file octets → Utf8.decode octets = .ok t →
      Reads env ('@' :: path) (unifyBreaks t)
  /-- The word. -/
  | literal {t : Text} : t ≠ ['-'] → (∀ path, t ≠ '@' :: path) → Reads env t t

/-- What is left for the arguments of an invocation: nothing of the standard input, if the template
was read from it. -/
def left (env : Environment) (i : Invocation) : Environment :=
  { env with input := if i.template = ['-'] then [] else env.input }

variable {env : Environment} {i : Invocation} {e : RunError}

end Environment

end CommandLine

end QueryTemplate
