import QueryTemplate.Render
import QueryTemplate.Template

/-!
# From a template to a query

The tokens of a template and the arguments are assembled into a query, unless one of them offends.
-/

namespace QueryTemplate

/-!
## Assembling a query from tokens

Assembly goes through the tokens once, from left to right. Literals stand for themselves, and every
placeholder takes the next argument. Between the braces of a conditional block the pieces are held
back: at the closing brace, or at the end of the tokens, they are emitted, unless the skip marker
came up in the block, in which case the block is dropped whole. Arguments are taken and rendered
inside a dropped block as well. At the end the pieces are put together and the blanks at the end of
the query are cut off.

Every step that fails stops the assembly; what was counted up to then is kept.
-/

/-- Why an assembly stops. -/
inductive AssemblyError where
  /-- A block opens at this position inside a block. -/
  | nestedBlock (position : Nat)
  /-- A block closes at this position where none is open. -/
  | unmatchedClose (position : Nat)
  /-- There is no argument left for a placeholder. -/
  | missingArgument
  /-- The placeholder at this position declares no kind. -/
  | kindlessPlaceholder (position : Nat)
  /-- The argument of this index has no text. -/
  | argument (index : Nat) (fault : Fault)
  deriving DecidableEq

namespace AssemblyError

/-- The wording about a brace of a template. -/
def braceMessage (what : Text) (template : Text) (position : Nat) : Text :=
  what ++ " at position ".toList ++ integerText position ++ " in query '".toList ++ template ++
    ['\x27']

/-- The wording of an error in a template. -/
def message (template : Text) : AssemblyError → Text
  | nestedBlock position => braceMessage "Nested conditional block".toList template position
  | unmatchedClose position => braceMessage "Unmatched '\x7d'".toList template position
  | missingArgument => "list index out of range".toList
  | kindlessPlaceholder position =>
    "Placeholder token without kind at position ".toList ++ integerText position
  | argument index fault => fault.message (some index)

end AssemblyError

/-- What an assembly has counted. -/
structure Stats where
  /-- The placeholders that got an argument. -/
  placeholders : Nat
  /-- The blocks that were emitted. -/
  blocksEmitted : Nat
  /-- The blocks that were dropped. -/
  blocksSuppressed : Nat
  deriving DecidableEq

namespace Stats

/-- Nothing counted. -/
def zero : Stats := ⟨0, 0, 0⟩

/-- Two counts together. -/
def add (s t : Stats) : Stats where
  placeholders := s.placeholders + t.placeholders
  blocksEmitted := s.blocksEmitted + t.blocksEmitted
  blocksSuppressed := s.blocksSuppressed + t.blocksSuppressed

/-- One placeholder more. -/
def countPlaceholder (s : Stats) : Stats := { s with placeholders := s.placeholders + 1 }

/-- One block more. -/
def countBlock (s : Stats) (suppressed : Bool) : Stats :=
  if suppressed then { s with blocksSuppressed := s.blocksSuppressed + 1 }
  else { s with blocksEmitted := s.blocksEmitted + 1 }

end Stats

/-- Where an assembly stands. -/
inductive Region where
  /-- Outside of every block. -/
  | outside
  /-- In a block, with the pieces held back, the last one first, and whether the skip marker has
  come up. -/
  | inside (pieces : List Text) (suppressed : Bool)
  deriving DecidableEq

/-- An assembly under way. -/
structure Assembly where
  /-- The pieces emitted so far, the last one first. -/
  emitted : List Text
  /-- Where the assembly stands. -/
  region : Region
  /-- The arguments not yet taken. -/
  remaining : List Value
  /-- The index of the next argument. -/
  index : Nat
  /-- What has been counted. -/
  stats : Stats

/-- The counts up to the step that failed, and the error. -/
abbrev Stopped := Stats × AssemblyError

namespace Assembly

/-- The beginning of an assembly. -/
def start (args : List Value) : Assembly := ⟨[], .outside, args, 0, .zero⟩

/-- The beginning of an assembly where something was counted before. -/
def resume (before : Stats) (args : List Value) : Assembly := { start args with stats := before }

/-- A piece goes to the query, or is held back in a block. -/
def put (s : Assembly) (piece : Text) : Assembly :=
  match s.region with
  | .outside => { s with emitted := piece :: s.emitted }
  | .inside pieces suppressed => { s with region := .inside (piece :: pieces) suppressed }

/-- The end of the block that is open, if one is. -/
def closeBlock (s : Assembly) : Assembly :=
  match s.region with
  | .outside => s
  | .inside pieces suppressed =>
    { s with
      emitted := if suppressed then s.emitted else pieces ++ s.emitted
      region := .outside
      stats := s.stats.countBlock suppressed }

/-- The argument of a placeholder is taken and counted. -/
def take (s : Assembly) (rest : List Value) : Assembly :=
  { s with remaining := rest, index := s.index + 1, stats := s.stats.countPlaceholder }

/-- The skip marker comes up. In a block it marks the block; outside of every block it is an error
or leaves its placeholder out, as the options say. -/
def skip (r : Renderer) (s : Assembly) : Except Fault Assembly :=
  match s.region with
  | .inside pieces _ => .ok { s with region := .inside pieces true }
  | .outside =>
    match r.options.skipOutsideBlock with
    | .leaveOut => .ok s
    | .refuse => .error .skipOutsideBlock

/-- A placeholder with its argument. It is counted before anything can fail. -/
def substitute (r : Renderer) (s : Assembly) (kind : Option Placeholder) (position : Nat)
    (v : Value) (rest : List Value) : Except Stopped Assembly :=
  let taken := s.take rest
  if v.isSkip then
    match taken.skip r with
    | .ok skipped => .ok skipped
    | .error fault => .error (taken.stats, .argument s.index fault)
  else
    match kind with
    | none => .error (taken.stats, .kindlessPlaceholder position)
    | some k =>
      match r.render k v with
      | .ok piece => .ok (taken.put piece)
      | .error fault => .error (taken.stats, .argument s.index fault)

/-- One token. -/
def step (r : Renderer) (s : Assembly) (t : Token) : Except Stopped Assembly :=
  match t.lexeme with
  | .literal text => .ok (s.put text)
  | .blockOpen =>
    match s.region with
    | .outside => .ok { s with region := .inside [] false }
    | .inside _ _ => .error (s.stats, .nestedBlock t.position)
  | .blockClose =>
    match s.region with
    | .outside => .error (s.stats, .unmatchedClose t.position)
    | .inside _ _ => .ok s.closeBlock
  | .placeholder kind =>
    match s.remaining with
    | [] => .error (s.stats, .missingArgument)
    | v :: rest => s.substitute r kind t.position v rest

/-- The pieces emitted so far, one after another. -/
def text (s : Assembly) : Text := s.emitted.reverse.flatten

/-- The query: the pieces one after another, without blanks at the end. -/
def query (s : Assembly) : Text := s.text.trimEnd

/-- All tokens, from the beginning to the end; a block still open at the end is closed there. -/
def run (r : Renderer) (before : Stats) (tokens : List Token) (args : List Value) :
    Except Stopped Assembly :=
  (tokens.foldlM (step r) (resume before args)).map closeBlock

/-- Outside of every block, a piece is emitted at once. -/
theorem text_put_of_outside (s : Assembly) (piece : Text) (h : s.region = .outside) :
    (s.put piece).text = s.text ++ piece := by
  simp [put, text, h]

/-- In a block, a piece is held back. -/
theorem text_put_of_inside (s : Assembly) (piece : Text) {pieces : List Text} {suppressed : Bool}
    (h : s.region = .inside pieces suppressed) : (s.put piece).text = s.text := by
  simp [put, text, h]

/-- At its end, a block is emitted as a whole or not at all. -/
theorem text_closeBlock_of_inside (s : Assembly) {pieces : List Text} {suppressed : Bool}
    (h : s.region = .inside pieces suppressed) :
    s.closeBlock.text = s.text ++ if suppressed then [] else pieces.reverse.flatten := by
  cases suppressed <;> simp [closeBlock, text, h]

end Assembly

/-- The query of tokens and arguments, or the error that stopped the assembly, and the counts behind
it, where `before` was counted before. Arguments beyond the last placeholder are not looked at. -/
def assembleFrom (r : Renderer) (before : Stats) (tokens : List Token) (args : List Value) :
    Stats × Except AssemblyError Text :=
  match Assembly.run r before tokens args with
  | .ok done => (done.stats, .ok done.query)
  | .error (stats, error) => (stats, .error error)

/-- An assembly by itself. -/
def assemble (r : Renderer) (tokens : List Token) (args : List Value) :
    Stats × Except AssemblyError Text :=
  assembleFrom r .zero tokens args

/-- One assembly after another. The counts go on from one to the next, also behind an error; nothing
else is kept. -/
def assembleEach (r : Renderer) :
    Stats → List (List Token × List Value) → List (Stats × Except AssemblyError Text)
  | _, [] => []
  | before, (tokens, args) :: rest =>
    let (stats, outcome) := assembleFrom r before tokens args
    (stats, outcome) :: assembleEach r stats rest

/-!
## Compiling a query

A template with as many arguments as placeholders is read into tokens and assembled. A wrong number
of arguments is found before anything else.
-/

/-- Why a template does not compile. -/
inductive CompileError where
  /-- The template has `expected` placeholders and got `actual` arguments. -/
  | countMismatch (expected actual : Nat)
  /-- The assembly stops. -/
  | assembly (error : AssemblyError)
  deriving DecidableEq

namespace CompileError

/-- The wording of an error in a template. -/
def message (template : Text) : CompileError → Text
  | countMismatch expected actual =>
    "Placeholder/argument count mismatch in query '".toList ++ template ++ "': ".toList ++
      integerText expected ++ " placeholder(s), ".toList ++ integerText actual ++
      " argument(s)".toList
  | assembly error => error.message template

end CompileError

/-- The count of placeholders, if it is the count of arguments. -/
def checkArguments (template : Text) (given : Nat) : Except CompileError Nat :=
  let expected := countPlaceholders template
  if expected = given then .ok expected else .error (.countMismatch expected given)

/-- What is known of a query after its compilation. -/
structure Report where
  /-- The query. -/
  sql : Text
  /-- Its template. -/
  template : Text
  /-- The count of arguments. -/
  arguments : Nat
  /-- The counts of the assembly. -/
  stats : Stats
  /-- The settings. -/
  options : Options
  deriving DecidableEq

/-- The query of a template and its arguments, with its counts. -/
def compileWithReport (r : Renderer) (template : Text) (args : List Value) :
    Except CompileError Report := do
  let _ ← checkArguments template args.length
  match assemble r (tokenize template) args with
  | (stats, .ok sql) => .ok ⟨sql, template, args.length, stats, r.options⟩
  | (_, .error error) => .error (.assembly error)

/-- The query of a template and its arguments. -/
def compile (r : Renderer) (template : Text) (args : List Value) : Except CompileError Text :=
  (compileWithReport r template args).map Report.sql

end QueryTemplate
