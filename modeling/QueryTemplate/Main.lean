import QueryTemplate.CommandLine.Run

/-!
# The program

The program reads what a run may ask for, runs the command, and prints what comes of it.
-/

namespace QueryTemplate.CommandLine

/-- What a path leads to. The file system answers a name that is too long as an invalid argument. -/
def lookUp (path : Path) : IO Lookup := do
  try
    return .file (← IO.FS.readBinFile (String.ofList path.text)).toList
  catch
    | .invalidArgument .. => return .nameTooLong
    | _ => return .missing

/-- The files at some paths. -/
def filesAt (paths : List Path) : IO Files := do
  let found ← paths.mapM fun path => return (path, ← lookUp path)
  return ⟨fun path => (found.lookup path).getD .missing⟩

/-- The octets of the standard input. -/
def standardInput : IO (List UInt8) := do
  return (← (← IO.getStdin).readBinToEnd).toList

/-- What the run of an invocation can read. -/
def environmentFor (i : Invocation) : IO Environment := do
  let directory := Path.ofText (← IO.currentDir).toString.toList
  let files ← filesAt (i.paths directory)
  let input ← if i.readsInput then standardInput else pure []
  return .standard files directory input

/-- Runs an invocation and gives the code with which the program ends. -/
def execute (i : Invocation) : IO UInt32 := do
  match (← environmentFor i).run i with
  | .ended ending =>
    IO.print (String.ofList ending.output)
    IO.eprint (String.ofList ending.messages)
    return UInt32.ofNat ending.code
  | .aborted e =>
    IO.eprintln (String.ofList e.message)
    return 1
  | .untold =>
    IO.eprintln "half of a pair of escapes"
    return 1

end QueryTemplate.CommandLine

open QueryTemplate.CommandLine in
/-- Does what the words of the command line ask for. -/
def main (words : List String) : IO UInt32 := do
  match Request.ofWords? (words.map String.toList) with
  | some (.run i) => execute i
  | some (.order .version) =>
    IO.print (String.ofList versionLine)
    return 0
  | some (.order .help) =>
    IO.print (String.ofList usage)
    return 0
  | none =>
    IO.eprint (String.ofList usage)
    return UInt32.ofNat errorCode
