import InlineStyle.Run

/-! The command line program. It gathers the surroundings of a run and writes down its transcript. -/

namespace InlineStyle

/-- The bytes of a file, or `none` if it cannot be read. -/
def fileBytes? (path : Text) : IO (Option (List UInt8)) := do
  try return some (← IO.FS.readBinFile (String.ofList path)).toList
  catch _ => return none

partial def streamBytes (stream : IO.FS.Stream) (read : ByteArray) : IO ByteArray := do
  let more ← stream.read 65536
  if more.isEmpty then return read else streamBytes stream (read ++ more)

/-- The settings file and standard input, each only if the run asks for it. -/
def gather (arguments : List Text) : IO (Option (List UInt8) × List UInt8) := do
  match Invocation.ofArguments arguments with
  | .error _ => return (none, [])
  | .ok invocation =>
    let file ← match invocation.config with
      | none => pure none
      | some path => fileBytes? path
    if invocation.command.readsInput then
      return (file, (← streamBytes (← IO.getStdin) .empty).toList)
    else return (file, [])

def Diagnostic.text : Diagnostic → Text
  | .note text => text
  | .record entry => entry.line

/-- Runs the program and answers its exit code. -/
def serve (arguments : List Text) : IO UInt32 := do
  let filter := (← IO.getEnv "RUST_LOG").map String.toList
  let (file, input) ← gather arguments
  let transcript := run { arguments, filter, file := fun _ => file, input }
  for diagnostic in transcript.diagnostics do
    IO.eprintln (String.ofList diagnostic.text)
  IO.print (String.ofList transcript.output)
  return UInt32.ofNat transcript.ending.exitCode

end InlineStyle

def main (arguments : List String) : IO UInt32 := InlineStyle.serve (arguments.map String.toList)
