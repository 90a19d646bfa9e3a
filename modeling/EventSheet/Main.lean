import EventSheet.CommandLine.Run

/-!
# The program

The outermost layer: files come from the disk, and the outcome of a run goes to the standard streams
and into the exit code.
-/

namespace EventSheet

/-- The reason behind a failure of the system. -/
def ReadError.ofSystem : IO.Error → ReadError
  | .noFileOrDirectory _ _ _ => .notFound
  | .inappropriateType _ _ _ => .isDirectory
  | e => .system (toString e)

/-- Reads a file of the disk as a text. -/
def readFile (path : String) : IO (Except ReadError String) := do
  try
    let bytes ← IO.FS.readBinFile path
    match String.fromUTF8? bytes with
    | some text => return .ok text
    | none => return .error .notText
  catch e => return .error (.ofSystem e)

end EventSheet

def main (arguments : List String) : IO UInt32 := do
  let outcome ← EventSheet.run EventSheet.readFile arguments
  IO.print outcome.output
  IO.eprint outcome.errors
  return outcome.exitCode.toUInt32
