-- SUMMARY: The simulator as a program.
import AudioPolicy.CommandLine

/-! # The program

The program reads the two files that the arguments name and prints what the run of the
command line gives. Everything it decides is decided there. -/

namespace AudioPolicy

/-- What a file holds, or why it cannot be read. -/
def readFile (path : String) : IO (Except String String) := do
  match ← (IO.FS.readFile path).toBaseIO with
  | .ok text => return .ok text
  | .error (.noFileOrDirectory ..) => return .error Loading.noSuchFile
  | .error e => return .error (toString e)

/-- The files that the arguments name. -/
def readFiles (arguments : List String) : IO (List (String × Except String String)) :=
  match CommandLine.Request.ofArguments arguments with
  | .ok r => [r.config, r.scenario].mapM fun path => return (path, ← readFile path)
  | .error _ => return []

end AudioPolicy

/-- Runs the simulator. -/
def main (arguments : List String) : IO UInt32 := do
  let files ← AudioPolicy.readFiles arguments
  let result := AudioPolicy.CommandLine.run
    (fun path => (files.lookup path).getD (.error AudioPolicy.Loading.noSuchFile)) arguments
  for remark in result.remarks do
    IO.eprintln remark
  IO.print result.output
  return result.exit.toUInt32
