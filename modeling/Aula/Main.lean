/-
The program: reads the file that the command line names and prints what
comes out. All decisions are taken in `Aula.CommandLine`.
-/
import Aula.CommandLine

namespace Aula.CommandLine

/-- The reason behind a failure of the system. -/
def ReadFailure.ofSystem : IO.Error → ReadFailure
  | .noFileOrDirectory .. => .notFound
  | .inappropriateType .. => .isDirectory
  | e => .other (toString e)

/-- Everything that is left to read from a stream. -/
def readToEnd (stream : IO.FS.Stream) : IO ByteArray := do
  let mut bytes := ByteArray.empty
  repeat
    let chunk ← stream.read 65536
    if chunk.isEmpty then break
    bytes := bytes ++ chunk
  return bytes

/-- The bytes of a file, or of the standard input for `-`. -/
def readFile (file : String) : IO (Except ReadFailure ByteArray) := do
  try
    if file = "-" then return .ok (← readToEnd (← IO.getStdin))
    else return .ok (← IO.FS.readBinFile file)
  catch e => return .error (.ofSystem e)

/-- Prints an outcome and gives its exit code. -/
def Outcome.print (o : Outcome) : IO UInt32 := do
  (← IO.getStdout).putStr (String.ofList o.stdout)
  (← IO.getStderr).putStr (String.ofList o.stderr)
  return o.exitCode.toUInt32

end Aula.CommandLine

open Aula.CommandLine

/-- Checks the program that the command line names. -/
def main (args : List String) : IO UInt32 := do
  match Invocation.ofWords args with
  | .version => Outcome.print { exitCode := 0, stdout := versionText }
  | .help => Outcome.print { exitCode := 0, stdout := usageText }
  | .refused => Outcome.print { exitCode := 2, stderr := usageText }
  | .check request => (respond request (← readFile request.file)).print
