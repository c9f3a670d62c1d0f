import RelayFeeds.CommandLine
import Std.Time.DateTime.Timestamp

/-! # The program — reading files and printing

Files, environment variables and the clock are read here; all else is decided by the command line's
own functions. -/

namespace RelayFeeds.Program

/-- Why a file cannot be read, in the words of the operating system where it has some. -/
def reasonOf : IO.Error → String
  | .noFileOrDirectory .. => "No such file or directory (os error 2)"
  | .permissionDenied .. => "Permission denied (os error 13)"
  | .inappropriateType .. => "Is a directory (os error 21)"
  | other => other.toString

/-- The text of a file, or why it cannot be read. -/
def readText (path : String) : IO (Except String String) := do
  try
    return .ok (← IO.FS.readFile path)
  catch error => return .error (reasonOf error)

/-- Whether there is a file at a path, readable or not. -/
def isThere (path : String) : IO Bool := do
  try
    let _ ← IO.FS.Handle.mk path .read
    return true
  catch
    | .permissionDenied .. => return true
    | _ => return false

/-- The present time in seconds since the start of 1970. -/
def unixTime : IO UInt64 := do
  let now ← Std.Time.Timestamp.now
  return UInt64.ofNat now.toSecondsSinceUnixEpoch.val.toNat

/-- An environment variable, unless it is unset or empty. -/
def setting? (name : String) : IO (Option String) := do
  match ← IO.getEnv name with
  | some "" => return none
  | value => return value

/-- Runs the program and ends with its exit code. -/
def run (arguments : List String) : IO UInt32 := do
  let environment : Environment IO :=
    { textAt := readText
      isThere := isThere
      now := unixTime
      home := ← setting? "HOME"
      secretKey := ← setting? "SNOWFEED_NSEC" }
  let ended ← CommandLine.run environment arguments
  match ended with
  | .success output => IO.print output
  | .failure failure => IO.eprintln failure.report
  | .misuse => IO.eprint CommandLine.usage
  return ended.code

end RelayFeeds.Program

/-- The entry point of the program. -/
def main (arguments : List String) : IO UInt32 := RelayFeeds.Program.run arguments
