import Std.Time.Format
import Vigil.Command.Run

/-!
# The program

What a command line does is decided by `Command.run`.  Here the program's surroundings are read,
and its output is written.

* `faultOf`: why the operating system refused to read a file;
* `now`: the time of day as records show it;
* `main`: the program.
-/

namespace Vigil.Program

/-- A refusal by the number that the operating system has for it, with its words.  Some calls give
the number with a minus. -/
def numbered (code : UInt32) (details : String) : IoFault :=
  match code.toInt32.toInt.natAbs with
  | 2 => .notFound
  | 20 => .notADirectory
  | 21 => .isADirectory
  | 36 => .nameTooLong
  | n => .other (details.capitalize ++ " (os error " ++ toString n ++ ")")

/-- Why the operating system refused to read a file. -/
def faultOf : IO.Error → IoFault
  | .alreadyExists _ code details | .otherError code details | .resourceBusy code details
  | .resourceVanished code details | .unsupportedOperation code details
  | .hardwareFault code details | .unsatisfiedConstraints code details
  | .illegalOperation code details | .protocolError code details | .timeExpired code details
  | .interrupted _ code details | .noFileOrDirectory _ code details
  | .invalidArgument _ code details | .permissionDenied _ code details
  | .resourceExhausted _ code details | .inappropriateType _ code details
  | .noSuchThing _ code details => numbered code details
  | .unexpectedEof => .other "unexpected end of file"
  | .userError text => .other text

/-- The bytes of a file, or why they cannot be had. -/
def readFile (path : String) : IO (Except IoFault ByteArray) := do
  if path.toList.contains '\x00' then return .error .nulInPath
  try
    return .ok (← IO.FS.readBinFile path)
  catch e =>
    return .error (faultOf e)

/-- The time in Greenwich, in microseconds. -/
def now : IO String := do
  let time ← Std.Time.Timestamp.now
  let wall := Std.Time.WallTime.ofDuration time.toDurationSinceUnixEpoch
  return (Std.Time.PlainDateTime.ofWallTime wall).format "uuuu-MM-dd'T'HH:mm:ss.SSSSSS'Z'"

/-- The path of the settings file that a command line names; nothing is read for any other. -/
def settingsPath? (words : List String) : Option String :=
  match Command.parse words with
  | .ok i => if i.task matches .check _ then some i.config else none
  | .error _ => none

end Vigil.Program

open Vigil in
/-- Read the surroundings, run the command line, write its output. -/
def main (words : List String) : IO UInt32 := do
  let content ← match Program.settingsPath? words with
    | some path => Program.readFile path
    | none => pure (.error .notFound)
  let environment : Command.Environment :=
    ⟨fun _ => content, ← IO.getEnv "RUST_LOG", ← Program.now⟩
  let output := Command.run environment words
  IO.print output.stdout
  IO.eprint output.stderr
  return UInt32.ofNat output.code
