import Vmodl.CommandLine.Run

/-!
# The tool

Runs the tool on the files of the machine.
-/

namespace Vmodl

open Files (Flaw Path Store)

/-- The reason of a refused operation. Some are reported with a negative code. -/
def Files.Flaw.ofCode (code : UInt32) (description : String) : Flaw :=
  let n := if code.toNat < 0x80000000 then code.toNat else UInt32.size - code.toNat
  match n with
  | 2 => .missing
  | 16 => .busy
  | 17 => .exists
  | 20 => .notDirectory
  | 21 => .isDirectory
  | n => .other n description

def Files.Flaw.ofError : IO.Error → Flaw
  | .alreadyExists _ code text => .ofCode code text
  | .otherError code text => .ofCode code text
  | .resourceBusy code text => .ofCode code text
  | .resourceVanished code text => .ofCode code text
  | .unsupportedOperation code text => .ofCode code text
  | .hardwareFault code text => .ofCode code text
  | .unsatisfiedConstraints code text => .ofCode code text
  | .illegalOperation code text => .ofCode code text
  | .protocolError code text => .ofCode code text
  | .timeExpired code text => .ofCode code text
  | .interrupted _ code text => .ofCode code text
  | .noFileOrDirectory _ code text => .ofCode code text
  | .invalidArgument _ code text => .ofCode code text
  | .permissionDenied _ code text => .ofCode code text
  | .resourceExhausted _ code text => .ofCode code text
  | .inappropriateType _ code text => .ofCode code text
  | .noSuchThing _ code text => .ofCode code text
  | .unexpectedEof => .other 0 "unexpected end of file"
  | .userError text => .other 0 text

/-- An operation with the reason why it was refused. -/
def attempted (x : IO α) : IO (Except Flaw α) := do
  try return .ok (← x) catch e => return .error (.ofError e)

def machine : Store IO where
  createDirectory p := attempted (IO.FS.createDir p.text)
  isDirectory p := do
    match ← attempted (IO.FS.readFile p.text) with
    | .error .isDirectory => return true
    | _ => return false
  read p := attempted (IO.FS.readFile p.text)
  write p content := attempted (IO.FS.writeFile p.text content)
  rename source target := attempted (IO.FS.rename source.text target.text)
  remove p := attempted (IO.FS.removeFile p.text)

end Vmodl

def main (arguments : List String) : IO UInt32 := do
  let report ← Vmodl.CommandLine.run Vmodl.machine arguments
  (← IO.getStdout).putStr report.output
  (← IO.getStderr).putStr report.errors
  return report.status.toUInt32
