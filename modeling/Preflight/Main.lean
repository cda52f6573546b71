import Preflight.Command.Basic
import Std.Time.DateTime

/-!
# The program

Reads the files that the arguments name, answers the arguments, and prints the answer.
-/

namespace Preflight

/-- What stands at a path, read from the file system. -/
def readEntry (path : Path) : IO (Except Fault (Option Files.Entry)) := do
  if path.hasNull then return .ok none
  if path.isLong || path.parts.any Path.isLongName then return .error (.nameTooLong path.text)
  let place := (← IO.currentDir) / path.text
  if ← place.isDir then return .ok (some .directory)
  if ← place.pathExists then return .ok (some (.file (← IO.FS.readFile place)))
  return .ok none

/-- The files at some paths. -/
def readFiles (workingDirectory : Path) (paths : List Path) : IO Files := do
  let found ← paths.mapM fun path => return (path, ← readEntry path)
  return ⟨workingDirectory, fun path => (found.lookup path).getD (.ok none)⟩

/-- The present time in universal time. -/
def presentTime : IO Timestamp := do
  let seconds := (← Std.Time.Timestamp.now).toSecondsSinceUnixEpoch.val
  let day := Std.Time.PlainDate.ofEpochDay ⟨seconds / 86400⟩
  let date : Date := ⟨day.year.toInt.toNat, day.month.val.toNat, day.day.val.toNat⟩
  let second := (seconds % 86400).toNat
  return ⟨date, second / 3600, second / 60 % 60, second % 60, 0, some 0⟩

end Preflight

def main (arguments : List String) : IO UInt32 := do
  let workingDirectory := Preflight.Path.ofString (← IO.currentDir).toString
  let files ← Preflight.readFiles workingDirectory
    (Preflight.Command.pathsFor workingDirectory arguments)
  let clock : Preflight.Clock := ⟨.zero, ← Preflight.presentTime⟩
  match Preflight.Command.respond files clock arguments with
  | .ok outcome => do
    IO.print outcome.stdout
    IO.eprint outcome.stderr
    return UInt32.ofNat outcome.exitCode
  | .error fault => do
    IO.eprintln fault.message
    return 1
