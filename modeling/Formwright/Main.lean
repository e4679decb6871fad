import Formwright.CommandLine.Run
import Std.Time.Zoned

/-!
# The program

Runs a command on the files of the disk. A templates directory is not listed: its files are those of
the built-in names and those that they include.
-/

namespace Formwright.Disk

/-- The code that the system gives for a directory in the place of a file. -/
def directoryCode : UInt32 := 21

/-- What prevents reading or writing a file, if it is the path. -/
def pathFault? : IO.Error → Option PathFault
  | .noFileOrDirectory .. => some .missing
  | .inappropriateType _ code _ =>
    some (if code == directoryCode then .directory else .notDirectory)
  | _ => none

def entry (path : Path) : IO Entry := do
  try
    return .file (← IO.FS.readFile path.text)
  catch e =>
    match pathFault? e with
    | some .directory => return .directory
    | some _ => return .missing
    | none => throw e

/-- The templates below a directory that are reached from some names, besides those found. -/
partial def reached (dir : Path) (found : List (String × String)) :
    List String → IO (List (String × String))
  | [] => return found
  | name :: names => do
    if (found.lookup name).isSome then reached dir found names
    else
      match ← entry (dir.join (Path.ofText name)) with
      | .file text => reached dir ((name, text) :: found) (Theme.namesIn text ++ names)
      | _ => reached dir found names

def write (path : Path) (text : String) : IO (Option PathFault) := do
  try
    IO.FS.writeFile path.text text
    return none
  catch e =>
    match pathFault? e with
    | some fault => return some fault
    | none => throw e

def files : Files IO where
  entry := entry
  templates dir := do return some (← reached dir [] (Template.builtIn.map (·.1)))
  write := write

def today : IO Date := do
  let day ← Std.Time.PlainDate.now
  return ⟨day.year.toInt.toNat, day.month.toNat, day.day.toNat⟩

end Formwright.Disk

open Formwright

def main (words : List String) : IO UInt32 := do
  let outcome ← Command.run Disk.files (← Disk.today) words
  IO.print outcome.output
  IO.eprint outcome.errorText
  return outcome.exitCode.toUInt32
