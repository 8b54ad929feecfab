/-
The command line.

A run is a function of the files, the environment and the clock. This module takes a picture of the part
of the file system that a run can look at, hands it over, and writes out what comes back. Directories
that every walk leaves out are not entered, and only sources and configuration files are read. Links are
resolved on the spot: one that leads to a file is taken for the file, and one that leads to a directory
stays a link. The picture has only names that are texts, and the output is taken to be written.
-/
import Overdue.Run
import Std.Time

set_option autoImplicit false

namespace Overdue

open Overdue.Calendar Overdue.CommandLine

/-! ## Files -/

/-- The fault for an error of the system. -/
def faultOf : IO.Error → IoFault
  | .noFileOrDirectory .. | .noSuchThing .. => .notFound
  | .permissionDenied .. => .denied
  | .inappropriateType .. => .notADirectory
  | _ => .failure

/-- What a file contains, if a run can ask for it. -/
def contentOf (path : Path) (wanted : Bool) : IO (Except IoFault ByteArray) := do
  if wanted || path.isSupported || path.fileName? == some (LayerFile.fileName : RawText) then
    try
      return .ok (← IO.FS.readBinFile path.text)
    catch e => return .error (faultOf e)
  else return .ok ByteArray.empty

mutual

/-- The picture of what stands at a path, under a name. A wanted entry is pictured whatever its name. -/
partial def picture (path : Path) (name : RawText) (wanted : Bool) : IO Entry := do
  let place ← IO.FS.realPath path.text
  match (← place.metadata).type with
  | .dir => if !wanted && isExcluded [] name path then return .directory name [] else pictureAll path name
  | .file => return .file name (← contentOf path wanted)
  | .symlink | .other => return .device name

/-- The picture of a directory. -/
partial def pictureAll (path : Path) (name : RawText) : IO Entry := do
  try
    let mut entries : List Entry := []
    for e in ← (← IO.FS.realPath path.text).readDir do
      let inner := path.join e.fileName
      let isLink := (← e.path.symlinkMetadata).type == .symlink
      let entry ←
        try
          if isLink && (← e.path.metadata).type == .dir then pure (Entry.link e.fileName ".")
          else picture inner e.fileName false
        catch _ => pure (Entry.device e.fileName)
      entries := entry :: entries
    return .directory name entries.reverse
  catch e => return .directory name [] { listing := some (faultOf e) }

end

/-- The file system with a picture of what stands at a path, if something does. -/
def FileSystem.withPicture (fs : FileSystem) (path : Path) : IO FileSystem := do
  try
    let entry ← picture path "" true
    return fs.create path fun name =>
      match entry with
      | .file _ content => .file name content
      | .device _ => .device name
      | .link _ target => .link name target
      | .directory _ entries refusals => .directory name entries refusals
      | .unknown _ fault => .unknown name fault
  catch _ => return fs

/-- The part of the file system that a run with given settings looks at. -/
def filesFor (s : Settings) : IO FileSystem := do
  let empty : FileSystem := ⟨[.directory "work" []], ["work"]⟩
  let root := scanRoot s.path
  let fs ← empty.withPicture root
  let config : Path :=
    match s.config with
    | some path => ⟨path⟩
    | none => (ConfigSource.directory fs root).join LayerFile.fileName
  if fs.isFile config then return fs else fs.withPicture config

/-! ## The clock -/

/-- A number in decimal digits, with zeros in front up to a width. -/
def digits (width n : Nat) : String :=
  let text := n.repr
  String.ofList (List.replicate (width - text.length) '0') ++ text

/-- A point in time, in microseconds since the start of the year 1970. -/
def timeText (microseconds : Nat) : String :=
  let seconds := microseconds / 1000000
  let epoch := ((Date.ofParts? 1970 1 1).map Date.dayNumber).getD 0
  let day := ((Date.ofDayNumber? (epoch + (seconds / 86400 : Nat))).map Date.toString).getD ""
  let time := ":".intercalate
    [digits 2 (seconds / 3600 % 24), digits 2 (seconds / 60 % 60), digits 2 (seconds % 60)]
  day ++ "T" ++ time ++ "." ++ digits 6 (microseconds % 1000000) ++ "Z"

/-- The current day. -/
def currentDay : IO Date := do
  let day ← Std.Time.PlainDate.now
  return (Date.ofParts? day.year day.month.val.toNat day.day.val.toNat).getD default

/-! ## The environment -/

/-- The variables of the environment that a run looks at. -/
def currentEnvironment : IO Environment := do
  return {
    date := ← IO.getEnv dateVariable
    log := ← IO.getEnv "RUST_LOG"
    noColor := ← IO.getEnv "NO_COLOR"
    color := ← IO.getEnv "CLICOLOR"
    forceColor := ← IO.getEnv "CLICOLOR_FORCE"
    terminal := ← (← IO.getStdout).isTty }

end Overdue

open Overdue Overdue.CommandLine in
/-- Runs the program with the arguments of the command line. -/
def main (arguments : List String) : IO UInt32 := do
  let environment ← currentEnvironment
  let files ←
    match Settings.ofArguments environment.date arguments with
    | .ok s => filesFor s
    | .error _ => pure ⟨[], []⟩
  let nanoseconds := (← Std.Time.Timestamp.now).toNanosecondsSinceUnixEpoch.val
  let world : World := {
    files := files
    environment := environment
    today := ← currentDay
    time := timeText (nanoseconds / 1000).toNat }
  let output := run world arguments
  (← IO.getStdout).putStr output.stdout
  (← IO.getStderr).putStr output.stderr
  return output.exit.toUInt32
