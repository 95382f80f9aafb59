/-
The command line.

The first argument says what to do: `record` and `replay`, each with the arguments of its program.
The files are those below the work directory, read before the program runs and written back after it
where they have changed. No devices are attached: hotkeys and hooks are reported as missing, a
replay goes as far as its first input, and pauses take no time.
-/
import DesktopMacro.Session.Recording
import DesktopMacro.Session.Replay
import Std.Time.Format

set_option autoImplicit false

namespace DesktopMacro.CommandLine

/-- How deep the directories are looked into. -/
def deepest : Nat := 16

/-- The tree with what is in a directory, down to a depth. -/
def readInto (tree : FileTree) (parts : List String) (entries : Array IO.FS.DirEntry) :
    (depth : Nat) → IO FileTree
  | 0 => return tree
  | depth + 1 => do
    let mut tree := tree
    for entry in entries do
      let parts := parts ++ [entry.fileName]
      if ← entry.path.isDir then
        tree ← readInto (tree.plant parts .directory) parts (← entry.path.readDir) depth
      else
        tree := tree.plant parts (.file (← IO.FS.readBinFile entry.path).toList)
    return tree

/-- Brings the files up to date with a tree. -/
def writeBack (before after : FileTree) : IO Unit := do
  for (parts, bytes) in after.files do
    if !before.files.contains (parts, bytes) then
      let path : Path := ⟨"", parts⟩
      IO.FS.createDirAll path.parent.toText
      IO.FS.writeBinFile path.toText ⟨bytes.toArray⟩
  for (parts, _) in before.files do
    if !after.has parts then IO.FS.removeFile (Path.mk "" parts).toText

/-- The moment of the clock. -/
def now : IO Moment := do
  let t ← Std.Time.PlainDateTime.now
  return ⟨t.year.toInt.toNat, t.month.toNat, t.day.toNat, t.hour.toNat, t.minute.toNat,
    t.second.toNat, t.nanosecond.toNat / 1000⟩

/-- Identities that start with the same digits and differ by the place. -/
def identity (digits : String) (place : List Nat) : String :=
  "-".intercalate (digits :: place.map (fun part : Nat => Integer.toText part))

/-- Runs a program on the files of the work directory. -/
def run (program : Session Nat) : IO UInt32 := do
  let before ← readInto .empty [] (← (← IO.currentDir).readDir) deepest
  let (result, console) := (ExceptT.run program).run (.initial (← now) before)
  for text in console.printed.reverse do IO.println text
  writeBack before console.files
  match result with
  | .ok exit => return UInt32.ofNat exit
  | .error cause =>
    IO.eprintln cause.text
    return 1

/-- A desktop without devices. -/
def bareDesktop : Desktop Unit :=
  { hasPointer := false, hasKeyboard := false, hasSpare := false, hasTypist := false
    hasClipboard := false, expectsTypist := false, specials := Key.usualSpecials
    tell := fun _ => pure (), paste := pure "", wait := fun _ => pure () }

/-- No listeners. -/
def silent : ListenerSystem := ⟨false, fun _ => none⟩

/-- The settings file of the program. -/
def settingsFile : Path := .ofText "settings.json"

/-- The program that records. -/
def record (digits : String) (arguments : List String) : Session Nat :=
  Recording.main
    { hotkeys := silent, hooks := fun _ => silent, trustsCodes := false
      pointer := .fail (.failed (.unavailable "no pointer") none), clock := fun _ => .zero false
      supply := identity digits, idOf := fun serial => identity digits [serial] }
    () settingsFile arguments []

/-- The program that replays. -/
def replay (digits : String) (arguments : List String) : Session Nat := do
  let ending ← Replay.main
    { desktop := bareDesktop, pause := fun _ => pure (), hotkeys := silent
      supply := identity digits, freshDigits := digits }
    () settingsFile arguments
  return ending.exit

end DesktopMacro.CommandLine

open DesktopMacro.CommandLine in
def main (arguments : List String) : IO UInt32 := do
  let digits := String.ofList (DesktopMacro.Text.hexDigits 8 (← IO.rand 0 4294967295))
  match arguments with
  | "record" :: arguments => run (record digits arguments)
  | "replay" :: arguments => run (replay digits arguments)
  | _ =>
    IO.eprintln "record [library] [sequence] | replay library [sequence]"
    return 2
