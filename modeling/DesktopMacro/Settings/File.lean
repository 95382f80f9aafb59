/-
The file that keeps the settings.

Loading always goes on with something: where there is no file, or none that can be used, the usual
settings stand in. A file that cannot be used is moved aside and kept. Saving writes a second file
first, so that the file is never left half written.
-/
import DesktopMacro.Files.Tree
import DesktopMacro.Note
import DesktopMacro.Settings.Basic

set_option autoImplicit false

namespace DesktopMacro.Settings

/-- A path that the settings name; one that is not absolute starts beside the settings file. -/
def resolve (file : Path) (path : String) : Path := file.parent.join (Path.ofText path)

/-- The settings in the text of a file. -/
def ofFileText (text : String) : Except Cause Settings := do
  match ← (Json.read text).mapError Cause.ofDocument with
  | .object members => read members
  | _ => .error (.badValue "Settings file has invalid structure")

/-- The settings in a file. -/
def ofFile (tree : FileTree) (file : Path) : Except Cause Settings := do
  ofFileText (← Codec.decode .utf8 (← tree.read file.toText))

/-- Can the usual settings stand in when a file cannot be used for a cause? An infinite number and
values that stand too deep go through as they are. -/
def isReplaceable : Cause → Bool
  | .infinityToWhole | .tooDeep _ => false
  | _ => true

/-- Moves a file that cannot be used aside. The note says so if that cannot be done. -/
def moveAside (tree : FileTree) (file : Path) : Except Cause (FileTree × List Note) := do
  let aside ← file.withEnding? ".bak"
  match tree.move file.toText aside.toText with
  | .ok tree => return (tree, [])
  | .error _ => return (tree, [⟨.warning, s!"Could not back up {file.toText}"⟩])

/-- The note on a file that cannot be used. -/
def unusableNote (file : Path) (cause : Cause) : Note :=
  ⟨.warning, s!"Settings file {file.toText} unusable ({cause.text}); using defaults"⟩

/-- **Loads the settings.** -/
def load (tree : FileTree) (file : Path) : Except Cause Settings × FileTree × List Note :=
  match tree.exists? file.toText with
  | .error cause => (.error cause, tree, [])
  | .ok false => (.ok usual, tree, [])
  | .ok true =>
    match ofFile tree file with
    | .ok settings => (.ok settings, tree, [])
    | .error cause =>
      if isReplaceable cause then
        match moveAside tree file with
        | .ok (after, notes) => (.ok usual, after, unusableNote file cause :: notes)
        | .error other => (.error other, tree, [unusableNote file cause])
      else (.error cause, tree, [])

/-- Saves the settings. -/
def save (settings : Settings) (file : Path) : FileTree.Filing Unit := do
  FileTree.Filing.demand file.parent
  let draft ← FileTree.Filing.look (fun _ => file.withEnding? ".tmp")
  let text ← FileTree.Filing.look (fun _ =>
    match settings.toJson.write? .document with
    | some text => .ok text
    | none => .error .numberUnwritable)
  FileTree.Filing.change (·.write draft.toText (Codec.encode text))
  FileTree.Filing.change (·.move draft.toText file.toText)

end DesktopMacro.Settings
