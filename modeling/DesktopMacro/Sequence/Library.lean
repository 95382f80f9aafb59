/-
Libraries: sequences in order, no two of one name, and the file that keeps them.

Names are compared without regard to case, and the name that is looked for may have blanks around
it. A document may hold a library, a bare list of sequences, or one sequence; of two sequences with
one name the first is kept. Saving writes a second file beside the first and moves it into place, so
the file that was there is either untouched or replaced as a whole.
-/
import DesktopMacro.Files.Tree
import DesktopMacro.Sequence.Basic

set_option autoImplicit false

namespace DesktopMacro

/-- Sequences in order. -/
structure Library where
  sequences : List Sequence

namespace Library

def empty : Library := ⟨[]⟩

def names (library : Library) : List String := library.sequences.map Sequence.name

/-- Does a sequence answer to a name? -/
def answersTo (wanted : String) (sequence : Sequence) : Bool :=
  Text.fold sequence.name == Text.fold (Text.trim wanted)

/-- The number of the sequence of a name. -/
def indexOf? (library : Library) (name : String) : Option Nat :=
  library.sequences.findIdx? (answersTo name)

/-- The sequence of a name. -/
def find? (library : Library) (name : String) : Option Sequence :=
  library.sequences.find? (answersTo name)

/-- Adds a sequence, unless its name is taken. -/
def add (library : Library) (sequence : Sequence) : Except Cause Library :=
  if (library.find? sequence.name).isSome then .error (.nameTaken sequence.name)
  else .ok ⟨library.sequences ++ [sequence]⟩

/-- Takes the sequence of a name out, if there is one. -/
def remove? (library : Library) (name : String) : Option Library :=
  (library.indexOf? name).map (fun index => ⟨library.sequences.eraseIdx index⟩)

/-- Changes the sequence of a number. -/
def modify (library : Library) (index : Nat) (change : Sequence → Sequence) : Library :=
  ⟨library.sequences.modify index change⟩

/-! ## Documents -/

/-- A library as a document holds it. -/
def toJson (library : Library) : Json :=
  .object [("sequences", .list (library.sequences.map Sequence.toJson))]

/-- What a document holds of sequences. -/
def sequencesOf (document : Json) : Except Cause (List Json) :=
  match document with
  | .list items => .ok items
  | .object members =>
    match Members.get? members "sequences" with
    | none => .ok [document]
    | some (.list items) => .ok items
    | some (.text _) | some (.object _) => .ok []
    | some raw =>
      if raw.isEmpty then .ok []
      else .error (.wrongType s!"'{raw.kindName}' object is not iterable")
  | _ => .ok []

/-- The note on a sequence whose name is taken. -/
def duplicateNote (name : String) : Note :=
  ⟨.warning, s!"Duplicate sequence name '{name}' skipped"⟩

/-- Reads sequences from a number on and adds them to a library. -/
def readFrom (supply : Action.Supply) (library : Library) : (index : Nat) → List Json →
    Noting Library
  | _, [] => pure library
  | index, .object members :: more => do
    let sequence ← Sequence.read supply [index] members
    match library.add sequence with
    | .ok library => readFrom supply library (index + 1) more
    | .error _ =>
      Noting.tell [duplicateNote sequence.name]
      readFrom supply library (index + 1) more
  | index, _ :: more => readFrom supply library (index + 1) more

/-- Reads a library. -/
def read (supply : Action.Supply) (document : Json) : Noting Library := do
  readFrom supply empty 0 (← Noting.lift (sequencesOf document))

/-! ## Files -/

/-- Reads the library in a file. -/
def load (supply : Action.Supply) (tree : FileTree) (path : String) : Noting Library := do
  let text ← Noting.lift do
    let bytes ← tree.read (Path.ofText path).toText
    Codec.decode .utf8 bytes
  let document ← Noting.lift ((Json.read text).mapError Cause.ofDocument)
  read supply document

/-- Saves the library to a file, by way of a second file beside it. -/
def save (library : Library) (path : String) : FileTree.Filing Unit := do
  let path := Path.ofText path
  FileTree.Filing.demand path.parent
  let draft ← FileTree.Filing.look (fun _ => path.withEnding? (path.ending ++ ".tmp"))
  let text ← FileTree.Filing.look (fun _ =>
    match library.toJson.write? .document with
    | some text => .ok text
    | none => .error .numberUnwritable)
  FileTree.Filing.change (·.write draft.toText (Codec.encode text))
  FileTree.Filing.change (·.move draft.toText path.toText)

end Library
end DesktopMacro
