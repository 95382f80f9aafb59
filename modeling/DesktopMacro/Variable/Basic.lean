/-
Variables: a name, a description and a value of one of four types.

The value carries its type, so a number variable holds a number and nothing else: a whole one, unless
something else was added to it, and then its text is without the fraction. Changing the type
starts over from the blank value of the new type; text is taken over only by asking for it. A list
is kept as text with a separator between its items, and the same text read line by line is a table.
-/
import DesktopMacro.Json.Conversion
import DesktopMacro.Note
import DesktopMacro.Quantity
import DesktopMacro.Text.Pieces

set_option autoImplicit false

namespace DesktopMacro

namespace Variable

/-- The types of values. -/
inductive Kind where
  | text
  | number
  | boolean
  | list
deriving DecidableEq, Repr

/-- The word for a type. -/
def Kind.word : Kind → String
  | text => "text"
  | number => "number"
  | boolean => "boolean"
  | list => "list"

/-- The type that a word names, in any case. -/
def Kind.ofWord? (word : String) : Option Kind :=
  [Kind.text, .number, .boolean, .list].find? (fun kind => kind.word == Text.lower word)

/-- A value of one of the types. -/
inductive Value where
  | text (s : String)
  | number (n : Quantity)
  | boolean (b : Bool)
  /-- The items with the separator between them. -/
  | list (s : String)
deriving DecidableEq, Repr

/-- The type of a value. -/
def Value.kind : Value → Kind
  | .text _ => .text
  | .number _ => .number
  | .boolean _ => .boolean
  | .list _ => .list

/-- The blank value of a type. -/
def Kind.blank : Kind → Value
  | text => .text ""
  | number => .number (.whole 0)
  | boolean => .boolean false
  | list => .list ""

/-- A value as text, unless it is a number that cannot be written. -/
def Value.show? : Value → Except Cause String
  | .text s => .ok s
  | .number n => do (Json.int (← n.truncate)).asText
  | .boolean b => .ok (if b then "True" else "False")
  | .list s => .ok s

/-- A value as a document holds it. -/
def Value.toJson : Value → Json
  | .text s => .text s
  | .number n => n.toJson
  | .boolean b => .bool b
  | .list s => .text s

/-! ## Reading a value from text -/

/-- The separator between the items of a list. -/
def separator : Char := ';'

/-- The number that a text stands for. -/
def numberOf? (text : String) : Option Int := (Integer.read (Text.trim text)).toOption

/-- The words for false and true. -/
def isTruthWord (lowered : String) : Bool := lowered == "true" || lowered == "false"

/-- Words that stand for true where a truth value is expected. -/
def affirmations : List String := ["1", "yes", "y", "on"]

/-- **The type that a text suggests**: a truth word, a number, a list if there is a separator, and
otherwise a text. -/
def inferKind (text : String) : Kind :=
  if isTruthWord (Text.lower (Text.trim text)) then .boolean
  else if (numberOf? text).isSome then .number
  else if text.toList.contains separator then .list
  else .text

/-- The note on a text that is no number. -/
def noNumberNote (text : String) : Note :=
  ⟨.warning, s!"Text '{text}' could not be converted to a number, setting to 0"⟩

/-- The value of the same type that a text stands for. A number stays when the text is empty and
becomes zero, with a note, when it is not a number; a truth value stays when the text is empty. -/
def Value.ofText (current : Value) (text : String) : Value × List Note :=
  match current with
  | .text _ => (.text text, [])
  | .list _ => (.list text, [])
  | .number n =>
    match numberOf? text with
    | some m => (.number (.whole m), [])
    | none =>
      if text.isEmpty then (.number n, []) else (.number (.whole 0), [noNumberNote text])
  | .boolean b =>
    if text.isEmpty then (.boolean b, [])
    else
      let lowered := Text.lower (Text.trim text)
      (.boolean (lowered == "true" || affirmations.contains lowered), [])

end Variable

/-- A variable. -/
structure Variable where
  name : String
  value : Variable.Value
  description : String
deriving DecidableEq, Repr

namespace Variable

/-- The type of a variable. -/
def kind (v : Variable) : Kind := v.value.kind

/-- A variable with the blank value of a type. -/
def blank (name : String) (kind : Kind) : Variable := ⟨name, kind.blank, ""⟩

/-- The variable with another value. -/
def withValue (v : Variable) (value : Value) : Variable := { v with value := value }

/-- The variable with the blank value of a type, whatever it held. -/
def convert (v : Variable) (kind : Kind) : Variable := v.withValue kind.blank

/-- The variable converted, unless it has the type already. -/
def ensureKind (v : Variable) (kind : Kind) : Variable :=
  if v.kind = kind then v else v.convert kind

/-- The variable with the value that a text stands for. -/
def assign (v : Variable) (text : String) : Variable × List Note :=
  let (value, notes) := v.value.ofText text
  (v.withValue value, notes)

/-! ## Lists, tables and truth values -/

/-- The items of a list, empty ones left out. -/
def items (v : Variable) : List String :=
  match v.value with
  | .list s => (Text.splitOn s (· == separator)).filter (fun item => !item.isEmpty)
  | _ => []

/-- The rows of a table, empty ones left out, each cut into its cells. -/
def table (v : Variable) : List (List String) :=
  match v.value with
  | .list s =>
    ((Text.lines s).filter (fun row => !row.isEmpty)).map (Text.splitOn · (· == separator))
  | _ => []

/-- Adds to a list, with a joint before the addition unless the list is empty. -/
def extend? (v : Variable) (joint addition : String) : Option Variable :=
  match v.value with
  | .list s => some (v.withValue (.list ((if s.isEmpty then "" else s ++ joint) ++ addition)))
  | _ => none

/-- Adds an item to a list. -/
def appendItem? (v : Variable) (item : String) : Option Variable :=
  v.extend? (String.singleton separator) item

/-- Adds a row to a table. -/
def appendRow? (v : Variable) (row : String) : Option Variable := v.extend? "\n" row

/-- Takes the item at a place out of a list. -/
def removeAt? (v : Variable) (index : Int) : Option Variable :=
  match v.value with
  | .list _ =>
    if 0 ≤ index && index < Int.ofNat v.items.length then
      some (v.withValue (.list
        ((String.singleton separator).intercalate (v.items.eraseIdx index.toNat))))
    else none
  | _ => none

/-- Empties a list. -/
def clearList? (v : Variable) : Option Variable :=
  match v.value with
  | .list _ => some (v.withValue (.list ""))
  | _ => none

/-- Turns a truth value around. -/
def toggle? (v : Variable) : Option Variable :=
  match v.value with
  | .boolean b => some (v.withValue (.boolean !b))
  | _ => none

/-! ## Documents -/

/-- A variable as a document holds it. -/
def toJson (v : Variable) : Json :=
  .object [("name", .text v.name), ("type", .text v.kind.word), ("value", v.value.toJson),
    ("description", .text v.description)]

/-- The value that a document gives to a type: one of that type as it is, and any other through its
text. -/
def Value.ofJson (kind : Kind) (raw : Json) : Noting Value :=
  match kind, raw with
  | _, .null => pure kind.blank
  | .boolean, .bool b => pure (.boolean b)
  | .number, .int n => pure (.number (.whole n))
  | _, _ => do
    let text ← Noting.lift raw.asText
    let (value, notes) := kind.blank.ofText text
    Noting.tell notes
    return value

/-- Reads a variable; a type that is missing or unknown is text. -/
def read (members : Members) : Noting Variable := do
  let kind := (Kind.ofWord? ((members.get? "type").getD (.text "text")).display).getD .text
  let name ← Noting.lift ((members.get? "name").getD (.text "")).asText
  let description := (members.get? "description").getD .null
  let description ← if description.isEmpty then pure "" else Noting.lift description.asText
  let value ← Value.ofJson kind ((members.get? "value").getD .null)
  return ⟨name, value, description⟩

end Variable
end DesktopMacro
