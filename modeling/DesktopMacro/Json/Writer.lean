/-
Writing JSON.

There are two layouts, on one line or with an indent per level, and two ways with characters beyond
ASCII, as they are or by their number. `render` writes any value; a number that has too many digits
to be written makes the whole document unwritable, which is what `write?` reports.
-/
import DesktopMacro.Json.Value
import DesktopMacro.Number.Integer
import DesktopMacro.Number.Shortest
import DesktopMacro.Text.Quoted

set_option autoImplicit false

namespace DesktopMacro.Json

/-! ## Writable values -/

mutual

/-- Has every whole number in the value few enough digits to be written? -/
def isWritable : Json → Bool
  | int n => Integer.IsWritable n
  | list items => areWritable items
  | object members => membersWritable members
  | _ => true

def areWritable : List Json → Bool
  | [] => true
  | item :: items => item.isWritable && areWritable items

def membersWritable : List (String × Json) → Bool
  | [] => true
  | (_, value) :: members => value.isWritable && membersWritable members

end

/-! ## Strings -/

/-- How a document is laid out. -/
structure Layout where
  /-- Blanks per level, or everything on one line. -/
  indent : Option Nat
  /-- Are characters beyond ASCII written by their number? -/
  asciiOnly : Bool
deriving DecidableEq, Repr

/-- One line, ASCII only. -/
def Layout.compact : Layout := ⟨none, true⟩

/-- One line, characters as they are. -/
def Layout.plain : Layout := ⟨none, false⟩

/-- Two blanks per level, characters as they are: the layout of files. -/
def Layout.document : Layout := ⟨some 2, false⟩

/-- A unit of 16 bits by its number. -/
def unitEscape (unit : Nat) : List Char := '\\' :: 'u' :: Text.hexDigits 4 unit

/-- A character by its number; one that needs more than 16 bits takes two units. -/
def numberEscape (c : Char) : List Char :=
  let n := c.toNat
  if n < 0x10000 then unitEscape n
  else unitEscape (0xd800 + (n - 0x10000) / 0x400) ++ unitEscape (0xdc00 + (n - 0x10000) % 0x400)

/-- One character of a string. -/
def stringChar (asciiOnly : Bool) (c : Char) : List Char :=
  if c == '"' || c == '\\' then ['\\', c]
  else if c == '\n' then ['\\', 'n']
  else if c == '\r' then ['\\', 'r']
  else if c == '\t' then ['\\', 't']
  else if c == '\x08' then ['\\', 'b']
  else if c == '\x0c' then ['\\', 'f']
  else if c.toNat < 32 || (asciiOnly && 126 < c.toNat) then numberEscape c
  else [c]

/-- A string with its quotation marks. -/
def stringChars (asciiOnly : Bool) (s : String) : List Char :=
  '"' :: (s.toList.flatMap (stringChar asciiOnly) ++ ['"'])

/-! ## Values -/

/-- A double; infinities and what is no number have names. -/
def floatChars (x : Binary64) : List Char :=
  if x.isNaN then "NaN".toList
  else if x.isInfinite then (if x.isNegative then "-Infinity" else "Infinity").toList
  else x.toText.toList

/-- The line break before an item at a depth, if lines are broken. -/
def Layout.breakLine (layout : Layout) (depth : Nat) : List Char :=
  match layout.indent with
  | none => []
  | some width => '\n' :: List.replicate (width * depth) ' '

/-- What stands between two items at a depth. -/
def Layout.between (layout : Layout) (depth : Nat) : List Char :=
  match layout.indent with
  | none => [',', ' ']
  | some _ => ',' :: layout.breakLine depth

mutual

/-- The characters of a value that stands at a depth. -/
def chars (layout : Layout) (depth : Nat) : Json → List Char
  | null => "null".toList
  | bool b => (if b then "true" else "false").toList
  | int n => (Integer.toText n).toList
  | float x => floatChars x
  | text s => stringChars layout.asciiOnly s
  | list [] => ['[', ']']
  | list (item :: items) =>
    '[' :: (layout.breakLine (depth + 1) ++ chars layout (depth + 1) item
      ++ itemChars layout (depth + 1) items ++ layout.breakLine depth ++ [']'])
  | object [] => ['{', '}']
  | object ((name, value) :: members) =>
    '{' :: (layout.breakLine (depth + 1) ++ stringChars layout.asciiOnly name ++ [':', ' ']
      ++ chars layout (depth + 1) value
      ++ memberChars layout (depth + 1) members ++ layout.breakLine depth ++ ['}'])

/-- The items of a list after its first. -/
def itemChars (layout : Layout) (depth : Nat) : List Json → List Char
  | [] => []
  | item :: items =>
    layout.between depth ++ chars layout depth item ++ itemChars layout depth items

/-- The members of an object after its first. -/
def memberChars (layout : Layout) (depth : Nat) : List (String × Json) → List Char
  | [] => []
  | (name, value) :: members =>
    layout.between depth ++ stringChars layout.asciiOnly name ++ [':', ' ']
      ++ chars layout depth value ++ memberChars layout depth members

end

/-- A value as text. -/
def render (layout : Layout) (value : Json) : String := String.ofList (value.chars layout 0)

/-- A value as text, if all its numbers can be written. -/
def write? (layout : Layout) (value : Json) : Option String :=
  if value.isWritable then some (value.render layout) else none

end DesktopMacro.Json
