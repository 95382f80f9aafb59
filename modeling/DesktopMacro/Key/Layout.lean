/-
Keyboard layouts: which characters the keys type, and which key types a character.

Letters, the number pad and the space bar type the same under every layout. The digit keys and the
keys for signs are listed per layout, each with its character alone and its character with shift.
-/
import DesktopMacro.Key.Name

set_option autoImplicit false

namespace DesktopMacro

/-- A keyboard layout. -/
inductive Layout where
  | german
  | american
deriving DecidableEq, Repr

namespace Layout

/-- The layout of a name; a name that is not known means the German one. -/
def ofName (name : String) : Layout := if name == "us" then american else german

/-- A key with its two characters. -/
structure Legend where
  key : String
  plain : Char
  shifted : Char
deriving DecidableEq, Repr

/-- The keys of a layout that type a digit or a sign. -/
def legends : Layout → List Legend
  | german =>
    [⟨"D0", '0', '='⟩, ⟨"D1", '1', '!'⟩, ⟨"D2", '2', '"'⟩, ⟨"D3", '3', '§'⟩, ⟨"D4", '4', '$'⟩,
      ⟨"D5", '5', '%'⟩, ⟨"D6", '6', '&'⟩, ⟨"D7", '7', '/'⟩, ⟨"D8", '8', '('⟩, ⟨"D9", '9', ')'⟩,
      ⟨"OemPeriod", '.', ':'⟩, ⟨"OemComma", ',', ';'⟩, ⟨"OemMinus", '-', '_'⟩,
      ⟨"OemPlus", '+', '*'⟩, ⟨"Oem1", 'ü', 'Ü'⟩, ⟨"Oem2", '#', '\''⟩, ⟨"Oem3", 'ö', 'Ö'⟩,
      ⟨"Oem4", 'ß', '?'⟩, ⟨"Oem5", '^', '°'⟩, ⟨"Oem6", '´', '\x60'⟩, ⟨"Oem7", 'ä', 'Ä'⟩,
      ⟨"Oem102", '<', '>'⟩]
  | american =>
    [⟨"D0", '0', ')'⟩, ⟨"D1", '1', '!'⟩, ⟨"D2", '2', '@'⟩, ⟨"D3", '3', '#'⟩, ⟨"D4", '4', '$'⟩,
      ⟨"D5", '5', '%'⟩, ⟨"D6", '6', '^'⟩, ⟨"D7", '7', '&'⟩, ⟨"D8", '8', '*'⟩, ⟨"D9", '9', '('⟩,
      ⟨"OemPeriod", '.', '>'⟩, ⟨"OemComma", ',', '<'⟩, ⟨"OemMinus", '-', '_'⟩,
      ⟨"OemPlus", '=', '+'⟩, ⟨"Oem1", ';', ':'⟩, ⟨"Oem2", '/', '?'⟩, ⟨"Oem3", '\x60', '~'⟩,
      ⟨"Oem4", '[', '{'⟩, ⟨"Oem5", '\\', '|'⟩, ⟨"Oem6", ']', '}'⟩, ⟨"Oem7", '\'', '"'⟩,
      ⟨"Oem102", '\\', '|'⟩]

/-- The character of a key, with or without shift: a question mark for a key that types but is not
on the layout, and nothing for a key that does not type. -/
def charOf (layout : Layout) (key : String) (shift : Bool) : Option String :=
  if Key.letters.contains key then some (if shift then key else Text.lower key)
  else if Key.numpad.contains key then some (String.ofList (key.toList.drop 6))
  else if key == "Space" then some " "
  else if !Key.isPrintable key then none
  else
    match layout.legends.find? (fun legend => legend.key == key) with
    | none => some "?"
    | some legend => some (String.singleton (if shift then legend.shifted else legend.plain))

/-- Does the key of a legend type a text, and does it need shift for it? -/
def Legend.types? (typed : String) (legend : Legend) : Option (String × Bool) :=
  if typed == String.singleton legend.plain then some (legend.key, false)
  else if typed == String.singleton legend.shifted then some (legend.key, true)
  else none

/-- The key that types a text, and whether it needs shift. A text of ASCII letters is taken for the
key of that name. -/
def keyOf (layout : Layout) (typed : String) : Option (String × Bool) :=
  if typed.isEmpty then none
  else if typed == " " then some ("Space", false)
  else if typed.toList.all Char.isAlpha then
    some (Text.upper typed, typed.toList.all Char.isUpper)
  else layout.legends.findSome? (Legend.types? typed)

end Layout
end DesktopMacro
