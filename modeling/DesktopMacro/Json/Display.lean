/-
Values as messages show them.

A text that stands alone is shown as it is, and inside anything else in quotation marks; the
constants are `None`, `True` and `False`; lists and objects are shown with their brackets. Like a
document, a message cannot show a number of too many digits: a caller asks `Json.isWritable`.
-/
import DesktopMacro.Json.Writer

set_option autoImplicit false

namespace DesktopMacro.Json

mutual

/-- A value with texts in quotation marks. -/
def quotedChars : Json → List Char
  | null => "None".toList
  | bool b => (if b then "True" else "False").toList
  | int n => (Integer.toText n).toList
  | float x => x.toText.toList
  | text s => (Text.quote s).toList
  | list items => '[' :: (quotedItems items ++ [']'])
  | object members => '{' :: (quotedMembers members ++ ['}'])

/-- Items with commas between them. -/
def quotedItems : List Json → List Char
  | [] => []
  | [item] => quotedChars item
  | item :: items => quotedChars item ++ [',', ' '] ++ quotedItems items

/-- Members with commas between them. -/
def quotedMembers : List (String × Json) → List Char
  | [] => []
  | [(name, value)] => (Text.quote name).toList ++ [':', ' '] ++ quotedChars value
  | (name, value) :: members =>
    (Text.quote name).toList ++ [':', ' '] ++ quotedChars value ++ [',', ' ']
      ++ quotedMembers members

end

/-- A value with texts in quotation marks. -/
def quoted (value : Json) : String := String.ofList value.quotedChars

/-- A value as a message shows it. -/
def display : Json → String
  | text s => s
  | value => value.quoted

end DesktopMacro.Json
