/-
Vocabularies: fixed sets of words that a field of an action may hold.

A vocabulary lists its members and the word for each. Documents write the word; readers take it in
any case and with any punctuation, so `leftClick`, `LEFT_CLICK` and `left-click` all name the same
member. Messages name a vocabulary by its title.
-/
import DesktopMacro.Cause
import DesktopMacro.Text.Pieces

set_option autoImplicit false

namespace DesktopMacro

/-- A fixed set of words. -/
class Vocabulary (α : Type) where
  /-- The name of the vocabulary in messages. -/
  title : String
  members : List α
  word : α → String

namespace Vocabulary

/-- The letters and digits of a spelling, in small letters. -/
def token (spelling : String) : List Char :=
  (Text.lower spelling).toList.filter (fun c => c.isLower || c.isDigit)

/-- The word of a member without its underscores. -/
def bare (word : String) : List Char := word.toList.filter (· != '_')

/-- The member that a spelling names. -/
def find? {α : Type} [Vocabulary α] (spelling : String) : Option α :=
  (members (α := α)).find? (fun member => bare (word member) == token spelling)

/-- Reads a member. -/
def read {α : Type} [Vocabulary α] (raw : Json) : Except Cause α :=
  if raw.isWritable then
    match find? raw.display with
    | some member => .ok member
    | none => .error (.action (.unknownWord (@title α _) raw))
  else .error .numberUnwritable

/-- A word as messages show it: the parts between underscores, each with a capital. -/
def shown {α : Type} [Vocabulary α] (member : α) : String :=
  String.join ((Text.splitOn (word member) (· == '_')).map Text.capitalize)

end Vocabulary

/-! ## Input devices -/

/-- What the mouse does. -/
inductive MouseGesture where
  | leftClick
  | rightClick
  | middleClick
  | doubleClick
  | down
  | up
  | move
  | wheel
deriving DecidableEq, Repr

instance : Vocabulary MouseGesture where
  title := "MouseActionType"
  members := [.leftClick, .rightClick, .middleClick, .doubleClick, .down, .up, .move, .wheel]
  word
    | .leftClick => "left_click"
    | .rightClick => "right_click"
    | .middleClick => "middle_click"
    | .doubleClick => "double_click"
    | .down => "mouse_down"
    | .up => "mouse_up"
    | .move => "mouse_move"
    | .wheel => "mouse_wheel"

/-- What the keyboard does. -/
inductive KeyboardMode where
  | typeText
  | keyPress
  | combination
  | hotkey
deriving DecidableEq, Repr

instance : Vocabulary KeyboardMode where
  title := "KeyboardActionType"
  members := [.typeText, .keyPress, .combination, .hotkey]
  word
    | .typeText => "type_text"
    | .keyPress => "key_press"
    | .combination => "key_combination"
    | .hotkey => "hotkey"

/-! ## Variables and the clipboard -/

/-- What happens to a variable. -/
inductive VariableOperation where
  | setValue
  | increment
  | decrement
  | appendText
  | clearValue
  | addItem
  | removeItem
  | clearList
  | addRow
  | toggle
deriving DecidableEq, Repr

instance : Vocabulary VariableOperation where
  title := "VariableOperation"
  members := [.setValue, .increment, .decrement, .appendText, .clearValue, .addItem, .removeItem,
    .clearList, .addRow, .toggle]
  word
    | .setValue => "set_value"
    | .increment => "increment"
    | .decrement => "decrement"
    | .appendText => "append_text"
    | .clearValue => "clear_value"
    | .addItem => "add_list_item"
    | .removeItem => "remove_list_item"
    | .clearList => "clear_list"
    | .addRow => "add_table_row"
    | .toggle => "toggle"

/-! ## The browser -/

/-- What is done in the browser. -/
inductive BrowserOperation where
  | findAndClick
  | runScript
  | getCoordinates
deriving DecidableEq, Repr

instance : Vocabulary BrowserOperation where
  title := "BrowserOperation"
  members := [.findAndClick, .runScript, .getCoordinates]
  word
    | .findAndClick => "find_element_and_click"
    | .runScript => "execute_javascript"
    | .getCoordinates => "get_coordinates"

/-! ## Conditions -/

/-- Where an operand of a comparison comes from. -/
inductive OperandSource where
  | variable
  | clipboard
  | text
deriving DecidableEq, Repr

instance : Vocabulary OperandSource where
  title := "ConditionSource"
  members := [.variable, .clipboard, .text]
  word
    | .variable => "variable"
    | .clipboard => "clipboard"
    | .text => "text"

/-- How two operands are compared. -/
inductive Comparison where
  | equals
  | contains
  | startsWith
  | endsWith
  | differs
deriving DecidableEq, Repr

instance : Vocabulary Comparison where
  title := "ComparisonOperator"
  members := [.equals, .contains, .startsWith, .endsWith, .differs]
  word
    | .equals => "equals"
    | .contains => "contains"
    | .startsWith => "starts_with"
    | .endsWith => "ends_with"
    | .differs => "not_equals"

/-! ## Files -/

/-- Where the path of a file comes from. -/
inductive PathSource where
  | text
  | clipboard
  | variable
deriving DecidableEq, Repr

instance : Vocabulary PathSource where
  title := "FileSource"
  members := [.text, .clipboard, .variable]
  word
    | .text => "text"
    | .clipboard => "clipboard"
    | .variable => "variable"

/-- Where the content of a file goes. -/
inductive FileDestination where
  | variable
  | clipboard
deriving DecidableEq, Repr

instance : Vocabulary FileDestination where
  title := "FileDestination"
  members := [.variable, .clipboard]
  word
    | .variable => "variable"
    | .clipboard => "clipboard"

/-- How the bytes of a file stand for characters. -/
inductive FileEncoding where
  | utf8
  | ascii
  | utf16
  | utf32
  | preset
deriving DecidableEq, Repr

instance : Vocabulary FileEncoding where
  title := "FileEncoding"
  members := [.utf8, .ascii, .utf16, .utf32, .preset]
  word
    | .utf8 => "utf8"
    | .ascii => "ascii"
    | .utf16 => "utf16"
    | .utf32 => "utf32"
    | .preset => "default"

end DesktopMacro
