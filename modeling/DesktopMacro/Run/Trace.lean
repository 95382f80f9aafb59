/-
What could be seen of a run, as a document.

Each event is a list: a word, and what belongs to it. A call on a device has what it is given by
position and by name. Pauses of the same length that follow one another are one entry with their
number; their length is given by the bits of the double, so nothing is lost.
-/
import DesktopMacro.Json.Value
import DesktopMacro.Run.Event
import DesktopMacro.Text.Quoted

set_option autoImplicit false

namespace DesktopMacro

/-- A double by its bits, in hexadecimal digits. -/
def Binary64.toHex (x : Binary64) : String :=
  if x.isNaN then "nan" else String.ofList (Text.hexDigits 16 x.bits.toNat)

/-- A list of texts. -/
def Json.texts (texts : List String) : Json := .list (texts.map .text)

/-- Names with values, in order. -/
def Json.pairs (members : Members) : Json :=
  .list (members.map (fun member => .list [.text member.1, member.2]))

/-! ## Calls -/

/-- What belongs to an input. -/
def Input.arguments : Input → List Json
  | click x y button | mouseDown x y button | mouseUp x y button =>
    [.int x, .int y, .text button.word]
  | doubleClick x y | moveTo x y => [.int x, .int y]
  | scroll x y delta => [.int x, .int y, .int delta]
  | pressKey key => [.text key]
  | pressCombination keys => [.texts keys]
  | typeText text charDelay => [.text text, .int charDelay]

/-- A key as it is shown. -/
def KeySymbol.toText : KeySymbol → String
  | special name => s!"<Key.{name}>"
  | typed text => text

/-- A button as it is shown. -/
def MouseButton.shown (button : MouseButton) : Json := .text s!"<Button.{button.word}>"

/-- What the spare device is given, by position and by name. -/
def SpareCall.arguments : SpareCall → List Json × Members
  | click x y count button =>
    ([], [("button", .text button.word), ("clicks", .int count), ("x", .int x), ("y", .int y)])
  | mouseDown x y button | mouseUp x y button =>
    ([], [("button", .text button.word), ("x", .int x), ("y", .int y)])
  | moveTo x y => ([.int x, .int y], [])
  | scroll notches x y => ([.int notches], [("x", .int x), ("y", .int y)])
  | press key => ([.text key], [])
  | combine keys => (keys.map .text, [])
  | write text interval => ([.text text], [("interval", .float interval)])

/-- What a device is given, by position and by name. -/
def DeviceCall.arguments : DeviceCall → List Json × Members
  | place x y => ([.int x, .int y], [])
  | click button count => ([button.shown, .int count], [])
  | press button | release button => ([button.shown], [])
  | scroll notches => ([.int 0, .int notches], [])
  | tapKey symbol | pressKey symbol | releaseKey symbol => ([.text symbol.toText], [])
  | typeChar c => ([.text (String.singleton c)], [])
  | spare call => call.arguments
  | dictate text pause =>
    ([.text text], [("pause", .float pause), ("with_newlines", .bool true),
      ("with_spaces", .bool true), ("with_tabs", .bool true)])
  | paste text | copy text => ([.text text], [])

/-- A call as an entry: the clipboard and the place of the pointer are simple, any other call has
its arguments in two lists. -/
def DeviceCall.toJson (call : DeviceCall) : Json :=
  match call with
  | place x y => .list [.text s!"{call.word}=", .list [.int x, .int y]]
  | paste text | copy text => .texts [call.word, text]
  | _ => .list [.text call.word, .list call.arguments.1, Json.pairs call.arguments.2]

/-! ## Events -/

/-- A note as an entry. -/
def Note.toJson (note : Note) : Json := .texts ["log", note.level.word, note.text]

/-- The entry of a number of pauses. -/
def pauseEntry (length : String) (count : Int) : Json :=
  .list [.text "sleep", .text length, .int count]

/-- The word for asking for a sequence: with variables or without. -/
def lookupWord (values : List (String × String)) : String :=
  if values.isEmpty then "run_by_name" else "run_with_variables"

namespace Event

/-- An event as an entry; diagnostic notes are left out. -/
def toJson? : Event → Option Json
  | logged note => if note.level = .debug then none else some note.toJson
  | paused seconds => some (pauseEntry seconds.toHex 1)
  | input call => some (.list (.text "call" :: .text call.word :: call.arguments))
  | clipboardRead text => some (.list [.text "read", text.elim .null .text])
  | clipboardWritten text => some (.texts ["write", text])
  | evaluated script => some (.texts ["evaluate", script])
  | lookedUp name values =>
    some (.list (.text (lookupWord values) :: .text name
      :: if values.isEmpty then []
        else [Json.pairs (values.map (fun entry => (entry.1, .text entry.2)))]))
  | device call => some call.toJson

/-- An entry before others; a pause counts with those after it. -/
def before (entry : Json) (entries : List Json) : List Json :=
  match entry, entries with
  | .list [.text "sleep", .text length, .int _],
    .list [.text "sleep", .text other, .int count] :: rest =>
    if length == other then pauseEntry length (count + 1) :: rest else entry :: entries
  | _, _ => entry :: entries

/-- **The entries of events**, in order. -/
def trace (events : List Event) : List Json := (events.filterMap toJson?).foldr before []

end Event
end DesktopMacro
