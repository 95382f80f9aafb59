/-
What can go wrong, as causes, and the words for each.

There are two families. An `ActionFault` says that an action, or the data of one, is at fault; the
parts of the library that tolerate failing actions tolerate these. Every other `Cause` comes from
outside the actions: a number that cannot be converted, a file that cannot be read, a collaborator
that broke. Both carry the data that their words show, and the words stand in one function for each
family. Where those words would show a number that is too long to be written, the cause becomes that
of the number; `Cause.showing` is how a reader asks for it.
-/
import DesktopMacro.Json.Display
import DesktopMacro.Json.Reader
import DesktopMacro.Number.Arithmetic

set_option autoImplicit false

namespace DesktopMacro

/-! ## Files -/

/-- Why the file system refuses. -/
inductive FileFault where
  | missing
  | busy
  | present
  | notDirectory
  | isDirectory
  | nameTooLong
  | notEmpty
deriving DecidableEq, Repr

/-- The number of a refusal. -/
def FileFault.code : FileFault → Nat
  | missing => 2
  | busy => 16
  | present => 17
  | notDirectory => 20
  | isDirectory => 21
  | nameTooLong => 36
  | notEmpty => 39

/-- The words for a refusal. -/
def FileFault.text : FileFault → String
  | missing => "No such file or directory"
  | busy => "Device or resource busy"
  | present => "File exists"
  | notDirectory => "Not a directory"
  | isDirectory => "Is a directory"
  | nameTooLong => "File name too long"
  | notEmpty => "Directory not empty"

/-- Bytes that do not form a text: the encoding, the places of the bytes, the first of them, and
why. -/
structure DecodeFault where
  encoding : String
  first : UInt8
  start : Nat
  stop : Nat
  reason : String
deriving DecidableEq, Repr

/-- The words for bytes that do not form a text. -/
def DecodeFault.text (fault : DecodeFault) : String :=
  let bytes :=
    if fault.stop = fault.start + 1 then
      "byte 0x" ++ String.ofList (Text.hexDigits 2 fault.first.toNat)
        ++ s!" in position {fault.start}"
    else s!"bytes in position {fault.start}-{fault.stop - 1}"
  s!"'{fault.encoding}' codec can't decode {bytes}: {fault.reason}"

/-! ## Actions -/

/-- Which sort of action fault it is. -/
inductive FaultFamily where
  | general
  | noPayload
  | brokenPayload
  | directive
  | injection
deriving DecidableEq, Repr

/-- What is wrong with a directive of a payload. -/
inductive DirectiveFault where
  | rootNotObject (document : Json)
  | badWait (raw : Json)
  | badName (raw : Json)
  | badVariables
  | badClick (raw : Json)
  | badClickType (raw : Json)

/-- The words for a directive at fault. -/
def DirectiveFault.text : DirectiveFault → String
  | rootNotObject document => "JSON root must be an object, got " ++ document.kindName
  | badWait raw => "waitTime must be a non-negative integer, got " ++ raw.quoted
  | badName raw => "sequenceName must be a non-empty string, got " ++ raw.quoted
  | badVariables => "variables must be a flat object"
  | badClick raw => "clickAction needs integer x and y, got " ++ raw.quoted
  | badClickType raw => "Unknown click type " ++ raw.quoted

/-- The value that the words for a directive at fault show. -/
def DirectiveFault.shown : DirectiveFault → Json
  | rootNotObject _ | badVariables => .null
  | badWait raw | badName raw | badClick raw | badClickType raw => raw

/-- What is wrong with an action or with the data of one. -/
inductive ActionFault where
  /-- The data of an action is no object. -/
  | notObject (raw : Json)
  /-- A value names no member of a vocabulary. -/
  | unknownWord (vocabulary : String) (raw : Json)
  | unknownKind (raw : Json)
  /-- The kind can be read off none of the fields. -/
  | noKind (fields : List String)
  | notActions (field : String)
  | notKeys (raw : Json)
  | notMembers (field : String) (raw : Json)
  | notInteger (field : String) (raw : Json)
  | noSelector
  | elementNotFound (selector : String)
  | noCoordinates (result : Json)
  | unreadableFile (path reason : String)
  | emptySource (fromClipboard : Bool)
  | noPayload
  | brokenPayload (what : Json.Complaint) (place : Json.Place)
  | directive (fault : DirectiveFault)
  | unknownSequence (name : String)
  /-- A fault that a collaborator states in its own words. -/
  | stated (family : FaultFamily) (message : String)

namespace ActionFault

/-- The sort of a fault. -/
def family : ActionFault → FaultFamily
  | emptySource _ | noPayload => .noPayload
  | brokenPayload _ _ => .brokenPayload
  | directive _ => .directive
  | stated family _ => family
  | _ => .general

/-- The words for a fault. -/
def text : ActionFault → String
  | notObject raw => "Action data must be an object, got " ++ raw.kindName
  | unknownWord vocabulary raw => s!"Unknown {vocabulary} value: " ++ raw.quoted
  | unknownKind raw => "Unknown action type: " ++ raw.display
  | noKind fields => "Cannot determine action type from fields: " ++ ", ".intercalate fields
  | notActions field => s!"Field '{field}' must be a list of actions"
  | notKeys raw => "Field 'keys' must be a list of key names, got " ++ raw.quoted
  | notMembers field raw => s!"Field '{field}' must be an object, got " ++ raw.quoted
  | notInteger field raw => s!"Field '{field}' must be an integer, got " ++ raw.quoted
  | noSelector => "Browser action needs a selector"
  | elementNotFound selector => "Element not found: " ++ selector
  | noCoordinates result => "Script returned no coordinates: " ++ result.quoted
  | unreadableFile path reason => s!"Could not read '{path}': {reason}"
  | emptySource fromClipboard =>
    (if fromClipboard then "Clipboard" else "JSON template") ++ " is empty"
  | noPayload => "No JSON object or array found in text"
  | brokenPayload what place =>
    s!"JSON could not be repaired: {what.text}: line {place.line} column {place.column} "
      ++ s!"(char {place.offset})"
  | directive fault => fault.text
  | unknownSequence name => s!"Sequence '{name}' could not be found or executed"
  | stated _ message => message

end ActionFault

/-! ## Causes -/

/-- What went wrong. -/
inductive Cause where
  /-- An action or its data is at fault. -/
  | action (fault : ActionFault)
  /-- A number of so many digits is not read. -/
  | numberTooLong (count : Nat)
  /-- A number has too many digits to be written. -/
  | numberUnwritable
  /-- Values of a document, or actions, stand too deep inside one another. -/
  | tooDeep (holder : Option Json.Holder)
  /-- A text is no number. -/
  | notANumber (literal : String)
  /-- A whole number is too large for a double. -/
  | beyondDouble
  /-- An infinite double has no whole number. -/
  | infinityToWhole
  /-- What is no number has no whole number. -/
  | nanToWhole
  /-- A document cannot be read. -/
  | document (what : Json.Complaint) (place : Json.Place)
  /-- Bytes do not form a text. -/
  | undecodable (fault : DecodeFault)
  /-- A text in units of some bytes does not say which byte comes first. -/
  | noByteOrder (encoding : String)
  /-- The file system refuses a path; a move has a second one. -/
  | file (fault : FileFault) (path : String) (target : Option String)
  /-- A path holds a zero character. -/
  | zeroInPath
  | noModule (name : String)
  | nameTaken (name : String)
  /-- Something is asked for by a key that is not there; the words are the key in quotes. -/
  | missingKey (key : String)
  /-- A value has a type that the operation does not work on. -/
  | wrongType (message : String)
  /-- An argument has a value that is not allowed. -/
  | badValue (message : String)
  /-- A number is too large for what is done with it. -/
  | tooLarge (message : String)
  /-- The system does not have what is asked for. -/
  | unavailable (message : String)
  /-- The clipboard refuses, in words of its own. -/
  | clipboard (message : String)
  /-- A failure of a kind and in words that a collaborator states. -/
  | stated (kind message : String)

namespace Cause

/-- A literal as the complaint about it shows it. -/
def shownLiteral (literal : String) : String :=
  String.ofList ((Text.quote literal).toList.take 200)

/-- The words for a cause. -/
def text : Cause → String
  | action fault => fault.text
  | numberTooLong count =>
    s!"Exceeds the limit ({Integer.digitLimit} digits) for integer string conversion: value has "
      ++ s!"{count} digits; use sys.set_int_max_str_digits() to increase the limit"
  | numberUnwritable =>
    s!"Exceeds the limit ({Integer.digitLimit} digits) for integer string conversion; use "
      ++ "sys.set_int_max_str_digits() to increase the limit"
  | tooDeep none => "maximum recursion depth exceeded"
  | tooDeep (some holder) =>
    s!"maximum recursion depth exceeded while decoding a JSON {holder.word} from a unicode string"
  | notANumber literal => "invalid literal for int() with base 10: " ++ shownLiteral literal
  | beyondDouble => "int too large to convert to float"
  | infinityToWhole => "cannot convert float infinity to integer"
  | nanToWhole => "cannot convert float NaN to integer"
  | document what place =>
    s!"{what.text}: line {place.line} column {place.column} (char {place.offset})"
  | undecodable fault => fault.text
  | noByteOrder encoding => s!"{encoding} stream does not start with BOM"
  | file fault path target =>
    s!"[Errno {fault.code}] {fault.text}: " ++ Text.quote path
      ++ (match target with
        | none => ""
        | some target => " -> " ++ Text.quote target)
  | zeroInPath => "embedded null byte"
  | noModule name => s!"No module named '{name}'"
  | nameTaken name => s!"A sequence named '{name}' already exists"
  | missingKey key => Text.quote key
  | wrongType message => message
  | badValue message => message
  | tooLarge message => message
  | unavailable message => message
  | clipboard message => message
  | stated _ message => message

/-- A cause whose words show a value, or that of a number in the value that cannot be written. -/
def showing (value : Json) (cause : Cause) : Cause :=
  if value.isWritable then cause else numberUnwritable

/-- Is it an action, or the data of one, that is at fault? -/
def isAction : Cause → Bool
  | action _ => true
  | _ => false

/-- The cause behind an integer that cannot be read. -/
def ofInteger (literal : String) : Integer.Fault → Cause
  | .malformed => notANumber literal
  | .tooLong count => numberTooLong count

/-- The cause behind a double that has no whole number. -/
def ofWhole : Binary64.WholeFault → Cause
  | .infinite => infinityToWhole
  | .notANumber => nanToWhole

/-- The cause behind a document that cannot be read. -/
def ofDocument : Json.ReadError → Cause
  | .complaint what place => document what place
  | .numberTooLong count => numberTooLong count
  | .tooDeep holder => tooDeep (some holder)

end Cause
end DesktopMacro
