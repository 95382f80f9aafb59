/-
Documents with comments and trailing commas.

Both are overwritten with blanks before the document is read, so that every character that is left
keeps its place and a complaint of the reader points into the text as it was given. First the
comments go, with their line breaks kept; then each comma that nothing but blanks separates from a
closing bracket.
-/
import DesktopMacro.Json.Reader
import DesktopMacro.Text.Blank

set_option autoImplicit false

namespace DesktopMacro.Payload

/-- What a character belongs to. -/
inductive Region where
  | code
  | string
  | escape
  | lineComment
  | blockComment
deriving DecidableEq, Repr

/-- A blank for a character of a comment, unless it breaks the line. -/
def blankOut (c : Char) : Char := if c == '\n' || c == '\r' then c else ' '

/-- Overwrites comments; a comment that never ends goes to the end of the text. -/
def blankComments : Region → List Char → List Char
  | _, [] => []
  | .code, '/' :: '/' :: cs => ' ' :: ' ' :: blankComments .lineComment cs
  | .code, '/' :: '*' :: cs => ' ' :: ' ' :: blankComments .blockComment cs
  | .code, c :: cs => c :: blankComments (if c == '"' then .string else .code) cs
  | .string, c :: cs =>
    c :: blankComments (if c == '\\' then .escape else if c == '"' then .code else .string) cs
  | .escape, c :: cs => c :: blankComments .string cs
  | .lineComment, c :: cs =>
    if c == '\n' then c :: blankComments .code cs
    else blankOut c :: blankComments .lineComment cs
  | .blockComment, '*' :: '/' :: cs => ' ' :: ' ' :: blankComments .code cs
  | .blockComment, c :: cs => blankOut c :: blankComments .blockComment cs

/-- Is the next character that is no blank a closing bracket? -/
def closesNext (cs : List Char) : Bool :=
  match cs.dropWhile Text.isBlank with
  | [] => false
  | c :: _ => c == '}' || c == ']'

/-- Overwrites commas before closing brackets, in a text without comments. -/
def blankCommas : Region → List Char → List Char
  | _, [] => []
  | .string, c :: cs =>
    c :: blankCommas (if c == '\\' then .escape else if c == '"' then .code else .string) cs
  | .escape, c :: cs => c :: blankCommas .string cs
  | region, c :: cs =>
    if c == '"' then c :: blankCommas .string cs
    else (if c == ',' && closesNext cs then ' ' else c) :: blankCommas region cs

/-- The text with its comments and trailing commas overwritten. -/
def blankRelaxed (text : List Char) : List Char := blankCommas .code (blankComments .code text)

/-- Reads a document that may hold comments and trailing commas. -/
def readRelaxed (text : List Char) : Except Json.ReadError Json :=
  Json.read (String.ofList (blankRelaxed text))

/-- Can the text be read as a document? That stays open where it goes too deep. -/
def isValid (text : List Char) : Except Json.ReadError Bool :=
  match readRelaxed text with
  | .ok _ => .ok true
  | .error (.tooDeep holder) => .error (.tooDeep holder)
  | .error _ => .ok false

end DesktopMacro.Payload
