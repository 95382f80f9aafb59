/-
Reading JSON.

The grammar is the standard one with three more constants, `NaN`, `Infinity` and `-Infinity`. The
reader goes through the text once and stops at the first place where nothing that the grammar allows
can follow; a `Fault` names what was expected there and how much of the text was left, and `locate`
turns that into a line, a column and an offset, all counted in characters. A whole number with more
digits than the limit is a fault of its own, without a place, and so are lists and objects that
stand too deep inside one another.

The reader recurses with fuel, two units for each character: one step down into a value spends one
unit, and two steps in a row read at least one character, so the fuel of `readWithin` never runs
out.
-/
import DesktopMacro.Json.Value
import DesktopMacro.Number.Integer
import DesktopMacro.Number.DecimalText

set_option autoImplicit false

attribute [local instance] DesktopMacro.corePower

namespace DesktopMacro.Json

/-! ## Faults -/

/-- What is wrong at the place where reading stops. -/
inductive Complaint where
  | expectingValue
  | expectingName
  | expectingColon
  | expectingComma
  | extraData
  | unterminatedString
  | controlCharacter
  | badEscape
  | badUnicodeEscape
  | byteOrderMark
deriving DecidableEq, Repr

/-- The words for a complaint. -/
def Complaint.text : Complaint → String
  | expectingValue => "Expecting value"
  | expectingName => "Expecting property name enclosed in double quotes"
  | expectingColon => "Expecting ':' delimiter"
  | expectingComma => "Expecting ',' delimiter"
  | extraData => "Extra data"
  | unterminatedString => "Unterminated string starting at"
  | controlCharacter => "Invalid control character at"
  | badEscape => "Invalid \\escape"
  | badUnicodeEscape => "Invalid \\uXXXX escape"
  | byteOrderMark => "Unexpected UTF-8 BOM (decode using utf-8-sig)"

/-- The values that hold others. -/
inductive Holder where
  | list
  | object
deriving DecidableEq, Repr

/-- The word for a value that holds others. -/
def Holder.word : Holder → String
  | list => "array"
  | object => "object"

/-- How much a reader takes: digits of a whole number, and lists and objects inside one another. No
number is no limit. -/
structure Limits where
  digits : Option Nat
  depth : Option Nat
deriving DecidableEq, Repr

/-- The most lists and objects inside one another. -/
def depthLimit : Nat := 980

/-- The usual limits. -/
def Limits.usual : Limits := ⟨some Integer.digitLimit, some depthLimit⟩

/-- No limits. -/
def Limits.none : Limits := ⟨Option.none, Option.none⟩

/-- Why reading stopped: a complaint with the text that was left, a number too long to read, or a
value that stands too deep. -/
inductive Fault where
  | complaint (what : Complaint) (rest : List Char)
  | numberTooLong (count : Nat)
  | tooDeep (holder : Holder)
deriving DecidableEq, Repr

/-- A place in a text, counted in characters: line and column from one, offset from zero. -/
structure Place where
  line : Nat
  column : Nat
  offset : Nat
deriving DecidableEq, Repr

/-- The place at the end of the characters read so far. -/
def Place.after (front : List Char) : Place :=
  { line := front.count '\n' + 1
    column := (front.reverse.takeWhile (· != '\n')).length + 1
    offset := front.length }

/-- The place in a text at which so much of it is left. -/
def locate (whole rest : List Char) : Place :=
  Place.after (whole.take (whole.length - rest.length))

/-! ## Strings -/

/-- The value of a hexadecimal digit. -/
def hexValue? (c : Char) : Option Nat :=
  let n := c.toNat
  if 48 ≤ n && n ≤ 57 then some (n - 48)
  else if 97 ≤ n && n ≤ 102 then some (n - 87)
  else if 65 ≤ n && n ≤ 70 then some (n - 55)
  else none

/-- The value of hexadecimal digits. -/
def hexNumber? : List Char → Option Nat
  | [] => some 0
  | c :: cs => do
    let high ← hexValue? c
    let low ← hexNumber? cs
    return high * 16 ^ cs.length + low

/-- The character that a letter after a backslash stands for. -/
def escapedChar? (c : Char) : Option Char :=
  if c == '"' || c == '\\' || c == '/' then some c
  else if c == 'b' then some '\x08'
  else if c == 'f' then some '\x0c'
  else if c == 'n' then some '\n'
  else if c == 'r' then some '\r'
  else if c == 't' then some '\t'
  else none

/-- A piece of a string: a character, or a unit of 16 bits given by its number. -/
inductive Piece where
  | char (c : Char)
  | unit (n : Nat)
deriving DecidableEq, Repr

/-- Reads the pieces of a string up to its closing quote; `whole` is the string from its opening
quote on. -/
def readPieces (whole : List Char) : List Char → Except Fault (List Piece × List Char)
  | [] => .error (.complaint .unterminatedString whole)
  | '"' :: rest => .ok ([], rest)
  | '\\' :: 'u' :: a :: b :: c :: d :: e :: rest =>
    match hexNumber? [a, b, c, d] with
    | none => .error (.complaint .badUnicodeEscape ('u' :: a :: b :: c :: d :: e :: rest))
    | some n => do
      let (pieces, rest) ← readPieces whole (e :: rest)
      return (.unit n :: pieces, rest)
  | '\\' :: 'u' :: rest => .error (.complaint .badUnicodeEscape ('u' :: rest))
  | '\\' :: c :: rest =>
    match escapedChar? c with
    | none => .error (.complaint .badEscape ('\\' :: c :: rest))
    | some c => do
      let (pieces, rest) ← readPieces whole rest
      return (.char c :: pieces, rest)
  | c :: rest =>
    if c == '\\' then .error (.complaint .unterminatedString whole)
    else if c.toNat < 32 then .error (.complaint .controlCharacter (c :: rest))
    else do
      let (pieces, rest) ← readPieces whole rest
      return (.char c :: pieces, rest)

/-- The first or the second half of a character that takes two units. -/
def isHighHalf (n : Nat) : Bool := 0xd800 ≤ n && n < 0xdc00

/-- The second half of a character that takes two units. -/
def isLowHalf (n : Nat) : Bool := 0xdc00 ≤ n && n < 0xe000

/-- The characters of the pieces: two halves in a row are one character, and a half that stands
alone is shown by the replacement character. -/
def joinPieces : List Piece → List Char
  | [] => []
  | .char c :: rest => c :: joinPieces rest
  | [.unit n] => [if isHighHalf n || isLowHalf n then '\ufffd' else Char.ofNat n]
  | .unit n :: .char c :: rest =>
    (if isHighHalf n || isLowHalf n then '\ufffd' else Char.ofNat n) :: c :: joinPieces rest
  | .unit n :: .unit m :: rest =>
    if isHighHalf n && isLowHalf m then
      Char.ofNat (0x10000 + (n - 0xd800) * 0x400 + (m - 0xdc00)) :: joinPieces rest
    else
      (if isHighHalf n || isLowHalf n then '\ufffd' else Char.ofNat n)
        :: joinPieces (.unit m :: rest)

/-- Reads a string from behind its opening quote. -/
def readString (rest : List Char) : Except Fault (String × List Char) := do
  let (pieces, rest) ← readPieces ('"' :: rest) rest
  return (String.ofList (joinPieces pieces), rest)

/-! ## Numbers and constants -/

/-- A whole part: a zero, or digits that start with no zero. -/
def wholePart : List Char → Option (List Char × List Char)
  | [] => none
  | c :: cs =>
    if c == '0' then some ([c], cs)
    else if c.isDigit then some ((c :: cs).takeWhile Char.isDigit, (c :: cs).dropWhile Char.isDigit)
    else none

/-- The digits after a point, if there are any. -/
def fractionPart : List Char → List Char × List Char
  | '.' :: cs =>
    if (cs.takeWhile Char.isDigit).isEmpty then ([], '.' :: cs)
    else (cs.takeWhile Char.isDigit, cs.dropWhile Char.isDigit)
  | cs => ([], cs)

/-- An exponent, if there is one with digits. -/
def exponentPart : List Char → Option Int × List Char
  | [] => (none, [])
  | c :: cs =>
    if c == 'e' || c == 'E' then
      match Binary64.readExponent cs with
      | some (power, rest) => (some power, rest)
      | none => (none, c :: cs)
    else (none, c :: cs)

/-- Reads a number. Without a fraction and an exponent it is a whole one. -/
def readNumber (limits : Limits) (cs : List Char) : Except Fault (Json × List Char) :=
  let (negative, body) :=
    match cs with
    | '-' :: more => (true, more)
    | _ => (false, cs)
  match wholePart body with
  | none => .error (.complaint .expectingValue cs)
  | some (whole, rest) =>
    match fractionPart rest with
    | (after, rest) =>
      match exponentPart rest with
      | (power, rest) =>
        if after.isEmpty && power.isNone then
          if limits.digits.any (· < whole.length) then .error (.numberTooLong whole.length)
          else
            let n := Int.ofNat (Integer.valueOf whole)
            .ok (int (if negative then -n else n), rest)
        else .ok (float (Binary64.ofDigits negative whole after (power.getD 0)), rest)

/-- The words that stand for a value. -/
def constants : List (List Char × Json) :=
  [("null".toList, null), ("true".toList, bool true), ("false".toList, bool false),
    ("NaN".toList, float Binary64.nan), ("Infinity".toList, float (Binary64.infinity false)),
    ("-Infinity".toList, float (Binary64.infinity true))]

/-- Reads a constant or a number. -/
def readScalar (limits : Limits) (cs : List Char) : Except Fault (Json × List Char) :=
  match constants.find? (fun entry => entry.1.isPrefixOf cs) with
  | some (word, value) => .ok (value, cs.drop word.length)
  | none => readNumber limits cs

/-! ## Values -/

/-- A blank of the grammar. -/
def isGap (c : Char) : Bool := c == ' ' || c == '\t' || c == '\n' || c == '\r'

/-- The text after its blanks. -/
def skipGaps (cs : List Char) : List Char := cs.dropWhile isGap

/-- May a value stand inside so many others? -/
def Limits.allow (limits : Limits) (depth : Nat) (holder : Holder) : Except Fault Unit :=
  if limits.depth.any (· ≤ depth) then .error (.tooDeep holder) else .ok ()

mutual

/-- Reads a value that starts at once, inside so many others. -/
def readValue (limits : Limits) :
    (fuel : Nat) → (depth : Nat) → List Char → Except Fault (Json × List Char)
  | 0, _, cs => .error (.complaint .expectingValue cs)
  | _ + 1, _, '"' :: cs => do
    let (s, rest) ← readString cs
    return (text s, rest)
  | fuel + 1, depth, '{' :: cs => do
    limits.allow depth .object
    match skipGaps cs with
    | '}' :: rest => .ok (object [], rest)
    | rest => readMembers limits fuel (depth + 1) [] rest
  | fuel + 1, depth, '[' :: cs => do
    limits.allow depth .list
    match skipGaps cs with
    | ']' :: rest => .ok (list [], rest)
    | rest => readItems limits fuel (depth + 1) [] rest
  | _ + 1, _, cs => readScalar limits cs

/-- Reads the items of a list, at least one; `done` holds those before, last one first. -/
def readItems (limits : Limits) :
    (fuel depth : Nat) → (done : List Json) → List Char → Except Fault (Json × List Char)
  | 0, _, _, cs => .error (.complaint .expectingValue cs)
  | fuel + 1, depth, done, cs => do
    let (item, rest) ← readValue limits fuel depth cs
    match skipGaps rest with
    | ']' :: rest => return (list (item :: done).reverse, rest)
    | ',' :: rest => readItems limits fuel depth (item :: done) (skipGaps rest)
    | rest => .error (.complaint .expectingComma rest)

/-- Reads the members of an object, at least one, and puts them to those before. -/
def readMembers (limits : Limits) :
    (fuel depth : Nat) → (done : Members) → List Char → Except Fault (Json × List Char)
  | 0, _, _, cs => .error (.complaint .expectingValue cs)
  | fuel + 1, depth, done, cs => do
    match cs with
    | '"' :: rest =>
      let (name, rest) ← readString rest
      match skipGaps rest with
      | ':' :: rest =>
        let (value, rest) ← readValue limits fuel depth (skipGaps rest)
        match skipGaps rest with
        | '}' :: rest => return (object (done.put name value), rest)
        | ',' :: rest => readMembers limits fuel depth (done.put name value) (skipGaps rest)
        | rest => .error (.complaint .expectingComma rest)
      | rest => .error (.complaint .expectingColon rest)
    | rest => .error (.complaint .expectingName rest)

end

/-! ## Documents -/

/-- Reads a whole document. -/
def readChars (limits : Limits) (cs : List Char) : Except Fault Json :=
  if cs.head? == some '\ufeff' then .error (.complaint .byteOrderMark cs)
  else do
    let (value, rest) ← readValue limits (2 * cs.length + 2) 0 (skipGaps cs)
    match skipGaps rest with
    | [] => return value
    | rest => .error (.complaint .extraData rest)

/-- Why a document cannot be read. -/
inductive ReadError where
  | complaint (what : Complaint) (place : Place)
  | numberTooLong (count : Nat)
  | tooDeep (holder : Holder)
deriving DecidableEq, Repr

/-- Reads a document within limits. -/
def readWithin (limits : Limits) (text : String) : Except ReadError Json :=
  let whole := text.toList
  match readChars limits whole with
  | .ok value => .ok value
  | .error (.complaint what rest) => .error (.complaint what (locate whole rest))
  | .error (.numberTooLong count) => .error (.numberTooLong count)
  | .error (.tooDeep holder) => .error (.tooDeep holder)

/-- Reads a document. -/
def read (text : String) : Except ReadError Json := readWithin .usual text

end DesktopMacro.Json
