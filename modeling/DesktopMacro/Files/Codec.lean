/-
Text as bytes.

Four encodings are read. In UTF-8 the first byte of a character says how many bytes follow and in
which range each of them lies; in UTF-16 and UTF-32 a mark at the start of the file says which byte
of a unit comes first, and without it the low byte does, but then the file is refused once it has
been read. A fault names the bytes that do not fit and the reason. What was read has its line breaks
brought to line feeds. Written text is UTF-8, as it is.
-/
import DesktopMacro.Action.Vocabulary

set_option autoImplicit false

namespace DesktopMacro.Codec

/-- The bytes of a text in UTF-8. -/
def encode (text : String) : List UInt8 := text.toUTF8.toList

/-- A fault at a place: the encoding, the bytes from there on, how many of them do not fit, and
why. -/
def faultAt (encoding : String) (start count : Nat) (bytes : List UInt8) (reason : String) :
    Cause :=
  .undecodable ⟨encoding, bytes.headD 0, start, start + count, reason⟩

/-! ## Single bytes -/

/-- Reads ASCII; `start` counts the bytes before. -/
def decodeAscii : (start : Nat) → List UInt8 → Except Cause (List Char)
  | _, [] => .ok []
  | start, byte :: bytes =>
    if byte.toNat < 128 then do
      return Char.ofNat byte.toNat :: (← decodeAscii (start + 1) bytes)
    else .error (faultAt "ascii" start 1 (byte :: bytes) "ordinal not in range(128)")

/-! ## UTF-8 -/

/-- The ranges of the bytes that follow a first byte; none if no character starts with it. -/
def followers? (first : Nat) : Option (List (Nat × Nat)) :=
  let any := (0x80, 0xbf)
  if first < 0x80 then some []
  else if first < 0xc2 then none
  else if first < 0xe0 then some [any]
  else if first = 0xe0 then some [(0xa0, 0xbf), any]
  else if first = 0xed then some [(0x80, 0x9f), any]
  else if first < 0xf0 then some [any, any]
  else if first = 0xf0 then some [(0x90, 0xbf), any, any]
  else if first < 0xf4 then some [any, any, any]
  else if first = 0xf4 then some [(0x80, 0x8f), any, any]
  else none

/-- The bits that a first byte gives to its character. -/
def firstBits (first : Nat) : Nat :=
  if first < 0x80 then first
  else if first < 0xe0 then first - 0xc0
  else if first < 0xf0 then first - 0xe0
  else first - 0xf0

/-- A character in the making: where it starts, the bytes from there on, how many of them were
read, the ranges of those to come, and the bits so far. -/
structure Unfinished where
  start : Nat
  bytes : List UInt8
  count : Nat
  expected : List (Nat × Nat)
  value : Nat

/-- Reads UTF-8 byte by byte; `start` counts the bytes before. -/
def decodeUtf8From : (start : Nat) → Option Unfinished → List UInt8 → Except Cause (List Char)
  | _, none, [] => .ok []
  | _, some unfinished, [] =>
    .error (faultAt "utf-8" unfinished.start unfinished.count unfinished.bytes
      "unexpected end of data")
  | start, none, byte :: bytes =>
    match followers? byte.toNat with
    | none => .error (faultAt "utf-8" start 1 (byte :: bytes) "invalid start byte")
    | some [] => do return Char.ofNat byte.toNat :: (← decodeUtf8From (start + 1) none bytes)
    | some expected =>
      decodeUtf8From (start + 1) (some ⟨start, byte :: bytes, 1, expected, firstBits byte.toNat⟩)
        bytes
  | start, some unfinished, byte :: bytes =>
    match unfinished.expected with
    | [] => decodeUtf8From (start + 1) none bytes
    | (low, high) :: more =>
      if low ≤ byte.toNat && byte.toNat ≤ high then
        let value := unfinished.value * 64 + (byte.toNat - 0x80)
        if more.isEmpty then do return Char.ofNat value :: (← decodeUtf8From (start + 1) none bytes)
        else
          decodeUtf8From (start + 1)
            (some { unfinished with count := unfinished.count + 1, expected := more, value }) bytes
      else
        .error (faultAt "utf-8" unfinished.start unfinished.count unfinished.bytes
          "invalid continuation byte")

/-! ## Wider units -/

/-- Which byte of a unit comes first. -/
inductive ByteOrder where
  | lowFirst
  | highFirst
deriving DecidableEq, Repr

/-- The number in the bytes of a unit. -/
def ByteOrder.value (order : ByteOrder) (bytes : List UInt8) : Nat :=
  let highFirst :=
    match order with
    | .lowFirst => bytes.reverse
    | .highFirst => bytes
  highFirst.foldl (fun value byte => value * 256 + byte.toNat) 0

/-- The name of an encoding with the order of its bytes. -/
def ByteOrder.nameIn (order : ByteOrder) (encoding : String) : String :=
  encoding ++ (match order with
    | .lowFirst => "-le"
    | .highFirst => "-be")

/-- Reads UTF-16; a character beyond the first plane takes two units. -/
def decodeUtf16 (order : ByteOrder) : (start : Nat) → List UInt8 → Except Cause (List Char)
  | _, [] => .ok []
  | start, [a] => .error (faultAt (order.nameIn "utf-16") start 1 [a] "truncated data")
  | start, a :: b :: c :: d :: rest =>
    let unit := order.value [a, b]
    let next := order.value [c, d]
    let bytes := a :: b :: c :: d :: rest
    if 0xdc00 ≤ unit && unit < 0xe000 then
      .error (faultAt (order.nameIn "utf-16") start 2 bytes "illegal encoding")
    else if 0xd800 ≤ unit && unit < 0xdc00 then
      if 0xdc00 ≤ next && next < 0xe000 then do
        let c := Char.ofNat (0x10000 + (unit - 0xd800) * 0x400 + (next - 0xdc00))
        return c :: (← decodeUtf16 order (start + 4) rest)
      else .error (faultAt (order.nameIn "utf-16") start 2 bytes "illegal UTF-16 surrogate")
    else do return Char.ofNat unit :: (← decodeUtf16 order (start + 2) (c :: d :: rest))
  | start, a :: b :: rest =>
    let unit := order.value [a, b]
    let bytes := a :: b :: rest
    if 0xdc00 ≤ unit && unit < 0xe000 then
      .error (faultAt (order.nameIn "utf-16") start 2 bytes "illegal encoding")
    else if 0xd800 ≤ unit && unit < 0xdc00 then
      .error (faultAt (order.nameIn "utf-16") start bytes.length bytes "unexpected end of data")
    else do return Char.ofNat unit :: (← decodeUtf16 order (start + 2) rest)

/-- Reads UTF-32. -/
def decodeUtf32 (order : ByteOrder) : (start : Nat) → List UInt8 → Except Cause (List Char)
  | _, [] => .ok []
  | start, a :: b :: c :: d :: rest =>
    let value := order.value [a, b, c, d]
    let bytes := a :: b :: c :: d :: rest
    if 0xd800 ≤ value && value < 0xe000 then
      .error (faultAt (order.nameIn "utf-32") start 4 bytes
        "code point in surrogate code point range(0xd800, 0xe000)")
    else if 0x110000 ≤ value then
      .error (faultAt (order.nameIn "utf-32") start 4 bytes "code point not in range(0x110000)")
    else do return Char.ofNat value :: (← decodeUtf32 order (start + 4) rest)
  | start, bytes =>
    .error (faultAt (order.nameIn "utf-32") start bytes.length bytes "truncated data")

/-- Refuses a file that has a unit but no mark of the order of its bytes. -/
def refuseUnmarked (encoding : String) (bytes : List UInt8) (read : Except Cause (List Char)) :
    Except Cause (List Char) := do
  let cs ← read
  if bytes.isEmpty then return cs else .error (.noByteOrder encoding)

/-- Reads UTF-16 with its mark. -/
def decodeMarkedUtf16 : List UInt8 → Except Cause (List Char)
  | 0xff :: 0xfe :: bytes => decodeUtf16 .lowFirst 2 bytes
  | 0xfe :: 0xff :: bytes => decodeUtf16 .highFirst 2 bytes
  | bytes => refuseUnmarked "UTF-16" bytes (decodeUtf16 .lowFirst 0 bytes)

/-- Reads UTF-32 with its mark. -/
def decodeMarkedUtf32 : List UInt8 → Except Cause (List Char)
  | 0xff :: 0xfe :: 0x00 :: 0x00 :: bytes => decodeUtf32 .lowFirst 4 bytes
  | 0x00 :: 0x00 :: 0xfe :: 0xff :: bytes => decodeUtf32 .highFirst 4 bytes
  | bytes => refuseUnmarked "UTF-32" bytes (decodeUtf32 .lowFirst 0 bytes)

/-! ## Texts -/

/-- Line breaks as line feeds. -/
def unifyLines : List Char → List Char
  | [] => []
  | '\r' :: '\n' :: cs => '\n' :: unifyLines cs
  | c :: cs => (if c == '\r' then '\n' else c) :: unifyLines cs

/-- The characters of a file. -/
def decodeChars : FileEncoding → List UInt8 → Except Cause (List Char)
  | .utf8, bytes | .preset, bytes => decodeUtf8From 0 none bytes
  | .ascii, bytes => decodeAscii 0 bytes
  | .utf16, bytes => decodeMarkedUtf16 bytes
  | .utf32, bytes => decodeMarkedUtf32 bytes

/-- The text of a file. -/
def decode (encoding : FileEncoding) (bytes : List UInt8) : Except Cause String := do
  return String.ofList (unifyLines (← decodeChars encoding bytes))

/-! ## Bytes as they are written down -/

/-- Bytes in hexadecimal digits, two for each. -/
def toHex (bytes : List UInt8) : String :=
  String.ofList (bytes.flatMap (fun byte => Text.hexDigits 2 byte.toNat))

/-- The bytes of hexadecimal digits; a pair that is none stands for zero. -/
def ofHexDigits : List Char → List UInt8
  | high :: low :: more =>
    UInt8.ofNat ((Json.hexNumber? [high, low]).getD 0) :: ofHexDigits more
  | _ => []

/-- The bytes of a text in hexadecimal digits. -/
def ofHex (digits : String) : List UInt8 := ofHexDigits digits.toList

end DesktopMacro.Codec
