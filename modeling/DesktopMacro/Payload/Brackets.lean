/-
Balanced brackets in free text.

A payload starts at a bracket and ends at the bracket that matches it. The scan counts opening and
closing brackets outside of strings. What it calls a string is simple: a quote is a boundary unless
the character right before it is a backslash, and the character behind the opening bracket has
nothing before it.
-/
set_option autoImplicit false

namespace DesktopMacro.Payload

/-- A kind of bracket. -/
structure Bracket where
  opening : Char
  closing : Char
deriving DecidableEq, Repr

/-- Curly brackets. -/
def Bracket.curly : Bracket := ⟨'{', '}'⟩

/-- Square brackets. -/
def Bracket.square : Bracket := ⟨'[', ']'⟩

/-- How far a scan has come: the brackets that are open beyond the first one, whether it is inside
a string, and the character just read. -/
structure Scan where
  depth : Nat
  inString : Bool
  previous : Option Char
deriving DecidableEq, Repr

/-- The scan behind the bracket that is to be matched. -/
def Scan.start : Scan := ⟨0, false, none⟩

/-- Does a quote read next begin or end a string? -/
def Scan.atBoundary (scan : Scan) : Bool := scan.previous != some '\\'

/-- One more character; none when it closes the first bracket. -/
def Scan.step (bracket : Bracket) (scan : Scan) (c : Char) : Option Scan :=
  if c == '"' && scan.atBoundary then some ⟨scan.depth, !scan.inString, some c⟩
  else if scan.inString then some ⟨scan.depth, true, some c⟩
  else if c == bracket.opening then some ⟨scan.depth + 1, false, some c⟩
  else if c == bracket.closing then
    match scan.depth with
    | 0 => none
    | depth + 1 => some ⟨depth, false, some c⟩
  else some ⟨scan.depth, false, some c⟩

/-- How many characters the scan passes before the one that closes the first bracket. -/
def closingDistance (bracket : Bracket) : Scan → List Char → Option Nat
  | _, [] => none
  | scan, c :: cs =>
    match scan.step bracket c with
    | none => some 0
    | some scan => (closingDistance bracket scan cs).map (· + 1)

/-- The place of the bracket that closes the one before place `start`, looking from there on. -/
def findClosingFrom (bracket : Bracket) (text : List Char) (start : Nat) : Option Nat :=
  (closingDistance bracket .start (text.drop start)).map (start + ·)

/-- The place of the bracket that closes the one at place `openIndex`. -/
def findClosing (bracket : Bracket) (text : List Char) (openIndex : Nat) : Option Nat :=
  findClosingFrom bracket text (openIndex + 1)

/-- The text that a scan from a place on goes through. A place below zero is counted from the end,
and the scan goes on at the beginning when it has come to the end. A text so short that it has no
such place is not scanned. -/
def textFrom? (text : List Char) (start : Int) : Option (List Char) :=
  if 0 ≤ start then some (text.drop start.toNat)
  else if start.natAbs ≤ text.length then
    some (text.drop (text.length - start.natAbs) ++ text)
  else none

/-- The place of the bracket that closes the one before place `start`, which may be below zero, as
may then the place that is found. -/
def findClosingAround? (bracket : Bracket) (text : List Char) (start : Int) :
    Option (Option Int) := do
  let scanned ← textFrom? text start
  return (closingDistance bracket .start scanned).map (fun distance => start + Int.ofNat distance)

/-! ## Candidates -/

/-- The piece of a text from its first bracket of a kind to the one that closes it. -/
def candidate? (bracket : Bracket) (text : List Char) : Option (List Char) := do
  let start ← text.findIdx? (· == bracket.opening)
  let last ← findClosing bracket text start
  return (text.drop start).take (last - start + 1)

/-- The pieces of a text that may be a payload: an object first, then a list. -/
def candidates (text : List Char) : List (List Char) :=
  [Bracket.curly, Bracket.square].filterMap (candidate? · text)

end DesktopMacro.Payload
