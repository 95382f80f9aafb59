/-
Whole numbers as decimal text.

Numbers are unbounded, but their text is not: a number of more digits than `digitLimit` is neither
written nor read. Reading takes the decimal digits of every script, blanks around the number, one
sign, and single underscores between digits. A reader that stops says why, and the excess of digits
is noticed as soon as the run of digits ends, before anything behind it is looked at.
-/
import DesktopMacro.Text.Blank
import DesktopMacro.Text.Classes

set_option autoImplicit false

namespace DesktopMacro.Integer

/-- The most digits that a written number may have. -/
def digitLimit : Nat := 4300

/-! ## Writing -/

/-- The digits of a number, leading one first. -/
def digits (n : Nat) : List Char := Nat.toDigits 10 n

/-- A number as text, however long. -/
def toText (n : Int) : String :=
  match n with
  | .ofNat m => String.ofList (digits m)
  | .negSucc m => String.ofList ('-' :: digits (m + 1))

/-- **A writable number** has no more digits than the limit. -/
def IsWritable (n : Int) : Prop := (digits n.natAbs).length ≤ digitLimit

instance (n : Int) : Decidable (IsWritable n) := inferInstanceAs (Decidable (_ ≤ _))

/-- A number as text, if it is writable. -/
def write? (n : Int) : Option String := if IsWritable n then some (toText n) else none

/-! ## Reading -/

/-- Why a text is no number. -/
inductive Fault where
  /-- The text does not have the form of a number. -/
  | malformed
  /-- The number has this many digits, which is more than the limit. -/
  | tooLong (count : Nat)
deriving DecidableEq, Repr

/-- A blank that may stand beside the digits. The information separators are blanks elsewhere, but
not here. -/
def isPadding (c : Char) : Bool := (9 ≤ c.toNat && c.toNat ≤ 13) || c == ' '

/-- The text in ASCII: digits of other scripts become ASCII digits and other blanks become spaces.
At the first character that is neither, a question mark stands for all that is left. -/
def toAsciiFrom : List Char → List Char
  | [] => []
  | c :: cs =>
    if c.toNat < 127 then c :: toAsciiFrom cs
    else if Text.isBlank c then ' ' :: toAsciiFrom cs
    else
      match Text.decimalValue? c with
      | some value => Char.ofNat (48 + value) :: toAsciiFrom cs
      | none => ['?']

/-- Do underscores stand singly and between digits, given whether a digit comes before? -/
def separatesFrom (afterDigit : Bool) : List Char → Bool
  | [] => true
  | c :: cs =>
    if c == '_' then afterDigit && cs.head?.any Char.isDigit && separatesFrom false cs
    else separatesFrom c.isDigit cs

/-- Underscores stand singly and between digits. -/
def separatesDigits (cs : List Char) : Bool := separatesFrom false cs

/-- The value of a run of ASCII digits, its underscores passed over. -/
def valueOf (run : List Char) : Nat :=
  run.foldl (fun value c => if c == '_' then value else 10 * value + (c.toNat - 48)) 0

/-- Reads the digits and what follows them, the sign being gone already. -/
def readRun (limit : Option Nat) (cs : List Char) : Except Fault Nat :=
  let inRun (c : Char) : Bool := c.isDigit || c == '_'
  let run := cs.takeWhile inRun
  let count := run.countP Char.isDigit
  if !separatesDigits run then .error .malformed
  else if limit.any (· < count) then .error (.tooLong count)
  else if run.isEmpty || !((cs.dropWhile inRun).all isPadding) then .error .malformed
  else .ok (valueOf run)

/-- Reads a number with at most `limit` digits, or of any length. -/
def readWithin (limit : Option Nat) (text : String) : Except Fault Int :=
  let cs := text.toList
  let ascii := if cs.all Text.isAscii then cs else toAsciiFrom cs
  match ascii.dropWhile isPadding with
  | '-' :: rest => (readRun limit rest).map (fun n => -Int.ofNat n)
  | '+' :: rest => (readRun limit rest).map Int.ofNat
  | rest => (readRun limit rest).map Int.ofNat

/-- Reads a number. -/
def read (text : String) : Except Fault Int := readWithin (some digitLimit) text

end DesktopMacro.Integer
