/-
Character classes: letters, digits, decimal digits with their value, and the characters that a
quoted text shows as they are.
-/
import DesktopMacro.Text.Case
import DesktopMacro.Text.ClassTable

set_option autoImplicit false

namespace DesktopMacro.Text

/-- A letter of any script. -/
def isLetter (c : Char) : Bool := if isAscii c then c.isAlpha else inRanges letterRanges c

/-- A digit of any script, superscript and circled ones included. -/
def isDigit (c : Char) : Bool := if isAscii c then c.isDigit else inRanges digitRanges c

/-- The value of a decimal digit of any script. -/
def decimalValue? (c : Char) : Option Nat :=
  if isAscii c then
    if c.isDigit then some (c.toNat - 48) else none
  else
    (decimalZeros.find? (fun first => first ≤ c.toNat && c.toNat ≤ first + 9)).map (c.toNat - ·)

/-- A character that a quoted text shows as it is. -/
def isShown (c : Char) : Bool :=
  if isAscii c then 32 ≤ c.toNat && c.toNat ≤ 126 else !inRanges hiddenRanges c

/-- A text of digits alone, with at least one. -/
def isDigits (s : String) : Bool := !s.isEmpty && s.toList.all isDigit

end DesktopMacro.Text
