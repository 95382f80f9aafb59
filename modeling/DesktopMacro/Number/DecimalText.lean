/-
Doubles from decimal text: digits with an optional point and an optional exponent, rounded to the
nearest double, however many digits there are.
-/
import DesktopMacro.Number.Integer
import DesktopMacro.Number.Binary64

set_option autoImplicit false

attribute [local instance] DesktopMacro.corePower

namespace DesktopMacro.Binary64

/-- The double nearest to `digits * 10 ^ power`, for digits given as a number. Beyond the reach of
doubles the power is not computed. -/
def ofDecimal (negative : Bool) (digits : Nat) (power : Int) : Binary64 :=
  let top := Int.ofNat (Integer.digits digits).length + power
  if digits = 0 then zero negative
  else if 400 < top then infinity negative
  else if top < -400 then zero negative
  else ofRatio negative (digits * 10 ^ power.toNat) (10 ^ (-power).toNat)

/-- The double of a decimal: `whole`, then the digits after the point, times ten to the
exponent. -/
def ofDigits (negative : Bool) (whole after : List Char) (exponent : Int) : Binary64 :=
  ofDecimal negative (Integer.valueOf (whole ++ after)) (exponent - Int.ofNat after.length)

/-- An exponent: a sign and digits. -/
def readExponent : List Char → Option (Int × List Char)
  | [] => none
  | c :: cs =>
    let ds := if c == '+' || c == '-' then cs else c :: cs
    let run := ds.takeWhile Char.isDigit
    if run.isEmpty then none
    else
      let size := Int.ofNat (Integer.valueOf run)
      some (if c == '-' then -size else size, ds.dropWhile Char.isDigit)

/-- The digits, the point and the exponent of a decimal without a sign, all of it or nothing. -/
def readDecimal (negative : Bool) (cs : List Char) : Option Binary64 :=
  let whole := cs.takeWhile Char.isDigit
  let rest := cs.dropWhile Char.isDigit
  let (after, rest) :=
    match rest with
    | '.' :: more => (more.takeWhile Char.isDigit, more.dropWhile Char.isDigit)
    | _ => ([], rest)
  if whole.isEmpty && after.isEmpty then none
  else
    match rest with
    | [] => some (ofDigits negative whole after 0)
    | c :: more =>
      if c == 'e' || c == 'E' then
        match readExponent more with
        | some (power, []) => some (ofDigits negative whole after power)
        | _ => none
      else none

/-- A double from text: a decimal, or the name of an infinity or of what is no number, in any case,
with blanks around it. The digits may be those of any script, and single underscores may stand
between them. -/
def read? (text : String) : Option Binary64 :=
  let ascii := Integer.toAsciiFrom text.toList
  let cs := ((ascii.dropWhile Integer.isPadding).reverse.dropWhile Integer.isPadding).reverse
  let (negative, body) :=
    match cs with
    | '-' :: more => (true, more)
    | '+' :: more => (false, more)
    | _ => (false, cs)
  let name := String.ofList (body.map Char.toLower)
  if name == "nan" then some (ofParts negative quietMagnitude)
  else if name == "inf" || name == "infinity" then some (infinity negative)
  else if Integer.separatesDigits body then readDecimal negative (body.filter (· != '_'))
  else none

end DesktopMacro.Binary64
