/-
The decimal text of a double: the fewest digits that read back as the same double, and of those the
nearest to it.

`shortestDigits` tries one digit, two digits and so on up to seventeen. With a given number of
digits the decimals form a grid, and if any point of the grid reads back, so does one of the two
neighbours of the value; the nearer one is taken, and of two equally near ones the even one.
`layOut` then places the point: positional notation from 1e-4 up to 1e16, an exponent beyond.
-/
import DesktopMacro.Number.Integer
import DesktopMacro.Number.Binary64

set_option autoImplicit false

attribute [local instance] DesktopMacro.corePower

namespace DesktopMacro.Binary64

/-! ## The interval that reads back -/

/-- A positive double with what rounds to it, all four in one unit: `low / den` and `high / den` are
the ends of the interval, which belong to it if `closed`. -/
structure Neighbourhood where
  value : Nat
  low : Nat
  high : Nat
  den : Nat
  closed : Bool

/-- The neighbourhood of a positive finite double. Below a power of two the doubles lie closer. -/
def neighbourhood (x : Binary64) : Neighbourhood :=
  let scale := 2 ^ x.exponent.toNat
  let below := if x.fraction = 0 && 1 < x.exponentField then 1 else 2
  { value := 4 * x.significand * scale
    low := (4 * x.significand - below) * scale
    high := (4 * x.significand + 2) * scale
    den := 4 * 2 ^ (-x.exponent).toNat
    closed := x.significand % 2 == 0 }

/-- Does the decimal `steps * 10 ^ power` read back? -/
def Neighbourhood.admits (near : Neighbourhood) (steps : Nat) (power : Int) : Bool :=
  let point := steps * 10 ^ power.toNat * near.den
  let unit := 10 ^ (-power).toNat
  if near.closed then near.low * unit ≤ point && point ≤ near.high * unit
  else near.low * unit < point && point < near.high * unit

/-- The point of the grid `10 ^ power` nearest to the value among its two neighbours that read
back. -/
def Neighbourhood.onGrid (near : Neighbourhood) (power : Int) : Option Nat :=
  let num := near.value * 10 ^ (-power).toNat
  let den := near.den * 10 ^ power.toNat
  let below := num / den
  let nearest := roundDiv num den
  let other := if nearest = below then below + 1 else below
  if near.admits nearest power then some nearest
  else if near.admits other power then some other
  else none

/-- The exponent `e` with `10 ^ (e - 1) ≤ num / den < 10 ^ e`, for a positive ratio. -/
def decimalPlaces (num den : Nat) : Int :=
  if den ≤ num then Int.ofNat (Integer.digits (num / den)).length
  else
    let guess := 1 - Int.ofNat (Integer.digits (den / num)).length
    if den ≤ num * 10 ^ (-guess).toNat then guess + 1 else guess

/-- Tries `count` digits, then one more, while `tries` last. -/
def Neighbourhood.search (near : Neighbourhood) (places : Int) :
    (tries count : Nat) → Nat × Int
  | 0, _ => (near.value / near.den, 0)
  | tries + 1, count =>
    let power := places - Int.ofNat count
    match near.onGrid power with
    | some steps => (steps, power)
    | none => near.search places tries (count + 1)

/-- The shortest decimal of a positive finite double: `steps * 10 ^ power`. -/
def shortest (x : Binary64) : Nat × Int :=
  let near := x.neighbourhood
  near.search (decimalPlaces near.value near.den) 17 1

/-- The digits of the shortest decimal without zeros at the end, and the place of the point counted
from the first digit. -/
def shortestDigits (x : Binary64) : List Char × Int :=
  let (steps, power) := x.shortest
  let all := Integer.digits steps
  (((all.reverse.dropWhile (· == '0')).reverse), Int.ofNat all.length + power)

/-! ## Text -/

/-- The exponent, with its sign and at least two digits. -/
def exponentText (n : Int) : List Char :=
  let ds := Integer.digits n.natAbs
  (if n < 0 then '-' else '+') :: (if ds.length < 2 then '0' :: ds else ds)

/-- Digits with their point, or with an exponent outside of 1e-4 to 1e16. -/
def layOut (ds : List Char) (point : Int) : List Char :=
  if point ≤ -4 || 16 < point then
    match ds with
    | [] => []
    | [d] => d :: 'e' :: exponentText (point - 1)
    | d :: more => d :: '.' :: more ++ 'e' :: exponentText (point - 1)
  else if point ≤ 0 then
    '0' :: '.' :: List.replicate (-point).toNat '0' ++ ds
  else if point < Int.ofNat ds.length then
    ds.take point.toNat ++ '.' :: ds.drop point.toNat
  else
    ds ++ List.replicate (point.toNat - ds.length) '0' ++ ['.', '0']

/-- A double as text. -/
def toText (x : Binary64) : String :=
  if x.isNaN then "nan"
  else
    let body :=
      if x.isInfinite then ['i', 'n', 'f']
      else if x.isZero then ['0', '.', '0']
      else layOut x.shortestDigits.1 x.shortestDigits.2
    String.ofList (if x.isNegative then '-' :: body else body)

end DesktopMacro.Binary64
