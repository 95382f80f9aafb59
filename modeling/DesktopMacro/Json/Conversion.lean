/-
Taking values for what they are not: any value as a text, and values as whole numbers.

As a text, a value is what is shown of it, unless a number in it is too long to be written. As a
whole number, a truth value counts as one or zero, a double loses its fraction, and a text is read
as an integer; any other value has none.
-/
import DesktopMacro.Cause

set_option autoImplicit false

namespace DesktopMacro.Json

/-- Any value as text. -/
def asText (raw : Json) : Except Cause String :=
  if raw.isWritable then .ok raw.display else .error .numberUnwritable

/-- The cause behind a value of a kind that has no whole number. -/
def notWhole (raw : Json) : Cause :=
  .wrongType ("int() argument must be a string, a bytes-like object or a real number, not '"
    ++ raw.kindName ++ "'")

/-- The whole number in a value. -/
def whole (raw : Json) : Except Cause Int :=
  match raw with
  | .bool b => .ok (if b then 1 else 0)
  | .int n => .ok n
  | .float x => x.truncate.mapError Cause.ofWhole
  | .text s => (Integer.read s).mapError (Cause.ofInteger s)
  | raw => .error raw.notWhole

end DesktopMacro.Json
