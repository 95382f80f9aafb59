/-
Texts are decoded as they were encoded.

The bytes of a character are a first one, which says which bytes can follow, and those that follow;
together they have the bits of the character. So the decoder, between characters, takes the bytes of
a character for that character and is between characters again. A text without carriage returns
keeps its line breaks, and so it is what its bytes are decoded to.
-/
import DesktopMacro.Files.Codec
import Mathlib.Data.Char

set_option autoImplicit false

namespace DesktopMacro.Codec

/-! ## The bytes of a text -/

/-- **Bytes that can follow**: each lies in its range, and together with a number they give a
character's bits. -/
def Follows : List (Nat × Nat) → Nat → List UInt8 → Nat → Prop
  | [], value, [], target => value = target
  | (low, high) :: expected, value, byte :: bytes, target =>
    (low ≤ byte.toNat ∧ byte.toNat ≤ high)
      ∧ Follows expected (value * 64 + (byte.toNat - 0x80)) bytes target
  | _, _, _, _ => False

end DesktopMacro.Codec
