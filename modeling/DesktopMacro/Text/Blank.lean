/-
Blanks: the characters that count as white space, and the two things done with them, cutting them
off the ends of a text and cutting a text into words at them.

The set is the Unicode one, with the four information separators of ASCII (28 to 31) as well. It is
the same set everywhere in this library: in the names of keys and sequences, in numbers, in the
clean-up of a payload.
-/

set_option autoImplicit false

namespace DesktopMacro.Text

/-- White space: tab to carriage return, the information separators, the space, and the blanks that
Unicode adds. -/
def isBlank (c : Char) : Bool :=
  let n := c.toNat
  (9 ≤ n && n ≤ 13) || (28 ≤ n && n ≤ 32) || n == 0x85 || n == 0xa0 || n == 0x1680 ||
    (0x2000 ≤ n && n ≤ 0x200a) || n == 0x2028 || n == 0x2029 || n == 0x202f || n == 0x205f ||
    n == 0x3000

/-! ## Trimming -/

/-- Drops the blanks at the front. -/
def trimFront (cs : List Char) : List Char := cs.dropWhile isBlank

/-- Drops the blanks at the back. -/
def trimBack (cs : List Char) : List Char := (cs.reverse.dropWhile isBlank).reverse

/-- Drops the blanks at both ends. -/
def trimChars (cs : List Char) : List Char := trimBack (trimFront cs)

/-- A text without the blanks at its ends. -/
def trim (s : String) : String := String.ofList (trimChars s.toList)

/-- A text of blanks alone, the empty one included. -/
def isEmptyOrBlank (s : String) : Bool := s.toList.all isBlank

/-! ## Words -/

/-- Cuts at blanks; `word` holds the letters of the word at hand, last one first. -/
def wordsFrom : (word : List Char) → List Char → List (List Char)
  | word, [] => if word.isEmpty then [] else [word.reverse]
  | word, c :: cs =>
    if isBlank c then
      if word.isEmpty then wordsFrom [] cs else word.reverse :: wordsFrom [] cs
    else wordsFrom (c :: word) cs

/-- The words of a text: its longest pieces without a blank. -/
def words (s : String) : List String := (wordsFrom [] s.toList).map String.ofList

end DesktopMacro.Text
