/-
Texts in pieces: cutting at a separator or at line ends, and finding a part.
-/

set_option autoImplicit false

namespace DesktopMacro.Text

/-! ## Cutting -/

/-- Cuts at each separator, which is dropped; there is one piece more than separators. -/
def splitAt (isSeparator : Char → Bool) : List Char → List (List Char)
  | [] => [[]]
  | c :: cs =>
    if isSeparator c then [] :: splitAt isSeparator cs
    else
      match splitAt isSeparator cs with
      | [] => [[c]]
      | piece :: pieces => (c :: piece) :: pieces

/-- The pieces of a text between the separators. -/
def splitOn (s : String) (isSeparator : Char → Bool) : List String :=
  (splitAt isSeparator s.toList).map String.ofList

/-- A character that ends a line; a carriage return and the line feed after it are one end. -/
def endsLine (c : Char) : Bool :=
  let n := c.toNat
  (10 ≤ n && n ≤ 13) || (28 ≤ n && n ≤ 30) || n == 0x85 || n == 0x2028 || n == 0x2029

/-- Cuts after line ends, which are dropped; `line` holds the line at hand, last character first. -/
def linesFrom : (line : List Char) → List Char → List (List Char)
  | line, [] => if line.isEmpty then [] else [line.reverse]
  | line, '\r' :: '\n' :: cs => line.reverse :: linesFrom [] cs
  | line, c :: cs =>
    if endsLine c then line.reverse :: linesFrom [] cs else linesFrom (c :: line) cs

/-- The lines of a text, without their ends; a text that ends with a line end has no empty last
line. -/
def lines (s : String) : List String := (linesFrom [] s.toList).map String.ofList

/-! ## Finding -/

/-- Does a text begin with another? -/
def startsWith (s start : String) : Bool := start.toList.isPrefixOf s.toList

/-- Does a text end with another? -/
def endsWith (s tail : String) : Bool := tail.toList.isSuffixOf s.toList

/-- Does `part` stand somewhere in the characters? -/
def hasPart (part : List Char) : List Char → Bool
  | [] => part.isEmpty
  | c :: cs => part.isPrefixOf (c :: cs) || hasPart part cs

/-- Does one text stand somewhere in another? -/
def contains (s part : String) : Bool := hasPart part.toList s.toList

end DesktopMacro.Text
