/-
Letter case of whole texts: small letters, capitals, a capital at the front, and folding for
comparisons that ignore case.

ASCII is answered on the spot and every other character by the tables of
`DesktopMacro.Text.CaseTable`. One letter needs its surroundings: a capital sigma becomes the final
small sigma at the end of a word and the ordinary one elsewhere.
-/
import DesktopMacro.Text.CaseTable

set_option autoImplicit false

namespace DesktopMacro.Text

/-! ## One character -/

/-- The image of a character under a case map given by its runs and its wide entries. -/
def lookUpCase (runs : List CaseRun) (wide : List (Nat × List Nat)) (c : Char) : List Char :=
  let n := c.toNat
  match wide.find? (fun entry => entry.1 == n) with
  | some entry => entry.2.map Char.ofNat
  | none =>
    match runs.find? (fun run =>
        run.first ≤ n && n ≤ run.last && (n - run.first) % run.step == 0) with
    | some run => [Char.ofNat (Int.ofNat n + run.offset).toNat]
    | none => [c]

/-- A character of ASCII, which the case tables leave out. -/
def isAscii (c : Char) : Bool := c.toNat < 128

/-- The small form of a character, apart from the rule for a final sigma. -/
def lowerChar (c : Char) : List Char :=
  if isAscii c then [c.toLower] else lookUpCase lowerRuns lowerWide c

/-- The capital form of a character. -/
def upperChar (c : Char) : List Char :=
  if isAscii c then [c.toUpper] else lookUpCase upperRuns upperWide c

/-- The form of a character that opens a word. -/
def titleChar (c : Char) : List Char :=
  if isAscii c then [c.toUpper] else lookUpCase titleRuns titleWide c

/-- The folded form of a character. -/
def foldChar (c : Char) : List Char :=
  if isAscii c then [c.toLower] else lookUpCase foldRuns foldWide c

/-! ## The sigma that ends a word -/

/-- Is the character in one of the ranges? -/
def inRanges (ranges : List (Nat × Nat)) (c : Char) : Bool :=
  ranges.any (fun range => range.1 ≤ c.toNat && c.toNat ≤ range.2)

/-- Does a cased letter come first, once the characters that case rules look past are skipped? -/
def opensCased (cs : List Char) : Bool :=
  match cs.dropWhile (inRanges caseIgnorableRanges) with
  | [] => false
  | c :: _ => inRanges casedRanges c

/-- The small letters of a text; `before` is what precedes it, nearest character first. -/
def lowerAfter : (before : List Char) → List Char → List Char
  | _, [] => []
  | before, c :: cs =>
    (if c == 'Σ' then [if opensCased before && !opensCased cs then 'ς' else 'σ'] else lowerChar c)
      ++ lowerAfter (c :: before) cs

/-! ## Texts -/

/-- A text in small letters. -/
def lower (s : String) : String := String.ofList (lowerAfter [] s.toList)

/-- A text in capitals. -/
def upper (s : String) : String := String.ofList (s.toList.flatMap upperChar)

/-- A text folded: two texts are equal up to case when their folded forms are equal. -/
def fold (s : String) : String := String.ofList (s.toList.flatMap foldChar)

/-- A text with its first letter in the form that opens a word and small letters after it. -/
def capitalize (s : String) : String :=
  match s.toList with
  | [] => ""
  | c :: cs => String.ofList (titleChar c ++ lowerAfter [c] cs)

end DesktopMacro.Text
