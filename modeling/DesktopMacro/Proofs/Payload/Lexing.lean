/-
What a document looks like to scanners.

Scanners do not read a document; they go over its characters and know whether they are inside of a
string. So what matters to them is said about the characters: `Regular` holds of the rest of a
document, at a number of open curly brackets. Outside of strings there are no backslashes and no
comments, a comma is not followed by a closing bracket, and curly brackets are balanced up to the
end; inside there are no raw control characters. A document that can be read is regular from behind
its opening bracket, by induction on what it spells.
-/
import DesktopMacro.Payload.Extraction
import DesktopMacro.Proofs.Json.Spelling

set_option autoImplicit false

namespace DesktopMacro.Payload

open Json (Gaps Spells)

variable {depth : Nat} {cs rest : List Char}

/-! ## Regular texts -/

/-- A character outside of strings that is neither a curly bracket nor a comma. -/
def isCode (c : Char) : Bool :=
  Json.isScalarChar c || Json.isGap c || c == '[' || c == ']' || c == ':'

/-- **What is left of a regular document**, with so many curly brackets open beyond the first. -/
inductive Regular : Nat → Position → List Char → Prop where
  | last : Regular 0 .outside ['}']
  | closed {depth : Nat} {cs : List Char} :
    Regular depth .outside cs → Regular (depth + 1) .outside ('}' :: cs)
  | opened {depth : Nat} {cs : List Char} :
    Regular (depth + 1) .outside cs → Regular depth .outside ('{' :: cs)
  | comma {depth : Nat} {cs : List Char} (h : closesNext cs = false) :
    Regular depth .outside cs → Regular depth .outside (',' :: cs)
  | code {depth : Nat} {c : Char} {cs : List Char} (h : isCode c = true) :
    Regular depth .outside cs → Regular depth .outside (c :: cs)
  | quote {depth : Nat} {cs : List Char} :
    Regular depth .inside cs → Regular depth .outside ('"' :: cs)
  | unquote {depth : Nat} {cs : List Char} :
    Regular depth .outside cs → Regular depth .inside ('"' :: cs)
  | plain {depth : Nat} {c : Char} {cs : List Char} (hquote : c ≠ '"') (hescape : c ≠ '\\')
    (hcontrol : controlLetter? c = none) :
    Regular depth .inside cs → Regular depth .inside (c :: cs)
  | escape {depth : Nat} (c : Char) {cs : List Char} :
    Regular depth .inside cs → Regular depth .inside ('\\' :: c :: cs)

theorem isCode_of_isGap {c : Char} (h : Json.isGap c = true) : isCode c = true := by
  rcases Json.gap_cases h with rfl | rfl | rfl | rfl <;> rfl

theorem isCode_of_isScalarChar {c : Char} (h : Json.isScalarChar c = true) : isCode c = true := by
  unfold isCode
  rw [h]
  rfl

namespace Regular

theorem gaps (h : Regular depth .outside rest) (hgaps : Gaps cs rest) :
    Regular depth .outside cs := by
  induction hgaps with
  | none => exact h
  | more hc _ ih => exact .code (isCode_of_isGap hc) (ih h)

theorem run {run : List Char} (hrun : ∀ c ∈ run, Json.isScalarChar c = true)
    (h : Regular depth .outside rest) : Regular depth .outside (run ++ rest) := by
  induction run with
  | nil => exact h
  | cons c run ih =>
    have hc := hrun c List.mem_cons_self
    exact .code (isCode_of_isScalarChar hc) (ih fun d hd => hrun d (List.mem_cons_of_mem c hd))

end Regular

/-! ## Strings -/

theorem controlLetter?_of_le {c : Char} (h : 32 ≤ c.toNat) : controlLetter? c = none := by
  have hne : ∀ d : Char, d.toNat < 32 → c ≠ d := by
    rintro d hd rfl
    omega
  simp [controlLetter?, hne '\n' (by decide), hne '\r' (by decide), hne '\t' (by decide),
    hne '\x08' (by decide), hne '\x0c' (by decide)]

/-- A hexadecimal digit is a character like any other. -/
theorem plain_of_hexValue? {c : Char} {n : Nat} (h : Json.hexValue? c = some n) :
    c ≠ '"' ∧ c ≠ '\\' ∧ 32 ≤ c.toNat := by
  have hquote : c ≠ '"' := by
    rintro rfl
    cases h
  have hescape : c ≠ '\\' := by
    rintro rfl
    cases h
  refine ⟨hquote, hescape, ?_⟩
  by_contra hlt
  have hnone : Json.hexValue? c = none := by
    unfold Json.hexValue?
    simp only [Bool.and_eq_true, decide_eq_true_eq]
    rw [if_neg (by omega), if_neg (by omega), if_neg (by omega)]
  rw [hnone] at h
  cases h

/-- All digits of a hexadecimal number are digits. -/
theorem plain_of_hexNumber? {digits : List Char} {n : Nat} (h : Json.hexNumber? digits = some n) :
    ∀ c ∈ digits, c ≠ '"' ∧ c ≠ '\\' ∧ 32 ≤ c.toNat := by
  induction digits generalizing n with
  | nil => nofun
  | cons c digits ih =>
    unfold Json.hexNumber? at h
    obtain ⟨high, hhigh, h⟩ := Option.bind_eq_some_iff.1 h
    obtain ⟨low, hlow, -⟩ := Option.bind_eq_some_iff.1 h
    intro d hd
    rcases List.mem_cons.1 hd with rfl | hrest
    · exact plain_of_hexValue? hhigh
    · exact ih hlow d hrest

theorem Regular.digits {digits : List Char}
    (hplain : ∀ c ∈ digits, c ≠ '"' ∧ c ≠ '\\' ∧ 32 ≤ c.toNat)
    (h : Regular depth .inside cs) : Regular depth .inside (digits ++ cs) := by
  induction digits with
  | nil => exact h
  | cons c digits ih =>
    obtain ⟨hquote, hescape, hle⟩ := hplain c List.mem_cons_self
    exact .plain hquote hescape (controlLetter?_of_le hle)
      (ih fun d hd => hplain d (List.mem_cons_of_mem c hd))

theorem regular_of_pieces {pieces : List Json.Piece} (hpieces : Json.Pieces pieces cs rest)
    (h : Regular depth .outside rest) : Regular depth .inside cs := by
  induction hpieces with
  | closed rest => exact .unquote h
  | @unit a b c d n pieces cs rest hnumber _ ih =>
    exact .escape 'u' (Regular.digits (plain_of_hexNumber? hnumber) (ih h))
  | escape _ _ ih => exact .escape _ (ih h)
  | plain hquote hescape hcontrol _ ih =>
    exact .plain hquote hescape (controlLetter?_of_le hcontrol) (ih h)

theorem regular_of_quoted {s : String} (hquoted : Json.Quoted s cs rest)
    (h : Regular depth .outside rest) : Regular depth .inside cs := by
  obtain ⟨pieces, -, hpieces⟩ := hquoted
  exact regular_of_pieces hpieces h

/-! ## Values -/

theorem isBlank_of_isGap {c : Char} (h : Json.isGap c = true) : Text.isBlank c = true := by
  rcases Json.gap_cases h with rfl | rfl | rfl | rfl <;> decide

theorem toNat_of_isScalarChar {c : Char} (h : Json.isScalarChar c = true) :
    43 ≤ c.toNat ∧ c.toNat ≤ 122 := by
  unfold Json.isScalarChar Char.isAlphanum Char.isAlpha Char.isUpper Char.isLower Char.isDigit at h
  simp only [Bool.or_eq_true, Bool.and_eq_true, decide_eq_true_eq, beq_iff_eq,
    UInt32.le_iff_toNat_le, ge_iff_le] at h
  have hval : c.val.toNat = c.toNat := rfl
  rw [hval] at h
  rcases h with ((hletter | rfl) | rfl) | rfl
  · have hletters : 'A'.val.toNat = 65 ∧ 'Z'.val.toNat = 90 ∧ 'a'.val.toNat = 97
        ∧ 'z'.val.toNat = 122 := by decide
    have hdigits : '0'.val.toNat = 48 ∧ '9'.val.toNat = 57 := by decide
    omega
  · decide
  · decide
  · decide

/-- What begins a value is printable, and no blank. -/
theorem not_isBlank_of_beginsValue {c : Char} (h : Json.beginsValue c = true) :
    Text.isBlank c = false := by
  simp only [Json.beginsValue, Bool.or_eq_true, beq_iff_eq] at h
  rcases h with ((rfl | rfl) | rfl) | hscalar
  · decide
  · decide
  · decide
  · have hbounds := toNat_of_isScalarChar hscalar
    simp only [Text.isBlank, Bool.or_eq_false_iff, Bool.and_eq_false_iff, decide_eq_false_iff_not,
      beq_eq_false_iff_ne]
    omega

/-- Behind blanks, what begins a value closes nothing. -/
theorem not_closesNext {c : Char} (hc : Json.beginsValue c = true) (hgaps : Gaps cs (c :: rest)) :
    closesNext cs = false := by
  generalize hnext : c :: rest = next at hgaps
  induction hgaps with
  | none =>
    subst hnext
    have hbrace : c ≠ '}' := by rintro rfl; cases hc
    have hbracket : c ≠ ']' := by rintro rfl; cases hc
    simp [closesNext, not_isBlank_of_beginsValue hc, hbrace, hbracket]
  | more hgap _ ih =>
    have hsame := ih hnext
    unfold closesNext at hsame ⊢
    rwa [List.dropWhile_cons_of_pos (isBlank_of_isGap hgap)]

/-- How a regular document goes on behind a part. The bracket that ends a list or an object is read
with its last part, so it is put back. -/
def GoesOn (depth : Nat) : Json.Part → List Char → Prop
  | .value _, rest => Regular depth .outside rest
  | .items _ _, rest => Regular depth .outside (']' :: rest)
  | .members _ _, rest => Regular depth .outside ('}' :: rest)

/-- **What is spelt is regular** where what stands behind it is. -/
theorem regular_of_spells {limits : Json.Limits} {part : Json.Part} {value : Json}
    (hspells : Spells limits part value cs rest) (h : GoesOn depth part rest) :
    Regular depth .outside cs := by
  induction hspells generalizing depth with
  | scalar hrun _ _ => exact Regular.run hrun h
  | text hquoted => exact .quote (regular_of_quoted hquoted h)
  | emptyObject _ hgaps => exact .opened (Regular.gaps (.closed h) hgaps)
  | @object _ _ _ _ rest _ hgaps _ ih =>
    have hclosed : Regular (depth + 1) .outside ('}' :: rest) := .closed h
    exact .opened (Regular.gaps (ih hclosed) hgaps)
  | emptyList _ hgaps => exact .code rfl (Regular.gaps (.code rfl h) hgaps)
  | @list _ _ _ _ rest _ hgaps _ ih =>
    have hclosed : Regular depth .outside (']' :: rest) := .code rfl h
    exact .code rfl (Regular.gaps (ih hclosed) hgaps)
  | lastItem _ hgaps ih => exact ih (Regular.gaps h hgaps)
  | item _ hgaps hgap hmore ih ih' =>
    obtain ⟨c, behind, rfl, hc⟩ := hmore.head
    have hnext := Regular.gaps (ih' h) hgap
    exact ih (Regular.gaps (.comma (not_closesNext hc hgap) hnext) hgaps)
  | lastMember hname hcolon hgap _ hgaps ih =>
    have hvalue := Regular.gaps (ih (Regular.gaps h hgaps)) hgap
    exact .quote (regular_of_quoted hname (Regular.gaps (.code rfl hvalue) hcolon))
  | member hname hcolon hgap _ hgaps hgap' hmore ih ih' =>
    obtain ⟨c, behind, rfl, hc⟩ := hmore.head
    have hnext := Regular.gaps (ih' h) hgap'
    have hmid := Regular.gaps (.comma (not_closesNext hc hgap') hnext) hgaps
    have hvalue := Regular.gaps (ih hmid) hgap
    exact .quote (regular_of_quoted hname (Regular.gaps (.code rfl hvalue) hcolon))

end DesktopMacro.Payload
