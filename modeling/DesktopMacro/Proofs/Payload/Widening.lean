/-
What a clean-up leaves of a loosened document.

Three passes go over a candidate before it is read: control characters are escaped, comments are
overwritten, and then trailing commas. Each of them keeps track of strings in its own way. On a
loosened document they agree, and what comes out is the document again with other blanks before its
closing brackets: it is widened. Such blanks do not matter to what a text spells.
-/
import DesktopMacro.Proofs.Payload.Loosening

set_option autoImplicit false

namespace DesktopMacro.Payload

open Json (Gaps Spells)

variable {depth : Nat} {position : Position} {d u r rest : List Char}

/-! ## Widened documents -/

/-- **A document, widened**: the characters are the same, but for the blanks before a closing
bracket. -/
inductive Widened : Position → List Char → List Char → Prop where
  | done (position : Position) : Widened position [] []
  | code {c : Char} {d u : List Char} (hquote : c ≠ '"') :
    Widened .outside d u → Widened .outside (c :: d) (c :: u)
  | closing {c : Char} {d u d' u' : List Char} (hbefore : Gaps d (c :: d'))
    (hafter : Gaps u (c :: u')) (hclosing : isClosing c = true) :
    Widened .outside d' u' → Widened .outside d u
  | quote {d u : List Char} : Widened .inside d u → Widened .outside ('"' :: d) ('"' :: u)
  | unquote {d u : List Char} : Widened .outside d u → Widened .inside ('"' :: d) ('"' :: u)
  | plain {c : Char} {d u : List Char} (hquote : c ≠ '"') (hescape : c ≠ '\\') :
    Widened .inside d u → Widened .inside (c :: d) (c :: u)
  | escape (c : Char) {d u : List Char} :
    Widened .inside d u → Widened .inside ('\\' :: c :: d) ('\\' :: c :: u)

theorem gaps_append {gaps : List Char} (hgaps : ∀ b ∈ gaps, Json.isGap b = true) (cs : List Char) :
    Gaps (gaps ++ cs) cs := by
  induction gaps with
  | nil => exact .none cs
  | cons b gaps ih =>
    exact .more (hgaps b List.mem_cons_self) (ih fun c hc => hgaps c (List.mem_cons_of_mem b hc))

/-! ## The passes -/

/-- The region of a text that a position stands for. -/
def Position.region : Position → Region
  | outside => .code
  | inside => .string

/-- A text from a position on, without control characters in its strings and without comments. -/
def cleaned (position : Position) (r : List Char) : List Char :=
  blankComments position.region (sanitizeFrom position false r)

/-- A text from a position on, as it is read. -/
def relaxed (position : Position) (r : List Char) : List Char :=
  blankCommas position.region (cleaned position r)

theorem blankRelaxed_sanitize (r : List Char) :
    blankRelaxed (sanitize r) = relaxed .outside r := rfl

section Passes

variable {c : Char}

theorem blankComments_string (hquote : c ≠ '"') (hescape : c ≠ '\\') (cs : List Char) :
    blankComments .string (c :: cs) = c :: blankComments .string cs := by
  simp only [blankComments, beq_eq_false_iff_ne.2 hquote, beq_eq_false_iff_ne.2 hescape]
  rfl

theorem blankComments_escape (c : Char) (cs : List Char) :
    blankComments .string ('\\' :: c :: cs) = '\\' :: c :: blankComments .string cs := by
  have hhidden : blankComments .escape (c :: cs) = c :: blankComments .string cs := by
    simp only [blankComments]
  rw [blankComments.eq_5]
  exact congrArg _ hhidden

theorem cleaned_code (hquote : c ≠ '"') (hescape : c ≠ '\\') (hslash : c ≠ '/') (r : List Char) :
    cleaned .outside (c :: r) = c :: cleaned .outside r := by
  have hsanitize : sanitizeFrom .outside false (c :: r) = c :: sanitizeFrom .outside false r := by
    simp only [sanitizeFrom, beq_eq_false_iff_ne.2 hquote, beq_eq_false_iff_ne.2 hescape]
    rfl
  unfold cleaned
  rw [hsanitize, Position.region, blankComments.eq_4 _ _ (fun _ h _ => hslash h)
    (fun _ h _ => hslash h), if_neg (by simpa using hquote)]

theorem cleaned_plain (hquote : c ≠ '"') (hescape : c ≠ '\\') (hcontrol : controlLetter? c = none)
    (r : List Char) : cleaned .inside (c :: r) = c :: cleaned .inside r := by
  have hsanitize : sanitizeFrom .inside false (c :: r) = c :: sanitizeFrom .inside false r := by
    simp only [sanitizeFrom, beq_eq_false_iff_ne.2 hquote, beq_eq_false_iff_ne.2 hescape,
      escapeControl, hcontrol]
    rfl
  unfold cleaned
  rw [hsanitize]
  exact blankComments_string hquote hescape _

theorem cleaned_escape (c : Char) (r : List Char) :
    cleaned .inside ('\\' :: c :: r) = '\\' :: c :: cleaned .inside r := by
  have hsanitize : sanitizeFrom .inside false ('\\' :: c :: r)
      = '\\' :: c :: sanitizeFrom .inside false r := by
    simp only [sanitizeFrom]
    rfl
  unfold cleaned
  rw [hsanitize]
  exact blankComments_escape c _

theorem cleaned_raw {letter : Char} (hletter : controlLetter? c = some letter) (r : List Char) :
    cleaned .inside (c :: r) = '\\' :: letter :: cleaned .inside r := by
  have hquote : c ≠ '"' := by
    rintro rfl
    cases hletter
  have hescape : c ≠ '\\' := by
    rintro rfl
    cases hletter
  have hsanitize : sanitizeFrom .inside false (c :: r)
      = '\\' :: letter :: sanitizeFrom .inside false r := by
    simp only [sanitizeFrom, beq_eq_false_iff_ne.2 hquote, beq_eq_false_iff_ne.2 hescape,
      escapeControl, hletter]
    rfl
  unfold cleaned
  rw [hsanitize]
  exact blankComments_escape letter _

theorem relaxed_of_cleaned_code (hquote : c ≠ '"') {r cs : List Char}
    (h : cleaned .outside r = c :: cs) :
    relaxed .outside r
      = (if c == ',' && closesNext cs then ' ' else c) :: blankCommas .code cs := by
  unfold relaxed
  rw [h, Position.region, blankCommas.eq_4 .code c cs (by simp) (by simp),
    if_neg (by simpa using hquote)]

theorem blankCommas_escape (c : Char) (cs : List Char) :
    blankCommas .string ('\\' :: c :: cs) = '\\' :: c :: blankCommas .string cs := by
  simp only [blankCommas]
  rfl

theorem blankCommas_string (hquote : c ≠ '"') (hescape : c ≠ '\\') (cs : List Char) :
    blankCommas .string (c :: cs) = c :: blankCommas .string cs := by
  simp only [blankCommas, beq_eq_false_iff_ne.2 hquote, beq_eq_false_iff_ne.2 hescape]
  rfl

end Passes

/-! ## Character by character -/

section Characters

variable {c : Char}

theorem relaxed_code (hquote : c ≠ '"') (hescape : c ≠ '\\') (hslash : c ≠ '/') (hcomma : c ≠ ',')
    (r : List Char) : relaxed .outside (c :: r) = c :: relaxed .outside r := by
  rw [relaxed_of_cleaned_code hquote (cleaned_code hquote hescape hslash r),
    if_neg (by simp [hcomma])]
  rfl

/-- A comma is overwritten if a closing bracket comes next. -/
theorem relaxed_comma (r : List Char) :
    relaxed .outside (',' :: r)
      = (if closesNext (cleaned .outside r) then ' ' else ',') :: relaxed .outside r :=
  relaxed_of_cleaned_code (by decide) (cleaned_code (by decide) (by decide) (by decide) r)

theorem relaxed_plain (hquote : c ≠ '"') (hescape : c ≠ '\\') (hcontrol : controlLetter? c = none)
    (r : List Char) : relaxed .inside (c :: r) = c :: relaxed .inside r := by
  unfold relaxed
  rw [cleaned_plain hquote hescape hcontrol]
  exact blankCommas_string hquote hescape _

theorem relaxed_escape (c : Char) (r : List Char) :
    relaxed .inside ('\\' :: c :: r) = '\\' :: c :: relaxed .inside r := by
  unfold relaxed
  rw [cleaned_escape]
  exact blankCommas_escape c _

theorem relaxed_raw {letter : Char} (hletter : controlLetter? c = some letter) (r : List Char) :
    relaxed .inside (c :: r) = '\\' :: letter :: relaxed .inside r := by
  unfold relaxed
  rw [cleaned_raw hletter]
  exact blankCommas_escape letter _

/-- Blanks and their like are passed over by all passes. -/
theorem cleaned_gaps {gaps : List Char} (hgaps : ∀ b ∈ gaps, Json.isGap b = true) (r : List Char) :
    cleaned .outside (gaps ++ r) = gaps ++ cleaned .outside r := by
  induction gaps with
  | nil => rfl
  | cons b gaps ih =>
    have hb : b ≠ '"' ∧ b ≠ '\\' ∧ b ≠ '/' := by
      rcases Json.gap_cases (hgaps b List.mem_cons_self) with rfl | rfl | rfl | rfl <;> decide
    rw [List.cons_append, cleaned_code hb.1 hb.2.1 hb.2.2,
      ih fun c hc => hgaps c (List.mem_cons_of_mem b hc)]
    rfl

theorem relaxed_gaps {gaps : List Char} (hgaps : ∀ b ∈ gaps, Json.isGap b = true) (r : List Char) :
    relaxed .outside (gaps ++ r) = gaps ++ relaxed .outside r := by
  induction gaps with
  | nil => rfl
  | cons b gaps ih =>
    have hb : b ≠ '"' ∧ b ≠ '\\' ∧ b ≠ '/' ∧ b ≠ ',' := by
      rcases Json.gap_cases (hgaps b List.mem_cons_self) with rfl | rfl | rfl | rfl <;> decide
    rw [List.cons_append, relaxed_code hb.1 hb.2.1 hb.2.2.1 hb.2.2.2,
      ih fun c hc => hgaps c (List.mem_cons_of_mem b hc)]
    rfl

end Characters

/-! ## Trailing commas -/

/-- Behind a blank the question is the same. -/
theorem closesNext_blank {c : Char} (h : Text.isBlank c = true) (cs : List Char) :
    closesNext (c :: cs) = closesNext cs := by
  unfold closesNext
  rw [List.dropWhile_cons_of_pos h]

theorem closesNext_char {c : Char} (h : Text.isBlank c = false) (cs : List Char) :
    closesNext (c :: cs) = isClosing c := by
  unfold closesNext
  rw [List.dropWhile_cons_of_neg (by simpa using h)]
  rfl

theorem closesNext_gaps {gaps : List Char} (hgaps : ∀ b ∈ gaps, Json.isGap b = true)
    (cs : List Char) : closesNext (gaps ++ cs) = closesNext cs := by
  induction gaps with
  | nil => rfl
  | cons b gaps ih =>
    rw [List.cons_append, closesNext_blank (isBlank_of_isGap (hgaps b List.mem_cons_self))]
    exact ih fun c hc => hgaps c (List.mem_cons_of_mem b hc)

theorem isClosing_cases {c : Char} (h : isClosing c = true) : c = '}' ∨ c = ']' := by
  simpa [isClosing] using h

theorem closesNext_closing {c : Char} (h : isClosing c = true) (cs : List Char) :
    closesNext (c :: cs) = true := by
  rcases isClosing_cases h with rfl | rfl <;> rfl

/-- What stands in the code of a regular document begins neither a comment nor an escape. -/
theorem Regular.ne_of_code {c : Char} (hquote : c ≠ '"') (h : Regular depth .outside (c :: d)) :
    c ≠ '\\' ∧ c ≠ '/' := by
  cases h with
  | last | closed | opened | comma => decide
  | code hcode =>
    refine ⟨?_, ?_⟩
    · rintro rfl
      cases hcode
    · rintro rfl
      cases hcode
  | quote => exact absurd rfl hquote

/-- **A comma that was the document's own stays.** Where the document does not close next, the
loosened one does not either, although a comma may have come in. -/
theorem Loosened.not_closesNext (h : Loosened .outside d r) (hr : Regular depth .outside d)
    (hnot : closesNext d = false) : closesNext (cleaned .outside r) = false := by
  generalize hposition : Position.outside = position at h
  induction h generalizing depth with
  | done => rfl
  | @code c d r hquote hl ih =>
    have hne := hr.ne_of_code hquote
    rw [cleaned_code hquote hne.1 hne.2]
    by_cases hblank : Text.isBlank c = true
    · rw [closesNext_blank hblank] at hnot ⊢
      cases hr with
      | code _ hrest => exact ih hrest hnot rfl
      | last | closed | opened | comma | quote => cases hblank
    · rw [closesNext_char (by simpa using hblank)] at hnot ⊢
      exact hnot
  | @trailing front back gaps c d r hfront hback hgaps hclosing hl ih =>
    -- In the document, nothing but blanks stands before the bracket.
    rw [closesNext_gaps hgaps, closesNext_closing hclosing] at hnot
    cases hnot
  | quote => rfl
  | unquote | plain | escape | raw => cases hposition

/-- A comma that has come in goes again, and leaves a blank. -/
theorem relaxed_trailing {front back gaps : List Char} {c : Char}
    (hfront : ∀ b ∈ front, Json.isGap b = true) (hback : ∀ b ∈ back, Json.isGap b = true)
    (hgaps : ∀ b ∈ gaps, Json.isGap b = true) (hclosing : isClosing c = true) (r : List Char) :
    relaxed .outside (front ++ ',' :: back ++ gaps ++ c :: r)
      = (front ++ ' ' :: back ++ gaps) ++ c :: relaxed .outside r := by
  have hbracket : c ≠ '"' ∧ c ≠ '\\' ∧ c ≠ '/' ∧ c ≠ ',' := by
    rcases isClosing_cases hclosing with rfl | rfl <;> decide
  have hcloses : closesNext (cleaned .outside (back ++ (gaps ++ c :: r))) = true := by
    rw [cleaned_gaps hback, cleaned_gaps hgaps, closesNext_gaps hback, closesNext_gaps hgaps,
      cleaned_code hbracket.1 hbracket.2.1 hbracket.2.2.1]
    exact closesNext_closing hclosing _
  simp only [List.append_assoc, List.cons_append]
  rw [relaxed_gaps hfront, relaxed_comma, if_pos hcloses, relaxed_gaps hback, relaxed_gaps hgaps,
    relaxed_code hbracket.1 hbracket.2.1 hbracket.2.2.1 hbracket.2.2.2]

/-- A character outside of strings stays, a comma because the document does not close next. -/
theorem Loosened.widened_code {c : Char} (hl : Loosened .outside d r) (hquote : c ≠ '"')
    (hr : Regular depth .outside (c :: d))
    (ih : ∀ {depth}, Regular depth .outside d → Widened .outside d (relaxed .outside r)) :
    Widened .outside (c :: d) (relaxed .outside (c :: r)) := by
  have hne := hr.ne_of_code hquote
  have hcode : c ≠ ',' → Widened .outside d (relaxed .outside r) →
      Widened .outside (c :: d) (relaxed .outside (c :: r)) := fun hcomma hrest => by
    rw [relaxed_code hquote hne.1 hne.2 hcomma]
    exact .code hquote hrest
  cases hr with
  | last =>
    rw [hl.eq_nil] at hcode ⊢
    exact hcode (by decide) (.done _)
  | closed hrest => exact hcode (by decide) (ih hrest)
  | opened hrest => exact hcode (by decide) (ih hrest)
  | comma hnot hrest =>
    rw [relaxed_comma, hl.not_closesNext hrest hnot]
    exact .code hquote (ih hrest)
  | code hc hrest =>
    refine hcode ?_ (ih hrest)
    rintro rfl
    cases hc
  | quote => exact absurd rfl hquote

/-- Before a closing bracket, what is left of a comma that has come in is a blank among others. -/
theorem Loosened.widened_trailing {front back gaps : List Char} {c : Char}
    (hl : Loosened .outside d r) (hfront : ∀ b ∈ front, Json.isGap b = true)
    (hback : ∀ b ∈ back, Json.isGap b = true) (hgaps : ∀ b ∈ gaps, Json.isGap b = true)
    (hclosing : isClosing c = true) (hr : Regular depth .outside (gaps ++ c :: d))
    (ih : ∀ {depth}, Regular depth .outside d → Widened .outside d (relaxed .outside r)) :
    Widened .outside (gaps ++ c :: d)
      (relaxed .outside (front ++ ',' :: back ++ gaps ++ c :: r)) := by
  rw [relaxed_trailing hfront hback hgaps hclosing]
  have hspacing : ∀ b ∈ front ++ ' ' :: back ++ gaps, Json.isGap b = true := fun b hb => by
    simp only [List.append_assoc, List.mem_append, List.mem_cons, List.cons_append] at hb
    rcases hb with hb | rfl | hb | hb
    · exact hfront b hb
    · rfl
    · exact hback b hb
    · exact hgaps b hb
  refine .closing (gaps_append hgaps _) (gaps_append hspacing _) hclosing ?_
  cases hr.of_gaps hgaps with
  | last =>
    rw [hl.eq_nil]
    exact .done _
  | closed hrest => exact ih hrest
  | code _ hrest => exact ih hrest
  | opened | comma | quote => cases hclosing

/-- **What the passes leave of a loosened document is the document, widened.** -/
theorem Loosened.widened (h : Loosened position d r) (hr : Regular depth position d) :
    Widened position d (relaxed position r) := by
  induction h generalizing depth with
  | done => exact .done _
  | code hquote hl ih => exact hl.widened_code hquote hr ih
  | trailing hfront hback hgaps hclosing hl ih =>
    exact hl.widened_trailing hfront hback hgaps hclosing hr ih
  | quote _ ih =>
    cases hr with
    | quote hr' => exact .quote (ih hr')
    | code hcode => cases hcode
  | unquote _ ih =>
    cases hr with
    | unquote hr' => exact .unquote (ih hr')
    | plain hquote => exact absurd rfl hquote
  | plain hquote hescape _ ih =>
    cases hr with
    | plain _ _ hcontrol hr' =>
      rw [relaxed_plain hquote hescape hcontrol]
      exact .plain hquote hescape (ih hr')
    | unquote => exact absurd rfl hquote
    | escape => exact absurd rfl hescape
  | escape c _ ih =>
    cases hr with
    | plain _ hescape => exact absurd rfl hescape
    | escape _ hr' =>
      rw [relaxed_escape]
      exact .escape c (ih hr')
  | raw hletter _ ih =>
    cases hr with
    | plain _ hescape => exact absurd rfl hescape
    | escape _ hr' =>
      rw [relaxed_raw hletter]
      exact .escape _ (ih hr')

/-! ## What a widened document spells -/

namespace Widened

/-- How a document goes on outside of strings: by a character that is there, or by blanks before a
closing bracket. -/
theorem of_cons {c : Char} (h : Widened .outside (c :: d) u) :
    (c ≠ '"' ∧ ∃ u', u = c :: u' ∧ Widened .outside d u') ∨
    (c = '"' ∧ ∃ u', u = '"' :: u' ∧ Widened .inside d u') ∨
    ∃ e d' u', Gaps (c :: d) (e :: d') ∧ Gaps u (e :: u') ∧ isClosing e = true ∧
      Widened .outside d' u' := by
  cases h with
  | code hquote hrest => exact .inl ⟨hquote, _, rfl, hrest⟩
  | quote hrest => exact .inr (.inl ⟨rfl, _, rfl, hrest⟩)
  | closing hbefore hafter hclosing hrest =>
    exact .inr (.inr ⟨_, _, _, hbefore, hafter, hclosing, hrest⟩)

theorem not_isGap_of_isClosing {c : Char} (h : isClosing c = true) : Json.isGap c = false := by
  rcases isClosing_cases h with rfl | rfl <;> rfl

/-- Blanks of the document are blanks of the widened one, perhaps others. -/
theorem gaps (h : Widened .outside d u) (hgaps : Gaps d rest) :
    ∃ rest', Gaps u rest' ∧ Widened .outside rest rest' := by
  induction hgaps generalizing u with
  | none => exact ⟨u, .none u, h⟩
  | @more c d rest hc _ ih =>
    rcases h.of_cons with ⟨-, u', rfl, hrest⟩ | ⟨rfl, -⟩ | ⟨e, d', u', hbefore, hafter, he, hrest⟩
    · obtain ⟨rest', hgaps', hwidened⟩ := ih hrest
      exact ⟨rest', .more hc hgaps', hwidened⟩
    · cases hc
    · cases hbefore with
      | none =>
        rw [not_isGap_of_isClosing he] at hc
        cases hc
      | more _ hbefore => exact ih (.closing hbefore hafter he hrest)

/-- A character of the document that closes nothing comes next in the widened one too. -/
theorem head {c : Char} (hgap : Json.isGap c = false) (hquote : c ≠ '"')
    (hclosing : isClosing c = false) (h : Widened .outside (c :: d) u) :
    ∃ u', u = c :: u' ∧ Widened .outside d u' := by
  rcases h.of_cons with ⟨-, u', rfl, hrest⟩ | ⟨rfl, -⟩ | ⟨e, d', u', hbefore, -, he, -⟩
  · exact ⟨u', rfl, hrest⟩
  · exact absurd rfl hquote
  · cases hbefore with
    | none =>
      rw [hclosing] at he
      cases he
    | more hc =>
      rw [hgap] at hc
      cases hc

/-- Before a closing bracket there may be other blanks. -/
theorem head_closing {c : Char} (hclosing : isClosing c = true) (h : Widened .outside (c :: d) u) :
    ∃ u', Gaps u (c :: u') ∧ Widened .outside d u' := by
  rcases h.of_cons with ⟨-, u', rfl, hrest⟩ | ⟨rfl, -⟩ | ⟨e, d', u', hbefore, hafter, -, hrest⟩
  · exact ⟨u', .none _, hrest⟩
  · cases hclosing
  · cases hbefore with
    | none => exact ⟨u', hafter, hrest⟩
    | more hc =>
      rw [not_isGap_of_isClosing hclosing] at hc
      cases hc

theorem head_quote (h : Widened .outside ('"' :: d) u) :
    ∃ u', u = '"' :: u' ∧ Widened .inside d u' := by
  rcases h.of_cons with ⟨hquote, -⟩ | ⟨-, hrest⟩ | ⟨e, d', u', hbefore, -, he, -⟩
  · exact absurd rfl hquote
  · exact hrest
  · cases hbefore with
    | none => cases he
    | more hc => cases hc

/-- Blanks and a closing bracket behind them. -/
theorem gaps_closing {c : Char} (hclosing : isClosing c = true) (h : Widened .outside d u)
    (hgaps : Gaps d (c :: rest)) : ∃ rest', Gaps u (c :: rest') ∧ Widened .outside rest rest' := by
  obtain ⟨next, hnext, hwidened⟩ := h.gaps hgaps
  obtain ⟨rest', hrest, hwidened'⟩ := hwidened.head_closing hclosing
  exact ⟨rest', hnext.trans hrest, hwidened'⟩

/-- Blanks and a comma or a colon behind them. -/
theorem gaps_head {c : Char} (hgap : Json.isGap c = false) (hquote : c ≠ '"')
    (hclosing : isClosing c = false) (h : Widened .outside d u) (hgaps : Gaps d (c :: rest)) :
    ∃ rest', Gaps u (c :: rest') ∧ Widened .outside rest rest' := by
  obtain ⟨next, hnext, hwidened⟩ := h.gaps hgaps
  obtain ⟨rest', rfl, hwidened'⟩ := hwidened.head hgap hquote hclosing
  exact ⟨rest', hnext, hwidened'⟩

theorem run {run : List Char} (hrun : ∀ c ∈ run, Json.isScalarChar c = true)
    (h : Widened .outside (run ++ rest) u) :
    ∃ rest', u = run ++ rest' ∧ Widened .outside rest rest' := by
  induction run generalizing u with
  | nil => exact ⟨u, rfl, h⟩
  | cons c run ih =>
    have hc := hrun c List.mem_cons_self
    have hne : ∀ e, Json.isScalarChar e = false → c ≠ e := by
      rintro e he rfl
      rw [he] at hc
      cases hc
    have hgap : Json.isGap c = false := by
      cases hgap : Json.isGap c with
      | false => rfl
      | true =>
        rw [Json.not_isScalarChar_of_isGap hgap] at hc
        cases hc
    have hclosing : isClosing c = false := by
      simp [isClosing, hne '}' (by decide), hne ']' (by decide)]
    obtain ⟨u', rfl, hrest⟩ := h.head hgap (hne '"' (by decide)) hclosing
    obtain ⟨rest', rfl, hrest'⟩ := ih (fun d hd => hrun d (List.mem_cons_of_mem c hd)) hrest
    exact ⟨rest', rfl, hrest'⟩

/-- Scalars stop in a widened document where they stop in the document. -/
theorem stops (h : Widened .outside rest u) (hrest : Json.Stops rest) : Json.Stops u := by
  cases h with
  | done => exact hrest
  | code => exact Json.stops_cons hrest.head _
  | closing _ hafter hclosing =>
    refine hafter.stops (Json.stops_cons ?_ _)
    rcases isClosing_cases hclosing with rfl | rfl <;> rfl
  | quote => exact Json.stops_cons rfl _

theorem head_plain {c : Char} (hquote : c ≠ '"') (hescape : c ≠ '\\')
    (h : Widened .inside (c :: d) u) : ∃ u', u = c :: u' ∧ Widened .inside d u' := by
  cases h with
  | unquote => exact absurd rfl hquote
  | escape => exact absurd rfl hescape
  | plain _ _ hrest => exact ⟨_, rfl, hrest⟩

theorem digits {digits : List Char} (hplain : ∀ c ∈ digits, c ≠ '"' ∧ c ≠ '\\' ∧ 32 ≤ c.toNat)
    (h : Widened .inside (digits ++ d) u) : ∃ u', u = digits ++ u' ∧ Widened .inside d u' := by
  induction digits generalizing u with
  | nil => exact ⟨u, rfl, h⟩
  | cons c digits ih =>
    obtain ⟨hquote, hescape, -⟩ := hplain c List.mem_cons_self
    obtain ⟨more, rfl, hmore⟩ := head_plain hquote hescape h
    obtain ⟨u', rfl, hrest⟩ := ih (fun d hd => hplain d (List.mem_cons_of_mem c hd)) hmore
    exact ⟨u', rfl, hrest⟩

/-- A string stays what it is. -/
theorem pieces {pieces : List Json.Piece} (hpieces : Json.Pieces pieces d rest)
    (h : Widened .inside d u) :
    ∃ rest', Json.Pieces pieces u rest' ∧ Widened .outside rest rest' := by
  induction hpieces generalizing u with
  | closed rest =>
    cases h with
    | unquote hrest => exact ⟨_, .closed _, hrest⟩
    | plain hquote => exact absurd rfl hquote
  | @unit a b c e n pieces cs rest hnumber _ ih =>
    cases h with
    | plain _ hplain => exact absurd rfl hplain
    | escape _ hdigits =>
      obtain ⟨u', rfl, hrest⟩ := digits (plain_of_hexNumber? hnumber) hdigits
      obtain ⟨rest', hpieces, hwidened⟩ := ih hrest
      exact ⟨rest', .unit hnumber hpieces, hwidened⟩
  | escape hescape _ ih =>
    cases h with
    | plain _ hplain => exact absurd rfl hplain
    | escape _ hrest =>
      obtain ⟨rest', hpieces, hwidened⟩ := ih hrest
      exact ⟨rest', .escape hescape hpieces, hwidened⟩
  | plain hquote hescape hcontrol _ ih =>
    obtain ⟨u', rfl, hrest⟩ := head_plain hquote hescape h
    obtain ⟨rest', hpieces, hwidened⟩ := ih hrest
    exact ⟨rest', .plain hquote hescape hcontrol hpieces, hwidened⟩

theorem quoted {s : String} (hquoted : Json.Quoted s d rest) (h : Widened .inside d u) :
    ∃ rest', Json.Quoted s u rest' ∧ Widened .outside rest rest' := by
  obtain ⟨all, hs, hpieces⟩ := hquoted
  obtain ⟨rest', hpieces', hwidened⟩ := pieces hpieces h
  exact ⟨rest', ⟨all, hs, hpieces'⟩, hwidened⟩

/-- **A widened document spells what the document spells.** -/
theorem spells {limits : Json.Limits} {part : Json.Part} {value : Json}
    (hspells : Spells limits part value d rest) (h : Widened .outside d u) :
    ∃ rest', Spells limits part value u rest' ∧ Widened .outside rest rest' := by
  induction hspells generalizing u with
  | scalar hrun hread hrest =>
    obtain ⟨rest', rfl, hwidened⟩ := run hrun h
    exact ⟨rest', .scalar hrun hread (hwidened.stops hrest), hwidened⟩
  | text hquoted =>
    obtain ⟨u', rfl, hinside⟩ := h.head_quote
    obtain ⟨rest', hquoted', hwidened⟩ := quoted hquoted hinside
    exact ⟨rest', .text hquoted', hwidened⟩
  | emptyObject hallow hgaps =>
    obtain ⟨u', rfl, hbehind⟩ := h.head rfl (by decide) rfl
    obtain ⟨rest', hgaps', hwidened⟩ := hbehind.gaps_closing rfl hgaps
    exact ⟨rest', .emptyObject hallow hgaps', hwidened⟩
  | object hallow hgaps _ ih =>
    obtain ⟨u', rfl, hbehind⟩ := h.head rfl (by decide) rfl
    obtain ⟨start', hgaps', hstart⟩ := hbehind.gaps hgaps
    obtain ⟨rest', hmembers, hwidened⟩ := ih hstart
    exact ⟨rest', .object hallow hgaps' hmembers, hwidened⟩
  | emptyList hallow hgaps =>
    obtain ⟨u', rfl, hbehind⟩ := h.head rfl (by decide) rfl
    obtain ⟨rest', hgaps', hwidened⟩ := hbehind.gaps_closing rfl hgaps
    exact ⟨rest', .emptyList hallow hgaps', hwidened⟩
  | list hallow hgaps _ ih =>
    obtain ⟨u', rfl, hbehind⟩ := h.head rfl (by decide) rfl
    obtain ⟨start', hgaps', hstart⟩ := hbehind.gaps hgaps
    obtain ⟨rest', hitems, hwidened⟩ := ih hstart
    exact ⟨rest', .list hallow hgaps' hitems, hwidened⟩
  | lastItem _ hgaps ih =>
    obtain ⟨mid', hitem, hmid⟩ := ih h
    obtain ⟨rest', hgaps', hwidened⟩ := hmid.gaps_closing rfl hgaps
    exact ⟨rest', .lastItem hitem hgaps', hwidened⟩
  | item _ hgaps hgap _ ih ih' =>
    obtain ⟨mid', hitem, hmid⟩ := ih h
    obtain ⟨gap', hgaps', hbehind⟩ := hmid.gaps_head rfl (by decide) rfl hgaps
    obtain ⟨next', hgap', hnext⟩ := hbehind.gaps hgap
    obtain ⟨rest', hmore, hwidened⟩ := ih' hnext
    exact ⟨rest', .item hitem hgaps' hgap' hmore, hwidened⟩
  | lastMember hname hcolon hgap _ hgaps ih =>
    obtain ⟨u', rfl, hinside⟩ := h.head_quote
    obtain ⟨behind', hname', hbehind⟩ := quoted hname hinside
    obtain ⟨gap', hcolon', hgap'⟩ := hbehind.gaps_head rfl (by decide) rfl hcolon
    obtain ⟨start', hstart', hstart⟩ := hgap'.gaps hgap
    obtain ⟨mid', hvalue, hmid⟩ := ih hstart
    obtain ⟨rest', hgaps', hwidened⟩ := hmid.gaps_closing rfl hgaps
    exact ⟨rest', .lastMember hname' hcolon' hstart' hvalue hgaps', hwidened⟩
  | member hname hcolon hgap _ hgaps hgap' _ ih ih' =>
    obtain ⟨u', rfl, hinside⟩ := h.head_quote
    obtain ⟨behind', hname', hbehind⟩ := quoted hname hinside
    obtain ⟨gap', hcolon', hcolons⟩ := hbehind.gaps_head rfl (by decide) rfl hcolon
    obtain ⟨start', hstart', hstart⟩ := hcolons.gaps hgap
    obtain ⟨mid', hvalue, hmid⟩ := ih hstart
    obtain ⟨gap'', hgaps', hcommas⟩ := hmid.gaps_head rfl (by decide) rfl hgaps
    obtain ⟨next', hgap'', hnext⟩ := hcommas.gaps hgap'
    obtain ⟨rest', hmore, hwidened⟩ := ih' hnext
    exact ⟨rest', .member hname' hcolon' hstart' hvalue hgaps' hgap'' hmore, hwidened⟩

end Widened

end DesktopMacro.Payload
