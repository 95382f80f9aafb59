/-
Documents as a tool or a person would have written them.

A loosened document differs from the real one in two ways. In its strings, control characters may
stand as they are where the document has escapes, and a comma may stand before a closing bracket.
The scanners take it for what it was meant to be: the bracket that closes the document is found, and
when control characters have been escaped and trailing commas overwritten, only blanks before
closing brackets are left of the difference.
-/
import DesktopMacro.Proofs.Payload.Lexing

set_option autoImplicit false

namespace DesktopMacro.Payload

variable {depth : Nat} {position : Position} {cs d r rest : List Char}

/-! ## Loosened documents -/

/-- Does a character close a list or an object? -/
def isClosing (c : Char) : Bool := c == '}' || c == ']'

/-- **A document, loosened**: the characters are the same, but for raw control characters inside of
strings, where the document has the escapes for them, and commas with blanks around them among the
blanks before a closing bracket. -/
inductive Loosened : Position → List Char → List Char → Prop where
  | done (position : Position) : Loosened position [] []
  | code {c : Char} {d r : List Char} (hquote : c ≠ '"') :
    Loosened .outside d r → Loosened .outside (c :: d) (c :: r)
  | trailing {front back gaps : List Char} {c : Char} {d r : List Char}
    (hfront : ∀ b ∈ front, Json.isGap b = true) (hback : ∀ b ∈ back, Json.isGap b = true)
    (hgaps : ∀ b ∈ gaps, Json.isGap b = true) (hclosing : isClosing c = true) :
    Loosened .outside d r →
    Loosened .outside (gaps ++ c :: d) (front ++ ',' :: back ++ gaps ++ c :: r)
  | quote {d r : List Char} :
    Loosened .inside d r → Loosened .outside ('"' :: d) ('"' :: r)
  | unquote {d r : List Char} :
    Loosened .outside d r → Loosened .inside ('"' :: d) ('"' :: r)
  | plain {c : Char} {d r : List Char} (hquote : c ≠ '"') (hescape : c ≠ '\\') :
    Loosened .inside d r → Loosened .inside (c :: d) (c :: r)
  | escape (c : Char) {d r : List Char} :
    Loosened .inside d r → Loosened .inside ('\\' :: c :: d) ('\\' :: c :: r)
  | raw {c letter : Char} {d r : List Char} (hletter : controlLetter? c = some letter) :
    Loosened .inside d r → Loosened .inside ('\\' :: letter :: d) (c :: r)

/-- Does a string literal end in an escaped backslash? -/
def endsInBackslash : Position → List Char → Bool
  | _, [] => false
  | .outside, c :: cs => endsInBackslash (if c == '"' then .inside else .outside) cs
  | .inside, '\\' :: c :: cs => (c == '\\' && cs.head? == some '"') || endsInBackslash .inside cs
  | .inside, c :: cs => endsInBackslash (if c == '"' then .outside else .inside) cs

theorem Loosened.eq_nil (h : Loosened position [] r) : r = [] := by
  generalize hd : ([] : List Char) = d at h
  cases h with
  | done => rfl
  | trailing => simp at hd
  | code | quote | unquote | plain | escape | raw => cases hd

/-- Outside of strings, only a quote matters to the question where strings end. -/
theorem endsInBackslash_append {front : List Char} (hfront : ∀ b ∈ front, b ≠ '"') :
    endsInBackslash .outside (front ++ rest) = endsInBackslash .outside rest := by
  induction front with
  | nil => rfl
  | cons b front ih =>
    have hb : (b == '"') = false := beq_eq_false_iff_ne.2 (hfront b List.mem_cons_self)
    simp only [List.cons_append, endsInBackslash, hb]
    exact ih fun c hc => hfront c (List.mem_cons_of_mem b hc)

theorem endsInBackslash_plain {c : Char} (hquote : c ≠ '"') (hescape : c ≠ '\\') (cs : List Char) :
    endsInBackslash .inside (c :: cs) = endsInBackslash .inside cs := by
  rw [endsInBackslash, beq_eq_false_iff_ne.2 hquote]
  · rfl
  · exact fun _ _ h _ => hescape h

/-- What may stand between a value and a closing bracket is no character of a document's structure
but the comma. -/
theorem ne_of_spacing {front back gaps : List Char} (hfront : ∀ b ∈ front, Json.isGap b = true)
    (hback : ∀ b ∈ back, Json.isGap b = true) (hgaps : ∀ b ∈ gaps, Json.isGap b = true) :
    ∀ b ∈ front ++ ',' :: back ++ gaps, b ≠ '"' ∧ b ≠ '{' ∧ b ≠ '}' := by
  have hgap : ∀ b, Json.isGap b = true → b ≠ '"' ∧ b ≠ '{' ∧ b ≠ '}' := fun b hb => by
    rcases Json.gap_cases hb with rfl | rfl | rfl | rfl <;> decide
  intro b hb
  simp only [List.append_assoc, List.mem_append, List.mem_cons] at hb
  rcases hb with hb | (rfl | hb) | hb
  · exact hgap b (hfront b hb)
  · decide
  · exact hgap b (hback b hb)
  · exact hgap b (hgaps b hb)

/-! ## Peeling regular documents -/

namespace Regular

theorem of_code {c : Char} (hc : isCode c = true) (h : Regular depth .outside (c :: cs)) :
    Regular depth .outside cs := by
  cases h with
  | code _ hrest => exact hrest
  | last | closed | opened | comma | quote => cases hc

theorem of_gaps {gaps : List Char} (hgaps : ∀ b ∈ gaps, Json.isGap b = true)
    (h : Regular depth .outside (gaps ++ rest)) : Regular depth .outside rest := by
  induction gaps with
  | nil => exact h
  | cons b gaps ih =>
    have hb := isCode_of_isGap (hgaps b List.mem_cons_self)
    exact ih (fun c hc => hgaps c (List.mem_cons_of_mem b hc)) (h.of_code hb)

end Regular

/-! ## The closing bracket -/

/-- A scan at a position, with so many brackets open. -/
def Scan.at (depth : Nat) (position : Position) (previous : Option Char) : Scan :=
  ⟨depth, position == .inside, previous⟩

section Steps

variable {previous : Option Char} {c : Char}

theorem step_quote (h : previous ≠ some '\\') (bracket : Bracket) (position : Position) :
    (Scan.at depth position previous).step bracket '"'
      = some (Scan.at depth position.cross (some '"')) := by
  have hboundary : (Scan.at depth position previous).atBoundary = true := by
    simpa [Scan.at, Scan.atBoundary] using h
  unfold Scan.step
  rw [hboundary]
  cases position <;> rfl

/-- Inside of a string, nothing happens but at its end. -/
theorem step_inside (h : c = '"' → previous = some '\\') (bracket : Bracket) :
    (Scan.at depth .inside previous).step bracket c = some (Scan.at depth .inside (some c)) := by
  have hquote : (c == '"' && (Scan.at depth .inside previous).atBoundary) = false := by
    by_cases hc : c = '"'
    · rw [h hc]
      simp [Scan.at, Scan.atBoundary]
    · simp [hc]
  unfold Scan.step
  rw [hquote]
  rfl

theorem step_opened :
    (Scan.at depth .outside previous).step .curly '{'
      = some (Scan.at (depth + 1) .outside (some '{')) :=
  rfl

theorem step_closed :
    (Scan.at (depth + 1) .outside previous).step .curly '}'
      = some (Scan.at depth .outside (some '}')) :=
  rfl

theorem step_other (hquote : c ≠ '"') (hopening : c ≠ '{') (hclosing : c ≠ '}') :
    (Scan.at depth .outside previous).step .curly c = some (Scan.at depth .outside (some c)) := by
  simp [Scan.step, Scan.at, Bracket.curly, hquote, hopening, hclosing]

end Steps

theorem closingDistance_of_step {scan next : Scan} {c : Char}
    (h : scan.step .curly c = some next) (cs : List Char) :
    closingDistance .curly scan (c :: cs) = (closingDistance .curly next cs).map (· + 1) := by
  simp only [closingDistance, h]

/-- The scan passes over what is neither a quote nor a curly bracket. -/
theorem closingDistance_append {front : List Char}
    (hfront : ∀ b ∈ front, b ≠ '"' ∧ b ≠ '{' ∧ b ≠ '}') (previous : Option Char) :
    ∃ last, closingDistance .curly (Scan.at depth .outside previous) (front ++ rest)
      = (closingDistance .curly (Scan.at depth .outside last) rest).map (· + front.length) := by
  induction front generalizing previous with
  | nil => exact ⟨previous, by simp⟩
  | cons b front ih =>
    obtain ⟨hquote, hopening, hclosing⟩ := hfront b List.mem_cons_self
    obtain ⟨last, hlast⟩ := ih (fun c hc => hfront c (List.mem_cons_of_mem b hc)) (some b)
    refine ⟨last, ?_⟩
    rw [List.cons_append, closingDistance_of_step (step_other hquote hopening hclosing), hlast,
      Option.map_map]
    rfl

/-- Where a scan finds the closing bracket: it is the last character of the text, and whatever
stands behind is not looked at. -/
def ClosesAtEnd (scan : Scan) (r behind : List Char) : Prop :=
  ∃ distance, closingDistance .curly scan (r ++ behind) = some distance ∧ r.length = distance + 1

theorem ClosesAtEnd.cons {scan next : Scan} {c : Char} {behind : List Char}
    (hstep : scan.step .curly c = some next) (h : ClosesAtEnd next r behind) :
    ClosesAtEnd scan (c :: r) behind := by
  obtain ⟨distance, hdistance, hlength⟩ := h
  refine ⟨distance + 1, ?_, by rw [List.length_cons, hlength]⟩
  rw [List.cons_append, closingDistance_of_step hstep, hdistance]
  rfl

/-- A scan that closes at the end of a text closes there too if blanks and commas come first. -/
theorem ClosesAtEnd.append {front behind : List Char}
    (hfront : ∀ b ∈ front, b ≠ '"' ∧ b ≠ '{' ∧ b ≠ '}')
    (h : ∀ last, ClosesAtEnd (Scan.at depth .outside last) r behind) (previous : Option Char) :
    ClosesAtEnd (Scan.at depth .outside previous) (front ++ r) behind := by
  obtain ⟨last, hlast⟩ := closingDistance_append hfront previous
  obtain ⟨distance, hdistance, hlength⟩ := h last
  refine ⟨distance + front.length, ?_, ?_⟩
  · rw [List.append_assoc, hlast, hdistance]
    rfl
  · rw [List.length_append, hlength]
    omega

/-- A character outside of strings: a scan that closes at the end of what follows closes at the end
of it all. -/
theorem closesAtEnd_code {c : Char} {behind : List Char} (hquote : c ≠ '"')
    (hr : Regular depth .outside (c :: d)) (hd : d = [] → r = [])
    (ih : ∀ {depth}, Regular depth .outside d → ∀ previous ≠ some '\\',
      ClosesAtEnd (Scan.at depth .outside previous) r behind)
    (previous : Option Char) :
    ClosesAtEnd (Scan.at depth .outside previous) (c :: r) behind := by
  cases hr with
  | last =>
    -- The bracket that closes the first one ends the document.
    rw [hd rfl]
    exact ⟨0, rfl, rfl⟩
  | closed hrest => exact (ih hrest (some '}') (by decide)).cons step_closed
  | opened hrest => exact (ih hrest (some '{') (by decide)).cons step_opened
  | comma _ hrest =>
    exact (ih hrest (some ',') (by decide)).cons (step_other hquote (by decide) (by decide))
  | code hcode hrest =>
    have hne : ∀ e, isCode e = false → c ≠ e := by
      rintro e he rfl
      rw [he] at hcode
      cases hcode
    refine (ih hrest (some c) ?_).cons
      (step_other hquote (hne '{' (by decide)) (hne '}' (by decide)))
    exact fun heq => hne '\\' (by decide) (Option.some.inj heq)
  | quote => exact absurd rfl hquote

/-- **The bracket that closes a loosened document is found at its end.** The induction is on the
loosening. A quote must not be hidden from the scan by a backslash that does not hide it: that is
what the premise on the ends of strings is for. -/
theorem Loosened.closesAtEnd (h : Loosened position d r) (hr : Regular depth position d)
    (hend : endsInBackslash position d = false) (behind : List Char) (previous : Option Char)
    (hprevious : d.head? = some '"' → previous ≠ some '\\') :
    ClosesAtEnd (Scan.at depth position previous) r behind := by
  induction h generalizing depth previous with
  | done => cases hr
  | @code c d r hquote hl ih =>
    have hend' : endsInBackslash .outside d = false := by
      rwa [← List.singleton_append, endsInBackslash_append (by simpa using hquote)] at hend
    refine closesAtEnd_code hquote hr ?_
      (fun hr' previous' hprevious' => ih hr' hend' previous' fun _ => hprevious') previous
    rintro rfl
    exact hl.eq_nil
  | @trailing front back gaps c d r hfront hback hgaps hclosing hl ih =>
    have hquote : c ≠ '"' := by
      rintro rfl
      cases hclosing
    have hgap : ∀ b ∈ gaps, b ≠ '"' := by
      rintro b hb rfl
      cases hgaps '"' hb
    have hend' : endsInBackslash .outside d = false := by
      rwa [endsInBackslash_append hgap, ← List.singleton_append,
        endsInBackslash_append (by simpa using hquote)] at hend
    -- The scan passes over the comma and the blanks, and the bracket is one of the document's.
    refine ClosesAtEnd.append (ne_of_spacing hfront hback hgaps) (fun last => ?_) previous
    refine closesAtEnd_code hquote (hr.of_gaps hgaps) ?_
      (fun hr' previous' hprevious' => ih hr' hend' previous' fun _ => hprevious') last
    rintro rfl
    exact hl.eq_nil
  | quote _ ih =>
    have hbound := hprevious rfl
    cases hr with
    | quote hr' => exact (ih hr' hend (some '"') fun _ => by decide).cons (step_quote hbound _ _)
    | code hcode => cases hcode
  | unquote _ ih =>
    have hbound := hprevious rfl
    cases hr with
    | unquote hr' => exact (ih hr' hend (some '"') fun _ => by decide).cons (step_quote hbound _ _)
    | plain hquote => exact absurd rfl hquote
  | @plain c d r hquote hescape _ ih =>
    rw [endsInBackslash_plain hquote hescape] at hend
    cases hr with
    | plain _ _ _ hr' =>
      exact (ih hr' hend (some c) fun _ heq => hescape (Option.some.inj heq)).cons
        (step_inside (fun heq => absurd heq hquote) _)
    | unquote => exact absurd rfl hquote
    | escape => exact absurd rfl hescape
  | @escape c d r _ ih =>
    have hboth : (c == '\\' && d.head? == some '"') = false ∧ endsInBackslash .inside d = false :=
      Bool.or_eq_false_iff.1 hend
    cases hr with
    | plain _ hescape => exact absurd rfl hescape
    | escape _ hr' =>
      refine ((ih hr' hboth.2 (some c) fun hquote heq => ?_).cons
        (step_inside (fun _ => rfl) _)).cons (step_inside (fun heq => absurd heq (by decide)) _)
      -- An escaped backslash right before a quote would end the literal.
      have hnot := hboth.1
      rw [Option.some.inj heq, hquote] at hnot
      cases hnot
  | @raw c letter d r hletter _ ih =>
    have hboth : (letter == '\\' && d.head? == some '"') = false
        ∧ endsInBackslash .inside d = false := Bool.or_eq_false_iff.1 hend
    have hne : ∀ e, controlLetter? e = none → c ≠ e := by
      rintro e he rfl
      rw [he] at hletter
      cases hletter
    cases hr with
    | plain _ hescape => exact absurd rfl hescape
    | escape _ hr' =>
      refine (ih hr' hboth.2 (some c) fun _ heq => ?_).cons
        (step_inside (fun heq => absurd heq (hne '"' (by decide))) _)
      exact hne '\\' (by decide) (Option.some.inj heq)

end DesktopMacro.Payload
