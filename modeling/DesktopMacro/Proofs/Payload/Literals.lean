/-
String literals in any text.

A text of any kind is cut into its string literals and the characters between them, from its
beginning on: at a quote a literal begins if one can be read there, and otherwise the quote is a
character like any other and the search goes on behind it. The repair of strings does not search. It
takes every quote for the beginning of a literal and gathers characters until the literal ends or
the text does. That comes to the same, because behind a quote that is never closed every other quote
is hidden by a backslash, and none of those is closed either: so what is repaired is each literal of
the cut, and nothing else.
-/
import DesktopMacro.Payload.Controls
import DesktopMacro.Proofs.Payload.Annotation

set_option autoImplicit false

namespace DesktopMacro.Payload

variable {cs body span rest text : List Char}

/-! ## Cutting a text -/

/-- A piece of a text: a character outside of literals, or a literal from behind its opening
quote. -/
inductive Segment where
  | other (c : Char)
  | literal (body : List Char)
deriving DecidableEq

/-- The characters of a piece. -/
def Segment.chars : Segment → List Char
  | other c => [c]
  | literal body => '"' :: body

/-- Is a quote in front of the text closed in it? -/
def Closes (cs : List Char) : Prop := ∃ body rest, Literal body ∧ cs = body ++ rest

/-- **A text, cut into its string literals and the characters between them.** A literal begins at
the first quote that is closed, and the next one is looked for behind it. -/
inductive Cut : List Char → List Segment → Prop where
  | done : Cut [] []
  | literal {body rest : List Char} {segments : List Segment} (hbody : Literal body) :
    Cut rest segments → Cut ('"' :: (body ++ rest)) (.literal body :: segments)
  | other {c : Char} {cs : List Char} {segments : List Segment} (hopen : c = '"' → ¬ Closes cs) :
    Cut cs segments → Cut (c :: cs) (.other c :: segments)

variable {segments : List Segment}

/-- The pieces are the text. -/
theorem Cut.chars (h : Cut text segments) : segments.flatMap Segment.chars = text := by
  induction h with
  | done => rfl
  | literal _ _ ih =>
    rw [List.flatMap_cons, ih]
    rfl
  | other _ _ ih =>
    rw [List.flatMap_cons, ih]
    rfl

/-- **Every text can be cut.** -/
theorem exists_cut (text : List Char) : ∃ segments, Cut text segments := by
  match text with
  | [] => exact ⟨[], .done⟩
  | c :: cs =>
    by_cases hcloses : c = '"' ∧ Closes cs
    · obtain ⟨rfl, body, rest, hbody, rfl⟩ := hcloses
      obtain ⟨segments, hrest⟩ := exists_cut rest
      exact ⟨.literal body :: segments, .literal hbody hrest⟩
    · obtain ⟨segments, hcs⟩ := exists_cut cs
      exact ⟨.other c :: segments, .other (fun hc h => hcloses ⟨hc, h⟩) hcs⟩
termination_by text.length
decreasing_by
  · subst_vars
    simp only [List.length_cons, List.length_append]
    omega
  · simp

/-! ## Quotes that are never closed -/

/-- **A text in which a quote in front of it is not closed**: every quote is hidden. -/
inductive Unclosed : List Char → Prop where
  | nil : Unclosed []
  | backslash : Unclosed ['\\']
  | plain {c : Char} {cs : List Char} (hquote : c ≠ '"') (hescape : c ≠ '\\') :
    Unclosed cs → Unclosed (c :: cs)
  | escape (c : Char) {cs : List Char} : Unclosed cs → Unclosed ('\\' :: c :: cs)

/-- The second part is about the text behind a backslash: there the induction comes to when it has
passed one. -/
theorem closes_or_unclosed (cs : List Char) :
    (Closes cs ∨ Unclosed cs) ∧ (Closes ('\\' :: cs) ∨ Unclosed ('\\' :: cs)) := by
  induction cs with
  | nil => exact ⟨.inr .nil, .inr .backslash⟩
  | cons c cs ih =>
    obtain ⟨hplain, hescaped⟩ := ih
    constructor
    · by_cases hquote : c = '"'
      · exact .inl ⟨['"'], cs, .closed, by rw [hquote]; rfl⟩
      · by_cases hescape : c = '\\'
        · rw [hescape]
          exact hescaped
        · refine hplain.imp ?_ (.plain hquote hescape)
          rintro ⟨body, rest, hbody, rfl⟩
          exact ⟨c :: body, rest, .plain hquote hescape hbody, rfl⟩
    · refine hplain.imp ?_ (.escape c)
      rintro ⟨body, rest, hbody, rfl⟩
      exact ⟨'\\' :: c :: body, rest, .escape c hbody, rfl⟩

theorem unclosed_of_not_closes (h : ¬ Closes cs) : Unclosed cs :=
  (closes_or_unclosed cs).1.resolve_left h

/-! ## What the repair of strings gathers -/

theorem repairFrom_quote (cs : List Char) :
    repairFrom none false ('"' :: cs) = repairFrom (some ['"']) false cs := rfl

theorem repairFrom_other {c : Char} (hquote : c ≠ '"') (cs : List Char) :
    repairFrom none false (c :: cs) = c :: repairFrom none false cs := by
  rw [repairFrom, if_neg (by simpa using hquote)]

theorem repairFrom_plain {c : Char} (hquote : c ≠ '"') (hescape : c ≠ '\\') (span cs : List Char) :
    repairFrom (some span) false (c :: cs) = repairFrom (some (c :: span)) false cs := by
  rw [repairFrom, if_neg (by simpa using hescape), if_neg (by simpa using hquote)]

theorem repairFrom_escape (c : Char) (span cs : List Char) :
    repairFrom (some span) false ('\\' :: c :: cs)
      = repairFrom (some (c :: '\\' :: span)) false cs := rfl

/-- A literal is gathered to its end and escaped. -/
theorem Literal.gathered (h : Literal body) (span rest : List Char) :
    repairFrom (some span) false (body ++ rest)
      = escapeSpan (span.reverse ++ body) ++ repairFrom none false rest := by
  induction h generalizing span with
  | closed =>
    rw [← List.reverse_cons]
    rfl
  | plain hquote hescape _ ih =>
    rw [List.cons_append, repairFrom_plain hquote hescape, ih, List.reverse_cons, List.append_assoc]
    rfl
  | escape c _ ih =>
    rw [List.cons_append, List.cons_append, repairFrom_escape, ih]
    simp only [List.reverse_cons, List.append_assoc]
    rfl

/-- What is gathered behind a quote that is not closed is copied. -/
theorem Unclosed.gathered (h : Unclosed cs) (span : List Char) :
    repairFrom (some span) false cs = span.reverse ++ cs := by
  induction h generalizing span with
  | nil => rw [repairFrom, List.append_nil]
  | backslash =>
    rw [← List.reverse_cons]
    rfl
  | plain hquote hescape _ ih =>
    rw [repairFrom_plain hquote hescape, ih, List.reverse_cons, List.append_assoc]
    rfl
  | escape c _ ih =>
    rw [repairFrom_escape, ih]
    simp only [List.reverse_cons, List.append_assoc]
    rfl

/-- **Behind a quote that is not closed there is no literal.** A search that starts there at a
hidden quote is in step with the one that came from the first quote. -/
theorem Unclosed.repaired (h : Unclosed cs) : repairFrom none false cs = cs := by
  induction h with
  | nil => rfl
  | backslash => rfl
  | plain hquote _ _ ih => rw [repairFrom_other hquote, ih]
  | @escape c cs hcs ih =>
    rw [repairFrom_other (by decide)]
    by_cases hquote : c = '"'
    · rw [hquote, repairFrom_quote, hcs.gathered]
      rfl
    · rw [repairFrom_other hquote, ih]

/-- A piece with the control characters of a literal escaped. -/
def Segment.repaired : Segment → Segment
  | other c => other c
  | literal body => literal (escapeSpan body)

/-- **The literals of a text are repaired, and nothing else.** -/
theorem Cut.repairs (h : Cut text segments) :
    repairStrings text = (segments.map Segment.repaired).flatMap Segment.chars := by
  unfold repairStrings
  induction h with
  | done => rfl
  | @literal body rest segments hbody _ ih =>
    rw [repairFrom_quote, hbody.gathered, ih]
    rfl
  | @other c cs segments hopen _ ih =>
    by_cases hquote : c = '"'
    · have hcs := unclosed_of_not_closes (hopen hquote)
      rw [List.map_cons, List.flatMap_cons, ← ih, hcs.repaired, hquote, repairFrom_quote,
        hcs.gathered]
      rfl
    · rw [repairFrom_other hquote, ih]
      rfl

end DesktopMacro.Payload
