/-
Escaping twice, and in two ways.

Both passes over a text put an escape where a control character stands in a string, and neither
touches an escape that is there: so a second pass changes nothing. For the pass that goes from quote
to quote this needs a look at what it does to a literal. A control character behind a backslash is
escaped, too: the backslash in front then hides the one of the escape, and the letter stands for
itself, so the literal ends where it ended.

The passes differ in what they take for a string and in what they escape there. Where every quote
that opens is closed, no backslash stands outside of literals, none hides a control character, and
no line break of two characters stands in a literal, nothing of that matters.
-/
import DesktopMacro.Proofs.Payload.Literals

set_option autoImplicit false

namespace DesktopMacro.Payload

variable {c letter : Char} {cs body rest text : List Char} {segments : List Segment}

/-! ## Escapes -/

theorem letter_of_controlLetter? (h : controlLetter? c = some letter) :
    letter = 'n' ∨ letter = 'r' ∨ letter = 't' ∨ letter = 'b' ∨ letter = 'f' := by
  unfold controlLetter? at h
  split_ifs at h <;> cases h <;> simp

/-- The letter of an escape is neither a quote nor a backslash nor itself escaped. -/
theorem plain_of_controlLetter? (h : controlLetter? c = some letter) :
    letter ≠ '"' ∧ letter ≠ '\\' ∧ controlLetter? letter = none := by
  rcases letter_of_controlLetter? h with rfl | rfl | rfl | rfl | rfl <;> decide

theorem escapeControl_of_none (h : controlLetter? c = none) : escapeControl c = [c] := by
  unfold escapeControl
  rw [h]

theorem escapeControl_of_some (h : controlLetter? c = some letter) :
    escapeControl c = ['\\', letter] := by
  unfold escapeControl
  rw [h]

/-- In a literal, a line break of two characters is escaped as one; otherwise every character is
escaped for itself. -/
theorem escapeSpan_cons (c : Char) (cs : List Char) :
    escapeSpan (c :: cs) = escapeControl c ++ escapeSpan cs ∨
      ∃ more, cs = '\n' :: more ∧ c = '\r' ∧
        escapeSpan (c :: cs) = '\\' :: 'n' :: escapeSpan more := by
  by_cases hbreak : ∃ more, c = '\r' ∧ cs = '\n' :: more
  · obtain ⟨more, rfl, rfl⟩ := hbreak
    exact .inr ⟨more, rfl, rfl, rfl⟩
  · refine .inl (escapeSpan.eq_3 c cs ?_)
    exact fun more hc hcs => hbreak ⟨more, hc, hcs⟩

/-! ## One pass after another -/

theorem sanitizeFrom_hidden (position : Position) (c : Char) (cs : List Char) :
    sanitizeFrom position true (c :: cs) = c :: sanitizeFrom position false cs := by
  cases position <;> rfl

theorem sanitizeFrom_backslash (position : Position) (cs : List Char) :
    sanitizeFrom position false ('\\' :: cs) = '\\' :: sanitizeFrom position true cs := by
  cases position <;> rfl

theorem sanitizeFrom_quote (position : Position) (cs : List Char) :
    sanitizeFrom position false ('"' :: cs) = '"' :: sanitizeFrom position.cross false cs := by
  cases position <;> rfl

theorem sanitizeFrom_outside (hquote : c ≠ '"') (hescape : c ≠ '\\') (cs : List Char) :
    sanitizeFrom .outside false (c :: cs) = c :: sanitizeFrom .outside false cs := by
  rw [sanitizeFrom, if_neg (by simpa using hescape), if_neg (by simpa using hquote)]

theorem sanitizeFrom_inside (hquote : c ≠ '"') (hescape : c ≠ '\\') (cs : List Char) :
    sanitizeFrom .inside false (c :: cs) = escapeControl c ++ sanitizeFrom .inside false cs := by
  rw [sanitizeFrom, if_neg (by simpa using hescape), if_neg (by simpa using hquote)]

/-- The second pass is where the first one was, in front of every character that the first one
left and behind every escape that it put. -/
theorem sanitizeFrom_idem (position : Position) (escaped : Bool) (cs : List Char) :
    sanitizeFrom position escaped (sanitizeFrom position escaped cs)
      = sanitizeFrom position escaped cs := by
  fun_induction sanitizeFrom position escaped cs with
  | case1 position escaped => cases position <;> cases escaped <;> rfl
  | case2 position c cs ih => rw [sanitizeFrom_hidden, ih]
  | case3 position c cs hescape ih => rw [eq_of_beq hescape, sanitizeFrom_backslash, ih]
  | case4 position c cs hescape hquote ih =>
    rw [eq_of_beq hquote, sanitizeFrom_quote, ih]
  | case5 c cs hescape hquote ih =>
    cases hcontrol : controlLetter? c with
    | none =>
      rw [escapeControl_of_none hcontrol, List.singleton_append,
        sanitizeFrom_inside (by simpa using hquote) (by simpa using hescape), ih,
        escapeControl_of_none hcontrol, List.singleton_append]
    | some letter =>
      rw [escapeControl_of_some hcontrol, List.cons_append, List.singleton_append,
        sanitizeFrom_backslash, sanitizeFrom_hidden, ih]
  | case6 c cs hescape hquote ih =>
    rw [sanitizeFrom_outside (by simpa using hquote) (by simpa using hescape), ih]

/-- **An escaped literal is a literal.** -/
theorem Literal.escaped (h : Literal body) : Literal (escapeSpan body) := by
  induction h with
  | closed => exact .closed
  | @plain c body hquote hescape _ ih =>
    rcases escapeSpan_cons c body with hspan | ⟨more, rfl, -, hspan⟩
    · rw [hspan]
      cases hcontrol : controlLetter? c with
      | none =>
        rw [escapeControl_of_none hcontrol]
        exact .plain hquote hescape ih
      | some letter =>
        rw [escapeControl_of_some hcontrol]
        exact .escape letter ih
    · rw [hspan]
      exact ih
  | @escape c body _ ih =>
    have hbackslash : escapeSpan ('\\' :: c :: body) = '\\' :: escapeSpan (c :: body) := rfl
    rw [hbackslash]
    rcases escapeSpan_cons c body with hspan | ⟨more, rfl, -, hspan⟩
    · rw [hspan]
      cases hcontrol : controlLetter? c with
      | none =>
        rw [escapeControl_of_none hcontrol]
        exact .escape c ih
      | some letter =>
        -- The backslash hides the one of the escape, and the letter stands for itself.
        obtain ⟨hquote, hescape, -⟩ := plain_of_controlLetter? hcontrol
        rw [escapeControl_of_some hcontrol]
        exact .escape '\\' (.plain hquote hescape ih)
    · rw [hspan]
      cases ih with
      | plain _ hescape => exact absurd rfl hescape
      | escape _ hmore => exact .escape '\\' (.plain (by decide) (by decide) hmore)

/-- No control character is left in what is escaped. -/
theorem controlLetter?_of_mem_escapeSpan (cs : List Char) :
    ∀ c ∈ escapeSpan cs, controlLetter? c = none := by
  fun_induction escapeSpan cs with
  | case1 => nofun
  | case2 cs ih => exact List.forall_mem_cons.2 ⟨rfl, List.forall_mem_cons.2 ⟨rfl, ih⟩⟩
  | case3 c cs _ ih =>
    cases hcontrol : controlLetter? c with
    | none =>
      rw [escapeControl_of_none hcontrol]
      exact List.forall_mem_cons.2 ⟨hcontrol, ih⟩
    | some letter =>
      rw [escapeControl_of_some hcontrol]
      have hletter := (plain_of_controlLetter? hcontrol).2.2
      exact List.forall_mem_cons.2 ⟨rfl, List.forall_mem_cons.2 ⟨hletter, ih⟩⟩

/-- Where there is no control character, nothing is escaped. -/
theorem escapeSpan_of_plain (h : ∀ c ∈ cs, controlLetter? c = none) : escapeSpan cs = cs := by
  induction cs with
  | nil => rfl
  | cons c cs ih =>
    obtain ⟨hc, hcs⟩ := List.forall_mem_cons.1 h
    rcases escapeSpan_cons c cs with hspan | ⟨more, -, rfl, -⟩
    · rw [hspan, escapeControl_of_none hc, ih hcs, List.singleton_append]
    · cases hc

theorem Segment.repaired_repaired (segment : Segment) :
    segment.repaired.repaired = segment.repaired := by
  cases segment with
  | other c => rfl
  | literal body =>
    exact congrArg Segment.literal (escapeSpan_of_plain (controlLetter?_of_mem_escapeSpan body))

/-- **A repaired text is cut as it was.** -/
theorem Cut.repaired (h : Cut text segments) :
    Cut (repairStrings text) (segments.map Segment.repaired) := by
  rw [h.repairs]
  induction h with
  | done => exact .done
  | literal hbody _ ih => exact .literal hbody.escaped ih
  | @other c cs segments hopen hcs ih =>
    refine .other (fun hquote => ?_) ih
    -- Behind a quote that is not closed nothing was repaired.
    have hsame : repairStrings cs = cs := (unclosed_of_not_closes (hopen hquote)).repaired
    show ¬ Closes ((segments.map Segment.repaired).flatMap Segment.chars)
    rw [← hcs.repairs, hsame]
    exact hopen hquote

/-- **Repairing the strings of a text twice is repairing them once**, in either way. -/
theorem repair_idempotent (text : List Char) :
    sanitize (sanitize text) = sanitize text ∧
      repairStrings (repairStrings text) = repairStrings text := by
  refine ⟨sanitizeFrom_idem .outside false text, ?_⟩
  obtain ⟨segments, hcut⟩ := exists_cut text
  have hrepaired : Segment.repaired ∘ Segment.repaired = Segment.repaired :=
    funext Segment.repaired_repaired
  rw [hcut.repaired.repairs, List.map_map, hrepaired, ← hcut.repairs]

/-! ## One pass or the other -/

/-- **A character that a backslash hides** in a literal. -/
inductive Hidden (c : Char) : List Char → Prop where
  | here (cs : List Char) : Hidden c ('\\' :: c :: cs)
  | plain {d : Char} {cs : List Char} (hescape : d ≠ '\\') : Hidden c cs → Hidden c (d :: cs)
  | escape (d : Char) {cs : List Char} : Hidden c cs → Hidden c ('\\' :: d :: cs)

/-- Without a line break of two characters, every character of a literal is escaped for itself. -/
theorem escapeSpan_eq_flatMap (h : ¬ ['\r', '\n'] <:+: cs) :
    escapeSpan cs = cs.flatMap escapeControl := by
  induction cs with
  | nil => rfl
  | cons c cs ih =>
    rcases escapeSpan_cons c cs with hspan | ⟨more, rfl, rfl, -⟩
    · have hinner : ¬ ['\r', '\n'] <:+: cs := fun hbroken =>
        h (hbroken.trans (List.suffix_cons c cs).isInfix)
      rw [hspan, List.flatMap_cons, ih hinner]
    · exact absurd ⟨[], more, rfl⟩ h

/-- One pass goes through a literal as the other one does, if no backslash hides a control
character. -/
theorem Literal.sanitized (h : Literal body)
    (hhidden : ∀ c, Hidden c body → controlLetter? c = none) (rest : List Char) :
    sanitizeFrom .inside false (body ++ rest)
      = body.flatMap escapeControl ++ sanitizeFrom .outside false rest := by
  induction h with
  | closed => exact sanitizeFrom_quote .inside rest
  | @plain c body hquote hescape _ ih =>
    rw [List.cons_append, sanitizeFrom_inside hquote hescape,
      ih fun d hd => hhidden d (.plain hescape hd), List.flatMap_cons, List.append_assoc]
  | @escape c body _ ih =>
    have hc : escapeControl c = [c] := escapeControl_of_none (hhidden c (.here body))
    rw [List.cons_append, List.cons_append, sanitizeFrom_backslash, sanitizeFrom_hidden,
      ih fun d hd => hhidden d (.escape c hd), List.flatMap_cons, List.flatMap_cons, hc]
    rfl

/-- **Both passes repair the literals of a text and nothing else**, in the same way, where every
quote that opens a literal is closed, no backslash stands outside of literals, and in a literal no
control character is hidden by a backslash and no carriage return is followed by a line feed. -/
theorem passes_agree (hcut : Cut text segments) (hclosed : Segment.other '"' ∉ segments)
    (hbackslash : Segment.other '\\' ∉ segments)
    (hhidden : ∀ body, Segment.literal body ∈ segments →
      ∀ c, Hidden c body → controlLetter? c = none)
    (hbreak : ∀ body, Segment.literal body ∈ segments → ¬ ['\r', '\n'] <:+: body) :
    sanitize text = repairStrings text ∧ segments.flatMap Segment.chars = text ∧
      repairStrings text = (segments.map Segment.repaired).flatMap Segment.chars := by
  refine ⟨?_, hcut.chars, hcut.repairs⟩
  rw [hcut.repairs]
  unfold sanitize
  induction hcut with
  | done => rfl
  | @literal body rest segments hbody _ ih =>
    have hrest := ih (fun h => hclosed (List.mem_cons_of_mem _ h))
      (fun h => hbackslash (List.mem_cons_of_mem _ h))
      (fun other h => hhidden other (List.mem_cons_of_mem _ h))
      (fun other h => hbreak other (List.mem_cons_of_mem _ h))
    have hliteral := hbody.sanitized (hhidden body List.mem_cons_self) rest
    rw [sanitizeFrom_quote, Position.cross, hliteral, hrest,
      ← escapeSpan_eq_flatMap (hbreak body List.mem_cons_self)]
    rfl
  | @other c cs segments _ _ ih =>
    have hquote : c ≠ '"' := fun heq => hclosed (heq ▸ List.mem_cons_self)
    have hescape : c ≠ '\\' := fun heq => hbackslash (heq ▸ List.mem_cons_self)
    have hrest := ih (fun h => hclosed (List.mem_cons_of_mem _ h))
      (fun h => hbackslash (List.mem_cons_of_mem _ h))
      (fun other h => hhidden other (List.mem_cons_of_mem _ h))
      (fun other h => hbreak other (List.mem_cons_of_mem _ h))
    rw [sanitizeFrom_outside hquote hescape, hrest]
    rfl

/-- Two tabs, with a literal between them that holds a line break and a hidden quote. -/
theorem passes_agree_tabs :
    sanitize ['\t', '"', '\n', '\\', '"', '"', '\t']
        = repairStrings ['\t', '"', '\n', '\\', '"', '"', '\t'] ∧
      repairStrings ['\t', '"', '\n', '\\', '"', '"', '\t']
        = ['\t', '"', '\\', 'n', '\\', '"', '"', '\t'] := by
  have hcut : Cut ['\t', '"', '\n', '\\', '"', '"', '\t']
      [.other '\t', .literal ['\n', '\\', '"', '"'], .other '\t'] :=
    .other nofun (.literal (.plain (by decide) (by decide) (.escape '"' .closed))
      (.other nofun .done))
  have hliteral : ∀ body, Segment.literal body ∈
      [.other '\t', .literal ['\n', '\\', '"', '"'], .other '\t'] →
      body = ['\n', '\\', '"', '"'] := by simp
  have hhidden : ∀ c, Hidden c ['\n', '\\', '"', '"'] → c = '"' := by
    intro c h
    cases h with
    | plain _ h =>
      cases h with
      | here => rfl
      | plain hescape => exact absurd rfl hescape
      | escape _ h =>
        cases h with
        | plain _ h => cases h
  obtain ⟨hagree, -, hrepairs⟩ := passes_agree hcut (by decide) (by decide)
    (fun body hbody c hc => by rw [hhidden c (hliteral body hbody ▸ hc)]; rfl)
    (fun body hbody => by rw [hliteral body hbody]; decide)
  exact ⟨hagree, hrepairs⟩

end DesktopMacro.Payload
