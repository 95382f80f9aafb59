/-
A payload is found in any text.

An object that can be read, loosened as people and tools write it and put into a text, is what the
extraction finds there, if no opening brace stands before it: the candidate is the loosened object,
and its first reading, after the clean-up, gives the object's own value.
-/
import DesktopMacro.Proofs.Payload.Widening

set_option autoImplicit false

namespace DesktopMacro.Payload

open Json (Gaps Spells)

variable {cs d r rest behind : List Char} {value : Json}

/-! ## Objects -/

/-- What is spelt behind an opening brace is an object. -/
theorem spells_of_brace {limits : Json.Limits} {depth : Nat}
    (h : Spells limits (.value depth) value ('{' :: d) rest) :
    Gaps d ('}' :: rest) ∨
      ∃ start, Gaps d start ∧ Spells limits (.members (depth + 1) []) value start rest := by
  generalize hwhole : '{' :: d = cs at h
  cases h with
  | scalar hrun hread =>
    obtain ⟨c, run, rfl⟩ := List.exists_cons_of_ne_nil (Json.ne_nil_of_readScalar hread)
    have hc := hrun c List.mem_cons_self
    cases hwhole
    cases hc
  | text | emptyList | list => cases hwhole
  | emptyObject _ hgaps =>
    cases hwhole
    exact .inl hgaps
  | object _ hgaps hmembers =>
    cases hwhole
    exact .inr ⟨_, hgaps, hmembers⟩

/-- **An object that can be read is regular** behind its opening brace. -/
theorem regular_of_object {limits : Json.Limits} {depth : Nat}
    (h : Spells limits (.value depth) value ('{' :: d) []) : Regular 0 .outside d := by
  rcases spells_of_brace h with hgaps | ⟨start, hgaps, hmembers⟩
  · exact Regular.gaps .last hgaps
  · have hlast : GoesOn 0 (.members (depth + 1) []) [] := Regular.last
    exact Regular.gaps (regular_of_spells hmembers hlast) hgaps

theorem isGap_of_mem (h : Gaps cs []) : ∀ c ∈ cs, Json.isGap c = true := by
  generalize hrest : ([] : List Char) = rest at h
  induction h with
  | none =>
    subst hrest
    nofun
  | more hc _ ih =>
    intro c hmem
    rcases List.mem_cons.1 hmem with rfl | hmore
    · exact hc
    · exact ih hrest c hmore

/-- A document from an opening brace to a closing one is an object with nothing around it. -/
theorem spells_of_braces {document : String} (hread : Json.read document = .ok value)
    (hopens : document.toList.head? = some '{') (hcloses : document.toList.getLast? = some '}') :
    ∃ d, document.toList = '{' :: d ∧ Spells .usual (.value 0) value ('{' :: d) [] := by
  obtain ⟨start, rest, hgaps, hspells, hrest⟩ := Json.spells_of_read hread
  obtain ⟨d, hd⟩ := List.head?_eq_some_iff.1 hopens
  rw [hd] at hgaps hcloses
  have hstart : start = '{' :: d := by
    cases hgaps with
    | none => rfl
    | more hc => cases hc
  subst hstart
  have hnil : rest = [] := by
    by_contra hne
    -- What is left over would be blanks, but the last character is a brace.
    obtain ⟨front, hfront⟩ := hspells.suffix
    rw [← hfront, List.getLast?_append, List.getLast?_eq_some_getLast hne] at hcloses
    have hblank := isGap_of_mem hrest _ (List.getLast_mem hne)
    rw [Option.some.inj hcloses] at hblank
    cases hblank
  subst hnil
  exact ⟨d, hd, hspells⟩

theorem Loosened.of_brace (h : Loosened .outside ('{' :: d) r) :
    ∃ r', r = '{' :: r' ∧ Loosened .outside d r' := by
  generalize hwhole : '{' :: d = whole at h
  cases h with
  | code _ hrest =>
    cases hwhole
    exact ⟨_, rfl, hrest⟩
  | @trailing front back gaps c d' r' hfront hback hgaps hclosing =>
    cases gaps with
    | nil =>
      cases hwhole
      cases hclosing
    | cons b gaps =>
      have hb := hgaps b List.mem_cons_self
      cases hwhole
      cases hb
  | done | quote => cases hwhole

/-! ## Candidates -/

/-- The piece from the first opening brace to the one that closes it. -/
theorem candidate?_curly {front : List Char} (hfront : '{' ∉ front)
    (h : ClosesAtEnd .start r behind) :
    candidate? .curly (front ++ '{' :: r ++ behind) = some ('{' :: r) := by
  obtain ⟨distance, hdistance, hlength⟩ := h
  have hindex : (front ++ '{' :: r ++ behind).findIdx? (· == '{') = some front.length := by
    rw [List.append_assoc, List.findIdx?_append, List.findIdx?_eq_none_iff.2]
    · simp [List.findIdx?_cons]
    · intro c hc
      exact beq_eq_false_iff_ne.2 fun heq => hfront (heq ▸ hc)
  have hdrop : (front ++ '{' :: r ++ behind).drop (front.length + 1) = r ++ behind := by
    rw [List.append_assoc, ← List.drop_drop, List.drop_left]
    rfl
  have hfind : findClosing .curly (front ++ '{' :: r ++ behind) front.length
      = some (front.length + 1 + distance) := by
    unfold findClosing findClosingFrom
    rw [hdrop, hdistance]
    rfl
  have htake : ((front ++ '{' :: r ++ behind).drop front.length).take
      (front.length + 1 + distance - front.length + 1) = '{' :: r := by
    have hsize : front.length + 1 + distance - front.length + 1 = ('{' :: r).length := by
      rw [List.length_cons, hlength]
      omega
    rw [hsize, List.append_assoc, List.drop_left, List.take_left]
  unfold candidate?
  rw [show Bracket.curly.opening = '{' from rfl, hindex]
  simp only [Option.bind_eq_bind, Option.bind_some, hfind, htake]
  rfl

/-! ## Extraction -/

/-- The first reading of a loosened object gives the value of the object. -/
theorem attempt_loosened (hspells : Spells .usual (.value 0) value ('{' :: d) [])
    (h : Loosened .outside ('{' :: d) r) :
    attempt r = .found ⟨String.ofList (sanitize r), value, none⟩ := by
  have hregular := regular_of_object hspells
  obtain ⟨r', rfl, hr⟩ := h.of_brace
  have hwidened : Widened .outside ('{' :: d) (relaxed .outside ('{' :: r')) := by
    rw [relaxed_code (by decide) (by decide) (by decide) (by decide)]
    exact .code (by decide) (hr.widened hregular)
  obtain ⟨rest, hspells', hrest⟩ := Widened.spells hspells hwidened
  have hnil : Gaps rest [] := by
    cases hrest with
    | done => exact .none []
    | closing hbefore => cases hbefore
  have hread : readRelaxed (sanitize ('{' :: r')) = .ok value := by
    unfold readRelaxed
    rw [blankRelaxed_sanitize]
    exact hspells'.read_document hnil
  unfold attempt attemptRead
  rw [hread]

/-- **A loosened object is extracted from any text** in which no opening brace stands before it. The
text of the payload is the object as it stands there, with its control characters escaped, and its
document is the value of the object itself. No string of the object may end in an escaped backslash,
which the search for the closing brace would take for an escaped quote. -/
theorem extract_loosened (document loosened front behind : String) (value : Json)
    (hread : Json.read document = .ok value) (hopens : document.toList.head? = some '{')
    (hcloses : document.toList.getLast? = some '}')
    (hends : endsInBackslash .outside document.toList = false)
    (hloosened : Loosened .outside document.toList loosened.toList)
    (hfront : '{' ∉ front.toList) :
    extract (front ++ loosened ++ behind)
      = .ok ⟨String.ofList (sanitize loosened.toList), value, none⟩ := by
  obtain ⟨d, hd, hspells⟩ := spells_of_braces hread hopens hcloses
  rw [hd] at hends hloosened
  have hattempt := attempt_loosened hspells hloosened
  obtain ⟨r, hr, hrest⟩ := hloosened.of_brace
  rw [hr] at hattempt ⊢
  have hcloses' : ClosesAtEnd .start r behind.toList :=
    hrest.closesAtEnd (regular_of_object hspells) hends behind.toList none fun _ => nofun
  have hcandidate := candidate?_curly hfront hcloses'
  unfold extract candidates
  rw [String.toList_append, String.toList_append, hr]
  simp only [List.filterMap_cons, hcandidate, extractFrom, hattempt]

/-- A note with an object in it that has a raw line break and a trailing comma. -/
theorem extract_note :
    extract ("Run this: " ++ "\x7b\"a\": \"b\nc\", \x7d" ++ " now \x7d")
      = .ok ⟨String.ofList (sanitize "\x7b\"a\": \"b\nc\", \x7d".toList),
        .object [("a", .text "b\nc")], none⟩ := by
  have hread : Json.read "\x7b\"a\": \"b\\nc\" \x7d" = .ok (.object [("a", .text "b\nc")]) := by
    have hchars : "\x7b\"a\": \"b\\nc\" \x7d".toList
        = ['{', '"', 'a', '"', ':', ' ', '"', 'b', '\\', 'n', 'c', '"', ' ', '}'] := by
      decide +kernel
    exact Json.read_of_readChars (by rw [hchars]; rfl)
  have hloosened : Loosened .outside "\x7b\"a\": \"b\\nc\" \x7d".toList
      "\x7b\"a\": \"b\nc\", \x7d".toList := by
    have hvalue : Loosened .inside ['b', '\\', 'n', 'c', '"', ' ', '}']
        ['b', '\n', 'c', '"', ',', ' ', '}'] := by
      refine .plain (by decide) (by decide) (.raw rfl (.plain (by decide) (by decide) (.unquote ?_)))
      have hnone : ∀ b ∈ ([] : List Char), Json.isGap b = true := nofun
      have hspace : ∀ b ∈ [' '], Json.isGap b = true := List.forall_mem_singleton.2 rfl
      exact Loosened.trailing hnone hnone hspace rfl (.done .outside)
    exact .code (by decide) (.quote (.plain (by decide) (by decide) (.unquote
      (.code (by decide) (.code (by decide) (.quote hvalue))))))
  exact extract_loosened "\x7b\"a\": \"b\\nc\" \x7d" "\x7b\"a\": \"b\nc\", \x7d" "Run this: "
    " now \x7d" _ hread rfl rfl rfl hloosened (by decide)

end DesktopMacro.Payload
