/-
How an extraction fails.

There is no candidate exactly when no bracket closes the first opening bracket of either kind, and
then nothing is tried. Otherwise every form of every candidate is tried until the reader does not
complain about one, and if it complains about all of them nothing could be made readable. Those are
the failures that are meant to be. A form that goes beyond a limit of the reader ends the search
too, with a failure of its own, and hides whatever stands behind it; but a text with few digits and
few brackets has no such form, for a repair adds neither.
-/
import DesktopMacro.Proofs.Json.Exceeding
import DesktopMacro.Proofs.Payload.Extraction
import DesktopMacro.Proofs.Payload.Provenance

set_option autoImplicit false

namespace DesktopMacro.Payload

variable {candidate form text : List Char} {bracket : Bracket}

/-! ## Without a candidate -/

/-- **A text without a candidate of a kind**: behind its first opening bracket of the kind, there is
no bracket that closes it. -/
def Unmatched (bracket : Bracket) (text : List Char) : Prop :=
  ∀ front rest, text = front ++ bracket.opening :: rest → bracket.opening ∉ front →
    closingDistance bracket .start rest = none

theorem candidate?_eq_none_iff : candidate? bracket text = none ↔ Unmatched bracket text := by
  constructor
  · rintro h front rest rfl hfront
    rw [candidate?_first hfront] at h
    exact Option.map_eq_none_iff.1 h
  · intro h
    by_cases hmem : bracket.opening ∈ text
    · obtain ⟨front, rest, rfl, hfront⟩ := List.eq_append_cons_of_mem hmem
      rw [candidate?_first hfront, h front rest rfl hfront]
      rfl
    · exact candidate?_none hmem

theorem candidates_eq_nil_iff :
    candidates text = [] ↔ Unmatched .curly text ∧ Unmatched .square text := by
  rw [candidates_eq, List.append_eq_nil_iff, Option.toList_eq_nil_iff, Option.toList_eq_nil_iff,
    candidate?_eq_none_iff, candidate?_eq_none_iff]

/-! ## Within the limits -/

/-- **A text that cannot exceed the limits of the reader**: all of its digits together would make a
number that is not too long, and all of its brackets together no value that stands too deep. -/
def WithinLimits (text : List Char) : Prop :=
  text.countP Char.isDigit ≤ Integer.digitLimit ∧ text.countP Json.isOpening < Json.depthLimit

/-- Nothing becomes more when comments and commas are overwritten. -/
theorem Blanked.countP_le {p : Char → Bool} (hp : p ' ' = false) {regions : List Region}
    {cs bs : List Char} (h : Blanked regions cs bs) : bs.countP p ≤ cs.countP p := by
  induction h with
  | nil => exact Nat.le_refl _
  | same _ c _ ih =>
    rw [List.countP_cons, List.countP_cons]
    exact Nat.add_le_add_right ih _
  | comment _ _ _ _ ih | comma _ ih =>
    rw [List.countP_cons_of_neg (by simp [hp])]
    exact ih.trans (List.sublist_cons_self _ _).countP_le

/-- Neither digits nor brackets become more from a text to what is read. -/
theorem countP_of_mem_forms {p : Char → Bool} (hp : ForeignToEscapes p) (hspace : p ' ' = false)
    (hcandidate : candidate? bracket text = some candidate) (hform : form ∈ forms candidate) :
    (blankRelaxed form).countP p ≤ text.countP p := by
  obtain ⟨front, behind, htext, -⟩ := piece_of_candidate? hcandidate
  have hpiece : candidate <:+: text := ⟨front, behind, htext.symm⟩
  calc (blankRelaxed form).countP p
      ≤ form.countP p := (blanked_blankRelaxed form).countP_le hspace
    _ ≤ candidate.countP p := (comesFrom_of_mem_forms hform).countP_le hp
    _ ≤ text.countP p := hpiece.sublist.countP_le

/-- **Within the limits a form is read or complained about.** -/
theorem WithinLimits.read_or_complains (h : WithinLimits text)
    (hform : form ∈ (candidates text).flatMap forms) :
    (∃ document, readRelaxed form = .ok document) ∨ complains form = true := by
  obtain ⟨candidate, hmem, hform⟩ := List.mem_flatMap.1 hform
  obtain ⟨bracket, -, hcandidate⟩ := List.mem_filterMap.1 hmem
  have hdigits := countP_of_mem_forms (p := Char.isDigit) ⟨rfl, rfl, rfl⟩ rfl hcandidate hform
  have hbrackets :=
    countP_of_mem_forms (p := Json.isOpening) ⟨rfl, rfl, rfl⟩ rfl hcandidate hform
  cases hread : readRelaxed form with
  | ok document => exact .inl ⟨document, rfl⟩
  | error error =>
    obtain ⟨hlong, hdeep⟩ := Json.exceeds_of_read hread
    rw [String.toList_ofList] at hlong hdeep
    cases error with
    | complaint what place => exact .inr (complains_of_complaint hread)
    | numberTooLong count =>
      obtain ⟨hlimit, hcount⟩ := hlong count rfl
      have hfew := h.1
      omega
    | tooDeep holder =>
      have hdepth := hdeep holder rfl
      have hfew := h.2
      omega

/-! ## Failures -/

/-- There is a candidate, and the reader complains about every form of each. -/
def AllComplain (text : List Char) : Prop :=
  ¬(Unmatched .curly text ∧ Unmatched .square text) ∧
    ∀ candidate ∈ candidates text, ∀ form ∈ forms candidate,
      ∃ what place, readRelaxed form = .error (.complaint what place)

/-- There is a candidate, and no form of any can be read. -/
def NoneRead (text : List Char) : Prop :=
  ¬(Unmatched .curly text ∧ Unmatched .square text) ∧
    ∀ candidate ∈ candidates text, ∀ form ∈ forms candidate,
      ∀ document, readRelaxed form ≠ .ok document

/-- **How an extraction from a text ends.** -/
structure Outcome (text : List Char) (result : Except Fault Payload) : Prop where
  /-- It fails for want of a candidate exactly when no bracket closes the first opening bracket of
  either kind. -/
  noCandidate : result = .error .noCandidate ↔ Unmatched .curly text ∧ Unmatched .square text
  /-- It fails with a complaint exactly when the reader complains about everything it is given. -/
  unreadable : (∃ what place, result = .error (.unreadable what place)) ↔ AllComplain text
  /-- Otherwise the first form decides that the reader does not complain about, of whichever
  candidate it is: a payload is found, or the form goes beyond a limit of the reader. -/
  decides : ∀ form, ((candidates text).flatMap forms).find? (!complains ·) = some form →
    Decides form result
  /-- Within the limits this is a payload, and there is a complaint exactly when there is a
  candidate but no form can be read. -/
  withinLimits : WithinLimits text →
    ((∃ payload, result = .ok payload) ∨ result = .error .noCandidate ∨
      ∃ what place, result = .error (.unreadable what place)) ∧
    ((∃ what place, result = .error (.unreadable what place)) ↔ NoneRead text)

theorem allComplain_iff : AllComplain text ↔ candidates text ≠ [] ∧
    ∀ form ∈ (candidates text).flatMap forms, complains form = true := by
  unfold AllComplain
  rw [← candidates_eq_nil_iff, List.forall_mem_flatMap]
  refine and_congr_right fun _ => forall₂_congr fun candidate _ => forall₂_congr fun form _ => ?_
  exact ⟨fun ⟨_, _, hread⟩ => complains_of_complaint hread, complaint_of_complains⟩

/-- Within the limits, what cannot be read is complained about. -/
theorem WithinLimits.allComplain_iff (h : WithinLimits text) :
    AllComplain text ↔ NoneRead text := by
  refine and_congr_right fun _ => ⟨fun hall candidate hmem form hform document hread => ?_,
    fun hnone candidate hmem form hform => ?_⟩
  · obtain ⟨what, place, hcomplaint⟩ := hall candidate hmem form hform
    rw [hcomplaint] at hread
    cases hread
  · rcases h.read_or_complains (List.mem_flatMap.2 ⟨candidate, hmem, hform⟩) with
      ⟨document, hread⟩ | hcomplains
    · exact absurd hread (hnone candidate hmem form hform document)
    · exact complaint_of_complains hcomplains

namespace Outcome

/-- Nothing is tried where there is no candidate. -/
theorem of_nil (hnil : candidates text = []) : Outcome text (.error .noCandidate) := by
  have hunmatched := candidates_eq_nil_iff.1 hnil
  constructor
  · exact ⟨fun _ => hunmatched, fun _ => rfl⟩
  · exact ⟨nofun, fun h => absurd hunmatched h.1⟩
  · intro form hfind
    rw [hnil] at hfind
    cases hfind
  · exact fun _ => ⟨.inr (.inl rfl), nofun, fun h => absurd hunmatched h.1⟩

/-- The last complaint is what is left where there is nothing but complaints. -/
theorem of_allComplain (hall : AllComplain text) (what : Json.Complaint) (place : Json.Place) :
    Outcome text (.error (.unreadable what place)) := by
  constructor
  · exact ⟨nofun, fun h => absurd h hall.1⟩
  · exact ⟨fun _ => hall, fun _ => ⟨what, place, rfl⟩⟩
  · intro form hfind
    have hquiet := List.find?_some hfind
    rw [(allComplain_iff.1 hall).2 form (List.mem_of_find?_eq_some hfind)] at hquiet
    cases hquiet
  · exact fun h => ⟨.inr (.inr ⟨what, place, rfl⟩), fun _ => h.allComplain_iff.1 hall,
      fun _ => ⟨what, place, rfl⟩⟩

/-- The first form that is not complained about ends the search, and neither failure that is meant
to be can come of it. -/
theorem of_decides {result : Except Fault Payload}
    (hfind : ((candidates text).flatMap forms).find? (!complains ·) = some form)
    (hdecides : Decides form result) : Outcome text result := by
  have hmem := List.mem_of_find?_eq_some hfind
  have hquiet : ¬ AllComplain text := fun h => by
    have hcomplains := (allComplain_iff.1 h).2 form hmem
    rw [hdecides.quiet] at hcomplains
    cases hcomplains
  have hsome : ¬(Unmatched .curly text ∧ Unmatched .square text) := fun h => by
    rw [candidates_eq_nil_iff.2 h] at hmem
    cases hmem
  have hresult : result ≠ .error .noCandidate ∧
      ¬ ∃ what place, result = .error (.unreadable what place) := by
    cases hdecides <;> exact ⟨nofun, nofun⟩
  constructor
  · exact ⟨fun h => absurd h hresult.1, fun h => absurd h hsome⟩
  · exact ⟨fun h => absurd h hresult.2, fun h => absurd h hquiet⟩
  · intro other hother
    rwa [Option.some.inj (hother.symm.trans hfind)]
  · intro h
    refine ⟨.inl ?_, fun h => absurd h hresult.2,
      fun hnone => absurd (h.allComplain_iff.2 hnone) hquiet⟩
    -- Within the limits, a form without a complaint has been read.
    rcases h.read_or_complains hmem with ⟨document, hread⟩ | hcomplains
    · exact hdecides.ok_of_read hread
    · rw [hdecides.quiet] at hcomplains
      cases hcomplains

end Outcome

/-- **An extraction fails for want of a candidate, or because everything was complained about**, and
for nothing else within the limits of the reader. -/
theorem extract_outcome (text : Option String) :
    Outcome (text.getD "").toList (extract (text.getD "")) := by
  unfold extract
  rcases extractFrom_cases .noCandidate (candidates (text.getD "").toList) with
    ⟨hall, ⟨hnil, hresult⟩ | ⟨hne, what, place, hresult⟩⟩ | ⟨form, hfind, hdecides⟩
  · rw [hresult]
    exact .of_nil hnil
  · rw [hresult]
    exact .of_allComplain (allComplain_iff.2 ⟨hne, hall⟩) what place
  · exact .of_decides hfind hdecides

/-! ## A number that hides a list -/

/-- An object whose only member is a number of so many ones. -/
def overlong (count : Nat) : List Char :=
  '{' :: '"' :: '"' :: ':' :: (List.replicate count '1' ++ ['}'])

theorem mem_overlong {count : Nat} {c : Char} (h : c ∈ overlong count) :
    c = '{' ∨ c = '"' ∨ c = ':' ∨ c = '1' ∨ c = '}' := by
  simp only [overlong, List.mem_cons, List.mem_append, List.mem_replicate, List.not_mem_nil,
    or_false] at h
  tauto

/-- Both the object and a list behind it are candidates. -/
theorem candidates_overlong (count : Nat) :
    candidates (overlong count ++ ['[', ']']) = [overlong count, ['[', ']']] := by
  have hones : ∀ c ∈ List.replicate count '1', c ≠ '"' ∧ c ≠ '{' ∧ c ≠ '}' := by
    intro c hc
    rw [List.eq_of_mem_replicate hc]
    decide
  have hcloses : ClosesAtEnd .start ('"' :: '"' :: ':' :: (List.replicate count '1' ++ ['}']))
      ['[', ']'] := by
    have hend : ∀ last, ClosesAtEnd (Scan.at 0 .outside last) ['}'] ['[', ']'] :=
      fun _ => ⟨0, rfl, rfl⟩
    exact .cons rfl (.cons rfl (.cons rfl (ClosesAtEnd.append hones hend (some ':'))))
  have hfront : '{' ∉ ([] : List Char) := List.not_mem_nil
  have hobject : candidate? .curly (overlong count ++ ['[', ']']) = some (overlong count) :=
    candidate?_curly hfront hcloses
  have hlist : candidate? .square (overlong count ++ ['[', ']']) = some ['[', ']'] := by
    have hnone : Bracket.square.opening ∉ overlong count := fun hmem => by
      simpa [Bracket.square] using mem_overlong hmem
    exact candidate?_first hnone [']']
  rw [candidates_eq, hobject, hlist]
  rfl

theorem isDigit_of_mem_ones (count : Nat) :
    ∀ c ∈ List.replicate count '1', c.isDigit = true := by
  intro c hc
  rw [List.eq_of_mem_replicate hc]
  rfl

theorem blankRelaxed_overlong (count : Nat) : blankRelaxed (overlong count) = overlong count := by
  have hones := blankRelaxed_word
    (fun c hc => Json.isScalarChar_of_isDigit (isDigit_of_mem_ones count c hc)) ['}']
  exact congrArg ('{' :: '"' :: '"' :: ':' :: ·) hones

theorem readValue_ones {count : Nat} (h : Integer.digitLimit < count) (fuel depth : Nat) :
    Json.readValue .usual (fuel + 1) depth (List.replicate count '1' ++ ['}'])
      = .error (.numberTooLong count) := by
  obtain ⟨more, rfl⟩ := Nat.exists_eq_add_of_lt h
  have hrest : Json.Stops ['}'] := Json.stops_cons rfl []
  have hscalar := Json.readScalar_tooLong (isDigit_of_mem_ones (Integer.digitLimit + more + 1))
    (by simp [List.replicate_succ]) (by rwa [List.length_replicate]) hrest
  rw [List.length_replicate] at hscalar
  exact hscalar

/-- The member of the object is not read. -/
theorem readMembers_ones {count : Nat} (h : Integer.digitLimit < count) (fuel depth : Nat) :
    Json.readMembers .usual (fuel + 2) depth []
        ('"' :: '"' :: ':' :: (List.replicate count '1' ++ ['}']))
      = .error (.numberTooLong count) := by
  obtain ⟨more, rfl⟩ := Nat.exists_eq_add_of_lt h
  generalize hones : List.replicate (Integer.digitLimit + more + 1) '1' ++ ['}'] = ones
  have hvalue := readValue_ones h fuel depth
  rw [hones] at hvalue
  have hname : Json.readString ('"' :: ':' :: ones) = .ok ("", ':' :: ones) := rfl
  have hcolon : Json.skipGaps (':' :: ones) = ':' :: ones := rfl
  have hskip : Json.skipGaps ones = ones := by
    rw [← hones]
    rfl
  simp only [Json.readMembers, hname, bind, Except.bind, hcolon, hskip, hvalue]

theorem readChars_overlong {count : Nat} (h : Integer.digitLimit < count) :
    Json.readChars .usual (overlong count) = .error (.numberTooLong count) := by
  obtain ⟨fuel, hfuel⟩ : ∃ fuel, 2 * (overlong count).length + 2 = fuel + 3 :=
    ⟨2 * (overlong count).length - 1, by simp only [overlong, List.length_cons]; omega⟩
  have hobject : Json.readValue .usual (fuel + 3) 0 (overlong count)
      = .error (.numberTooLong count) := readMembers_ones h fuel 1
  have hskip : Json.skipGaps (overlong count) = overlong count := rfl
  unfold Json.readChars
  rw [hfuel, hskip, hobject]
  rfl

/-- The number is too long for the reader. -/
theorem readRelaxed_overlong {count : Nat} (h : Integer.digitLimit < count) :
    readRelaxed (overlong count) = .error (.numberTooLong count) := by
  unfold readRelaxed Json.read Json.readWithin
  rw [String.toList_ofList, blankRelaxed_overlong]
  simp only [readChars_overlong h]

theorem extract_overlong {count : Nat} (h : Integer.digitLimit < count) :
    extract (String.ofList (overlong count ++ ['[', ']'])) = .error (.numberTooLong count) := by
  have hclean : sanitize (overlong count) = overlong count := by
    refine sanitize_of_plain fun c hc => ?_
    rcases mem_overlong hc with rfl | rfl | rfl | rfl | rfl <;> rfl
  have hattempt : attempt (overlong count) = .refused (.numberTooLong count) := by
    unfold attempt attemptRead
    rw [hclean, readRelaxed_overlong h]
  unfold extract
  rw [String.toList_ofList, candidates_overlong, extractFrom, hattempt]

/-- **A number that is too long hides the list behind it.** The list is a candidate and can be read,
but it is not tried: the search ends with a failure that is neither the want of a candidate nor a
complaint. -/
theorem list_behind_overlong :
    candidates (overlong 4301 ++ ['[', ']']) = [overlong 4301, ['[', ']']] ∧
      readRelaxed ['[', ']'] = .ok (.list []) ∧
      extract (String.ofList (overlong 4301 ++ ['[', ']'])) = .error (.numberTooLong 4301) := by
  have hlist : readRelaxed ['[', ']'] = .ok (.list []) := by
    refine Json.read_of_readChars ?_
    rw [String.toList_ofList]
    rfl
  exact ⟨candidates_overlong 4301, hlist, extract_overlong (by decide)⟩

end DesktopMacro.Payload
