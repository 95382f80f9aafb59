/-
The forms of a candidate, tried in turn.

A candidate is read in two forms or three: the third one is the second one with the place repaired
that the reader complained about, if the repair can be made. The search goes on as long as the
reader complains. So over all candidates it is one search, through their forms in order, for the
first one that the reader does not complain about; that form decides what becomes of the text, and
no later one is looked at.
-/
import DesktopMacro.Payload.Extraction

set_option autoImplicit false

namespace DesktopMacro.Payload

variable {candidate form : List Char} {result : Except Fault Payload}

/-! ## Candidates -/

/-- The candidate of a kind starts at the first opening bracket of that kind. -/
theorem candidate?_first {bracket : Bracket} {front : List Char} (hfront : bracket.opening ∉ front)
    (rest : List Char) : candidate? bracket (front ++ bracket.opening :: rest)
      = (closingDistance bracket .start rest).map
          fun distance => bracket.opening :: rest.take (distance + 1) := by
  have hindex : (front ++ bracket.opening :: rest).findIdx? (· == bracket.opening)
      = some front.length := by
    rw [List.findIdx?_append, List.findIdx?_eq_none_iff.2]
    · simp [List.findIdx?_cons]
    · exact fun c hc => beq_eq_false_iff_ne.2 fun heq => hfront (heq ▸ hc)
  have hbehind : (front ++ bracket.opening :: rest).drop (front.length + 1) = rest := by
    rw [← List.drop_drop, List.drop_left]
    rfl
  unfold candidate? findClosing findClosingFrom
  rw [hindex, Option.bind_eq_bind, Option.bind_some, hbehind]
  cases closingDistance bracket .start rest with
  | none => rfl
  | some distance =>
    have hsize : front.length + 1 + distance - front.length = distance + 1 := by omega
    simp only [Option.map_some, Option.bind_some, List.drop_left, List.take_succ_cons, hsize]
    rfl

/-- Without an opening bracket there is no candidate. -/
theorem candidate?_none {bracket : Bracket} {text : List Char} (h : bracket.opening ∉ text) :
    candidate? bracket text = none := by
  have hindex : text.findIdx? (· == bracket.opening) = none :=
    List.findIdx?_eq_none_iff.2 fun c hc => beq_eq_false_iff_ne.2 fun heq => h (heq ▸ hc)
  unfold candidate?
  rw [hindex]
  rfl

/-- A candidate is what the scan behind the first opening bracket of its kind has passed. -/
theorem closes_of_candidate? {bracket : Bracket} {text : List Char}
    (h : candidate? bracket text = some candidate) : ∃ front rest distance,
      text = front ++ bracket.opening :: rest ∧ bracket.opening ∉ front
        ∧ closingDistance bracket .start rest = some distance
        ∧ candidate = bracket.opening :: rest.take (distance + 1) := by
  by_cases hmem : bracket.opening ∈ text
  · obtain ⟨front, rest, rfl, hfront⟩ := List.eq_append_cons_of_mem hmem
    rw [candidate?_first hfront, Option.map_eq_some_iff] at h
    obtain ⟨distance, hdistance, rfl⟩ := h
    exact ⟨front, rest, distance, rfl, hfront, hdistance, rfl⟩
  · rw [candidate?_none hmem] at h
    cases h

/-- **A candidate is a piece of the text** from the first opening bracket of its kind on. -/
theorem piece_of_candidate? {bracket : Bracket} {text : List Char}
    (h : candidate? bracket text = some candidate) : ∃ front behind,
      text = front ++ candidate ++ behind ∧ bracket.opening ∉ front ∧
        candidate.head? = some bracket.opening := by
  obtain ⟨front, rest, distance, rfl, hfront, -, rfl⟩ := closes_of_candidate? h
  exact ⟨front, rest.drop (distance + 1), by simp, hfront, rfl⟩

/-! ## Forms -/

/-- The second form of a candidate, with a repair at the place of the complaint about it. -/
def patched? (candidate : List Char) : Option (List Char) :=
  match readRelaxed (repairStrings candidate) with
  | .error (.complaint _ place) => repairAt? (repairStrings candidate) place.line place.column
  | _ => none

/-- **The forms in which a candidate is read**, in this order. -/
def forms (candidate : List Char) : List (List Char) :=
  [sanitize candidate, repairStrings candidate] ++ (patched? candidate).toList

/-- Does the reader complain about a form? -/
def complains (form : List Char) : Bool :=
  match readRelaxed form with
  | .error (.complaint _ _) => true
  | _ => false

/-- **What a form comes to** that the reader does not complain about: it is read, or it goes beyond
a limit of the reader. -/
inductive Decides (form : List Char) : Except Fault Payload → Prop where
  | found {document : Json} (hread : readRelaxed form = .ok document)
    (repairedAt : Option Json.Place) :
    Decides form (.ok ⟨String.ofList form, document, repairedAt⟩)
  | numberTooLong {count : Nat} (hread : readRelaxed form = .error (.numberTooLong count)) :
    Decides form (.error (.numberTooLong count))
  | tooDeep {holder : Json.Holder} (hread : readRelaxed form = .error (.tooDeep holder)) :
    Decides form (.error (.tooDeep holder))

/-- A form that is read, or that goes beyond a limit, is not complained about. -/
theorem Decides.quiet (h : Decides form result) : complains form = false := by
  unfold complains
  cases h with
  | found hread | numberTooLong hread | tooDeep hread => rw [hread]

/-- A payload is what was read in the form that decided. -/
theorem Decides.of_ok {payload : Payload} (h : Decides form (.ok payload)) :
    readRelaxed form = .ok payload.document ∧ payload.text.toList = form := by
  cases h with
  | found hread => exact ⟨hread, String.toList_ofList⟩

/-- Where a form can be read, it decides that there is a payload. -/
theorem Decides.ok_of_read {document : Json} (h : Decides form result)
    (hread : readRelaxed form = .ok document) : ∃ payload, result = .ok payload := by
  cases h with
  | found => exact ⟨_, rfl⟩
  | numberTooLong hlong =>
    rw [hlong] at hread
    cases hread
  | tooDeep hdeep =>
    rw [hdeep] at hread
    cases hread

/-! ## One candidate -/

/-- What an attempt comes to, if it ends the search. -/
def Attempt.result? : Attempt → Option (Except Fault Payload)
  | found payload => some (.ok payload)
  | complaint _ _ => none
  | refused fault => some (.error fault)

theorem attemptRead_complaint {what : Json.Complaint} {place : Json.Place}
    (h : readRelaxed form = .error (.complaint what place)) (repairedAt : Option Json.Place) :
    attemptRead form repairedAt = .complaint what place := by
  unfold attemptRead
  rw [h]

theorem complains_of_complaint {what : Json.Complaint} {place : Json.Place}
    (h : readRelaxed form = .error (.complaint what place)) : complains form = true := by
  unfold complains
  rw [h]

theorem complaint_of_complains (h : complains form = true) :
    ∃ what place, readRelaxed form = .error (.complaint what place) := by
  unfold complains at h
  split at h
  · next what place hread => exact ⟨what, place, hread⟩
  · cases h

/-- An attempt with one form ends the search, unless the reader complains about it. -/
theorem attemptRead_quiet (h : complains form = false) (repairedAt : Option Json.Place) :
    ∃ result, Decides form result ∧ (attemptRead form repairedAt).result? = some result := by
  unfold attemptRead
  cases hread : readRelaxed form with
  | ok document => exact ⟨_, .found hread repairedAt, rfl⟩
  | error error =>
    cases error with
    | complaint what place =>
      unfold complains at h
      rw [hread] at h
      cases h
    | numberTooLong count => exact ⟨_, .numberTooLong hread, rfl⟩
    | tooDeep holder => exact ⟨_, .tooDeep hread, rfl⟩

/-- The first form is tried before the others. -/
theorem attempt_sanitize (h : (attemptRead (sanitize candidate) none).result? = some result) :
    (attempt candidate).result? = some result := by
  unfold attempt
  split
  · next hread =>
    rw [hread] at h
    cases h
  · exact h

/-- The second form is tried when the reader has complained about the first one. -/
theorem attempt_repairStrings (hfirst : complains (sanitize candidate) = true)
    (h : (attemptRead (repairStrings candidate) none).result? = some result) :
    (attempt candidate).result? = some result := by
  obtain ⟨_, _, hsanitized⟩ := complaint_of_complains hfirst
  unfold attempt
  rw [attemptRead_complaint hsanitized]
  dsimp only
  split
  · next hread =>
    rw [hread] at h
    cases h
  · exact h

/-- Without a third form, the complaint about the second one is what is left. -/
theorem attempt_unpatched (hfirst : complains (sanitize candidate) = true)
    (hsecond : complains (repairStrings candidate) = true) (hpatched : patched? candidate = none) :
    ∃ what place, attempt candidate = .complaint what place := by
  obtain ⟨_, _, hsanitized⟩ := complaint_of_complains hfirst
  obtain ⟨what, place, hrepaired⟩ := complaint_of_complains hsecond
  refine ⟨what, place, ?_⟩
  unfold patched? at hpatched
  simp only [hrepaired] at hpatched
  unfold attempt
  simp only [attemptRead_complaint hsanitized, attemptRead_complaint hrepaired, hpatched]

/-- The third form is tried when the reader has complained about both. -/
theorem attempt_patched {patched : List Char} (hfirst : complains (sanitize candidate) = true)
    (hsecond : complains (repairStrings candidate) = true)
    (hpatched : patched? candidate = some patched) :
    ∃ place, attempt candidate = attemptRead patched (some place) := by
  obtain ⟨_, _, hsanitized⟩ := complaint_of_complains hfirst
  obtain ⟨_, place, hrepaired⟩ := complaint_of_complains hsecond
  refine ⟨place, ?_⟩
  unfold patched? at hpatched
  simp only [hrepaired] at hpatched
  unfold attempt
  simp only [attemptRead_complaint hsanitized, attemptRead_complaint hrepaired, hpatched]

/-- **An attempt is a search through the forms** for the first one that the reader does not complain
about. -/
theorem attempt_cases (candidate : List Char) :
    ((∀ form ∈ forms candidate, complains form = true) ∧
      ∃ what place, attempt candidate = .complaint what place) ∨
    ∃ form result, (forms candidate).find? (!complains ·) = some form ∧ Decides form result ∧
      (attempt candidate).result? = some result := by
  unfold forms
  cases hfirst : complains (sanitize candidate) with
  | false =>
    obtain ⟨result, hdecides, hresult⟩ := attemptRead_quiet hfirst none
    exact .inr ⟨_, result, by simp [hfirst], hdecides, attempt_sanitize hresult⟩
  | true =>
    cases hsecond : complains (repairStrings candidate) with
    | false =>
      obtain ⟨result, hdecides, hresult⟩ := attemptRead_quiet hsecond none
      exact .inr ⟨_, result, by simp [hfirst, hsecond], hdecides,
        attempt_repairStrings hfirst hresult⟩
    | true =>
      cases hpatched : patched? candidate with
      | none => exact .inl ⟨by simp [hfirst, hsecond], attempt_unpatched hfirst hsecond hpatched⟩
      | some patched =>
        obtain ⟨place, hattempt⟩ := attempt_patched hfirst hsecond hpatched
        cases hthird : complains patched with
        | false =>
          obtain ⟨result, hdecides, hresult⟩ := attemptRead_quiet hthird (some place)
          exact .inr ⟨patched, result, by simp [hfirst, hsecond, hthird], hdecides,
            hattempt ▸ hresult⟩
        | true =>
          obtain ⟨what, place, hread⟩ := complaint_of_complains hthird
          exact .inl ⟨by simp [hfirst, hsecond, hthird], what, place,
            hattempt.trans (attemptRead_complaint hread _)⟩

/-! ## All candidates -/

theorem extractFrom_result {failed : Fault} {more : List (List Char)}
    (h : (attempt candidate).result? = some result) :
    extractFrom failed (candidate :: more) = result := by
  unfold extractFrom
  split
  · next hattempt =>
    rw [hattempt] at h
    exact Option.some.inj h
  · next hattempt =>
    rw [hattempt] at h
    cases h
  · next hattempt =>
    rw [hattempt] at h
    exact Option.some.inj h

/-- **An extraction is a search through the forms of all candidates**, which fails with the last
complaint if the reader complains about every form. -/
theorem extractFrom_cases (failed : Fault) (pieces : List (List Char)) :
    ((∀ form ∈ pieces.flatMap forms, complains form = true) ∧
      (pieces = [] ∧ extractFrom failed pieces = .error failed ∨
        pieces ≠ [] ∧ ∃ what place, extractFrom failed pieces = .error (.unreadable what place))) ∨
    ∃ form, (pieces.flatMap forms).find? (!complains ·) = some form ∧
      Decides form (extractFrom failed pieces) := by
  induction pieces generalizing failed with
  | nil => exact .inl ⟨nofun, .inl ⟨rfl, rfl⟩⟩
  | cons candidate more ih =>
    rw [List.flatMap_cons]
    rcases attempt_cases candidate with
      ⟨hall, what, place, hattempt⟩ | ⟨form, result, hfind, hdecides, hresult⟩
    · have hnext : extractFrom failed (candidate :: more)
          = extractFrom (.unreadable what place) more := by
        rw [extractFrom, hattempt]
      rw [hnext]
      rcases ih (.unreadable what place) with ⟨hmore, hend⟩ | ⟨form, hfind, hdecides⟩
      · -- The complaint is the last one: this candidate's, if no other one stands behind it.
        refine .inl ⟨fun form hform => ?_, .inr ⟨List.cons_ne_nil _ _, ?_⟩⟩
        · exact (List.mem_append.1 hform).elim (hall form) (hmore form)
        · rcases hend with ⟨-, hlast⟩ | ⟨-, hlast⟩
          · exact ⟨what, place, hlast⟩
          · exact hlast
      · have hnone : (forms candidate).find? (!complains ·) = none :=
          List.find?_eq_none.2 fun form hform => by simp [hall form hform]
        exact .inr ⟨form, by rw [List.find?_append, hnone, Option.none_or, hfind], hdecides⟩
    · refine .inr ⟨form, by rw [List.find?_append, hfind, Option.some_or], ?_⟩
      rw [extractFrom_result hresult]
      exact hdecides

theorem candidates_eq (text : List Char) :
    candidates text = (candidate? .curly text).toList ++ (candidate? .square text).toList := by
  unfold candidates
  cases hcurly : candidate? .curly text <;> cases hsquare : candidate? .square text <;>
    simp [hcurly, hsquare]

/-- **Where the search ends**: at a form of the object, or at one of the list when the reader has
complained about every form of the object. -/
theorem source_of_find? {text : List Char}
    (h : ((candidates text).flatMap forms).find? (!complains ·) = some form) :
    ∃ bracket candidate, candidate? bracket text = some candidate ∧ form ∈ forms candidate ∧
      (bracket = .curly ∨ bracket = .square ∧ ∀ object, candidate? .curly text = some object →
        ∀ form ∈ forms object, complains form = true) := by
  rw [candidates_eq, List.flatMap_append, List.find?_append, Option.or_eq_some_iff] at h
  rcases h with hfind | ⟨hnone, hfind⟩
  · obtain ⟨candidate, hcandidate, hform⟩ := List.mem_flatMap.1 (List.mem_of_find?_eq_some hfind)
    exact ⟨.curly, candidate, Option.mem_toList.1 hcandidate, hform, .inl rfl⟩
  · obtain ⟨candidate, hcandidate, hform⟩ := List.mem_flatMap.1 (List.mem_of_find?_eq_some hfind)
    refine ⟨.square, candidate, Option.mem_toList.1 hcandidate, hform, .inr ⟨rfl, ?_⟩⟩
    intro object hobject other hother
    have hmem : other ∈ (candidate? .curly text).toList.flatMap forms :=
      List.mem_flatMap.2 ⟨object, Option.mem_toList.2 hobject, hother⟩
    simpa using List.find?_eq_none.1 hnone other hmem

end DesktopMacro.Payload
