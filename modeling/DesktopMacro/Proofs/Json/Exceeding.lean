/-
What exceeds the limits.

The reader gives up on a whole number with more digits than the limit, and on lists and objects that
stand too deep inside one another. Either is there to be seen in the text: the number has no more
digits than the text, and every value that another one stands in was opened by a bracket of its own.
So a text with few digits and few brackets exceeds nothing, whatever else is wrong with it.
-/
import DesktopMacro.Proofs.Json.Spelling

set_option autoImplicit false

namespace DesktopMacro.Json

variable {cs rest : List Char} {depth fuel : Nat} {fault : Fault}

/-- Does a character open a list or an object? -/
def isOpening (c : Char) : Bool := c == '{' || c == '['

/-- **The cause of a fault stands in the text**, which itself stands inside so many values: the
digits of a number that is too long, or the brackets of values that stand too deep. -/
def Fault.StandsIn (depth : Nat) (cs : List Char) : Fault → Prop
  | .complaint _ _ => True
  | .numberTooLong count => Integer.digitLimit < count ∧ count ≤ cs.countP Char.isDigit
  | .tooDeep _ => depthLimit ≤ depth + cs.countP isOpening

namespace Fault.StandsIn

/-- What stands in the end of a text stands in the text. -/
theorem of_suffix (h : fault.StandsIn depth rest) (hrest : rest <:+ cs) :
    fault.StandsIn depth cs := by
  have hcount : ∀ p : Char → Bool, rest.countP p ≤ cs.countP p := fun p =>
    hrest.sublist.countP_le
  cases fault with
  | complaint => trivial
  | numberTooLong count => exact ⟨h.1, h.2.trans (hcount _)⟩
  | tooDeep => exact Nat.le_trans h (Nat.add_le_add_left (hcount _) depth)

/-- What stands inside of a value that is opened here. -/
theorem of_opening {c : Char} (h : fault.StandsIn (depth + 1) rest) (hc : isOpening c = true)
    (hrest : rest <:+ cs) : fault.StandsIn depth (c :: cs) := by
  cases fault with
  | complaint => trivial
  | numberTooLong =>
    have hdigits : StandsIn depth cs (.numberTooLong _) :=
      ⟨h.1, h.2.trans hrest.sublist.countP_le⟩
    exact hdigits.of_suffix (List.suffix_cons c cs)
  | tooDeep =>
    have hcount : rest.countP isOpening ≤ cs.countP isOpening := hrest.sublist.countP_le
    have hle : depthLimit ≤ depth + 1 + rest.countP isOpening := h
    show depthLimit ≤ depth + (c :: cs).countP isOpening
    rw [List.countP_cons_of_pos hc]
    omega

end Fault.StandsIn

/-! ## Scalars and strings -/

theorem failsFor_readPieces (depth : Nat) (text whole cs : List Char) :
    FailsFor (Fault.StandsIn depth text) (readPieces whole cs) := by
  fun_induction readPieces whole cs with
  | case1 | case3 | case5 | case6 | case8 | case9 => exact failsFor_error trivial
  | case2 => exact failsFor_ok _ _
  | case4 _ _ _ _ _ _ _ _ ih => exact ih.bind fun _ _ => failsFor_ok _ _
  | case7 _ _ _ _ _ _ ih => exact ih.bind fun _ _ => failsFor_ok _ _
  | case10 _ _ _ _ _ _ _ _ ih => exact ih.bind fun _ _ => failsFor_ok _ _

theorem failsFor_readString (depth : Nat) (text cs : List Char) :
    FailsFor (Fault.StandsIn depth text) (readString cs) :=
  (failsFor_readPieces depth text _ cs).bind fun _ _ => failsFor_ok _ _

/-- The digits of a whole part stand in the text. -/
theorem length_wholePart {whole : List Char} (h : wholePart cs = some (whole, rest)) :
    whole.length ≤ cs.countP Char.isDigit := by
  cases cs with
  | nil => cases h
  | cons c cs =>
    simp only [wholePart] at h
    split at h
    · next hzero =>
      cases h
      rw [eq_of_beq hzero, List.countP_cons_of_pos rfl]
      exact Nat.succ_le_succ (Nat.zero_le _)
    · split at h
      · cases h
        have hdigits : ∀ d ∈ (c :: cs).takeWhile Char.isDigit, d.isDigit = true :=
          fun d hd => List.mem_takeWhile_imp hd
        rw [← List.countP_eq_length.2 hdigits]
        exact (List.takeWhile_sublist _).countP_le
      · cases h

theorem failsFor_readNumber (depth : Nat) (cs : List Char) :
    FailsFor (Fault.StandsIn depth cs) (readNumber .usual cs) := by
  unfold readNumber
  split
  next negative body hsign =>
  have hbody : body <:+ cs := by
    have hsuffix := suffix_signOf cs
    rwa [show signOf cs = (negative, body) from hsign] at hsuffix
  split
  · exact failsFor_error trivial
  · next whole behind hwhole =>
    dsimp only
    split
    · split
      · next hlimit =>
        have hdigits : Integer.digitLimit < whole.length := by simpa [Limits.usual] using hlimit
        have hfound : (Fault.numberTooLong whole.length).StandsIn depth body :=
          ⟨hdigits, length_wholePart hwhole⟩
        exact failsFor_error (hfound.of_suffix hbody)
      · exact failsFor_ok _ _
    · exact failsFor_ok _ _

theorem failsFor_readScalar (depth : Nat) (cs : List Char) :
    FailsFor (Fault.StandsIn depth cs) (readScalar .usual cs) := by
  unfold readScalar
  split
  · exact failsFor_ok _ _
  · exact failsFor_readNumber depth cs

/-! ## Values -/

/-- How many values a part stands in. -/
def Part.level : Part → Nat
  | .value depth | .items depth _ | .members depth _ => depth

/-- With so much fuel, the readers of parts fail for what stands in the text. -/
def FailsAsFound (fuel : Nat) : Prop :=
  ∀ part cs, FailsFor (Fault.StandsIn part.level cs) (readPart .usual fuel part cs)

theorem failsFor_allow (cs : List Char) (depth : Nat) (holder : Holder) :
    FailsFor (Fault.StandsIn depth cs) (Limits.allow .usual depth holder) := by
  unfold Limits.allow
  split
  · next hdepth =>
    have hle : depthLimit ≤ depth := by simpa [Limits.usual] using hdepth
    exact failsFor_error (Nat.le_add_right_of_le hle)
  · exact failsFor_ok _ _

namespace FailsAsFound

/-- What stands behind blanks and a mark is an end of the text. -/
theorem suffix_of_skipGaps {c : Char} (h : skipGaps cs = c :: rest) : rest <:+ cs :=
  (List.suffix_cons c rest).trans (h ▸ (Gaps.skip cs).suffix)

theorem value_succ (hfuel : FailsAsFound fuel) (depth : Nat) (cs : List Char) :
    FailsFor (Fault.StandsIn depth cs) (readValue .usual (fuel + 1) depth cs) := by
  unfold readValue
  split
  · exact failsFor_error trivial
  · exact (failsFor_readString _ _ _).bind fun _ _ => failsFor_ok _ _
  · next fuel' cs heq =>
    cases heq
    refine (failsFor_allow _ _ _).bind fun _ _ => ?_
    split
    · exact failsFor_ok _ _
    · exact (hfuel (.members _ []) (skipGaps cs)).mono fun _ hfault =>
        hfault.of_opening rfl (Gaps.skip cs).suffix
  · next fuel' cs heq =>
    cases heq
    refine (failsFor_allow _ _ _).bind fun _ _ => ?_
    split
    · exact failsFor_ok _ _
    · exact (hfuel (.items _ []) (skipGaps cs)).mono fun _ hfault =>
        hfault.of_opening rfl (Gaps.skip cs).suffix
  · exact failsFor_readScalar _ _

/-- Behind a value that was read, a mark follows in the same text. -/
theorem suffix_of_readValue {value : Json} {c : Char}
    (h : readValue .usual fuel depth cs = .ok (value, rest)) (hc : isScalarChar c = false)
    {behind : List Char} (hmark : skipGaps rest = c :: behind) : behind <:+ cs := by
  have hgaps := Gaps.skip rest
  rw [hmark] at hgaps
  have hspells := (readsSpelt .usual fuel).of_value h (hgaps.stops (stops_cons hc behind))
  exact (suffix_of_skipGaps hmark).trans hspells.suffix

theorem items_succ (hfuel : FailsAsFound fuel) (depth : Nat) (done : List Json) (cs : List Char) :
    FailsFor (Fault.StandsIn depth cs) (readItems .usual (fuel + 1) depth done cs) := by
  unfold readItems
  refine (hfuel (.value depth) cs).bind fun found hitem => ?_
  obtain ⟨item, rest⟩ := found
  dsimp only
  split
  · exact failsFor_ok _ _
  · next behind hcomma =>
    have hbehind : behind <:+ cs := suffix_of_readValue hitem rfl hcomma
    have hmore := hfuel (.items depth (item :: done)) (skipGaps behind)
    exact hmore.mono fun _ hfault => hfault.of_suffix ((Gaps.skip behind).suffix.trans hbehind)
  · exact failsFor_error trivial

theorem members_succ (hfuel : FailsAsFound fuel) (depth : Nat) (done : Members) (cs : List Char) :
    FailsFor (Fault.StandsIn depth cs) (readMembers .usual (fuel + 1) depth done cs) := by
  unfold readMembers
  split
  case h_2 => exact failsFor_error trivial
  next cs =>
  refine (failsFor_readString depth _ cs).bind fun found hname => ?_
  obtain ⟨name, behind⟩ := found
  have hbehind : behind <:+ '"' :: cs :=
    (quoted_of_readString hname).suffix.trans (List.suffix_cons _ _)
  dsimp only
  split
  case h_2 => exact failsFor_error trivial
  next start hcolon =>
  have hstart : skipGaps start <:+ '"' :: cs :=
    ((Gaps.skip start).suffix.trans (suffix_of_skipGaps hcolon)).trans hbehind
  have hvalue := hfuel (.value depth) (skipGaps start)
  refine (hvalue.mono fun _ hfault => hfault.of_suffix hstart).bind fun found hread => ?_
  obtain ⟨value, rest⟩ := found
  dsimp only
  split
  · exact failsFor_ok _ _
  · next more hcomma =>
    have hmore : more <:+ '"' :: cs := (suffix_of_readValue hread rfl hcomma).trans hstart
    have hmembers := hfuel (.members depth (done.put name value)) (skipGaps more)
    exact hmembers.mono fun _ hfault => hfault.of_suffix ((Gaps.skip more).suffix.trans hmore)
  · exact failsFor_error trivial

end FailsAsFound

/-- **What a reader of a part gives up on stands in the text.** -/
theorem failsAsFound (fuel : Nat) : FailsAsFound fuel := by
  induction fuel with
  | zero =>
    intro part cs
    cases part <;> exact failsFor_error trivial
  | succ fuel ih =>
    intro part cs
    cases part with
    | value depth => exact ih.value_succ depth cs
    | items depth done => exact ih.items_succ depth done cs
    | members depth done => exact ih.members_succ depth done cs

theorem failsFor_readChars (cs : List Char) :
    FailsFor (Fault.StandsIn 0 cs) (readChars .usual cs) := by
  unfold readChars
  split
  · exact failsFor_error trivial
  · have hvalue := failsAsFound (2 * cs.length + 2) (.value 0) (skipGaps cs)
    refine (hvalue.mono fun _ hfault => hfault.of_suffix (Gaps.skip cs).suffix).bind
      fun found _ => ?_
    obtain ⟨value, rest⟩ := found
    dsimp only
    split
    · exact failsFor_ok _ _
    · exact failsFor_error trivial

/-- **What exceeds the limits of the reader stands in the document.** -/
theorem exceeds_of_read {document : String} {error : ReadError} (h : read document = .error error) :
    (∀ count, error = .numberTooLong count →
      Integer.digitLimit < count ∧ count ≤ document.toList.countP Char.isDigit) ∧
    ∀ holder, error = .tooDeep holder → depthLimit ≤ document.toList.countP isOpening := by
  have hfails := failsFor_readChars document.toList
  unfold read readWithin at h
  dsimp only at h
  split at h
  · cases h
  · cases h
    exact ⟨nofun, nofun⟩
  · next count hread =>
    cases h
    refine ⟨?_, nofun⟩
    rintro _ ⟨⟩
    exact hfails _ hread
  · next holder hread =>
    cases h
    refine ⟨nofun, fun _ _ => ?_⟩
    have hdepth : depthLimit ≤ 0 + document.toList.countP isOpening := hfails _ hread
    rwa [Nat.zero_add] at hdepth

/-! ## A number that is too long -/

/-- No constant begins with a digit. -/
theorem find?_constants {c : Char} (hc : c.isDigit = true) (cs : List Char) :
    constants.find? (fun entry => entry.1.isPrefixOf (c :: cs)) = none := by
  have hwords : ∀ entry ∈ constants, ∃ d word, entry.1 = d :: word ∧ d.isDigit = false := by
    simp [constants]
  refine List.find?_eq_none.2 fun entry hentry => ?_
  obtain ⟨d, word, hword, hd⟩ := hwords entry hentry
  have hne : d ≠ c := by
    rintro rfl
    rw [hd] at hc
    cases hc
  simp [hword, List.isPrefixOf, hne]

/-- **A number that is too long is refused**, whatever stands behind it. -/
theorem readScalar_tooLong {digits : List Char} (hdigits : ∀ d ∈ digits, d.isDigit = true)
    (hzero : digits.head? ≠ some '0') (hlimit : Integer.digitLimit < digits.length)
    (hrest : Stops rest) :
    readScalar .usual (digits ++ rest) = .error (.numberTooLong digits.length) := by
  obtain ⟨c, more, rfl⟩ := List.exists_cons_of_length_pos (Nat.zero_lt_of_lt hlimit)
  have hc := hdigits c List.mem_cons_self
  have hwhole : wholePart (c :: more ++ rest) = some (c :: more, rest) := by
    have hnotzero : ¬(c == '0') = true := by simpa using hzero
    have htake : (c :: more).takeWhile Char.isDigit = c :: more :=
      List.takeWhile_eq_self_iff.2 hdigits
    have hdrop : (c :: more).dropWhile Char.isDigit = [] := List.dropWhile_eq_nil_iff.2 hdigits
    rw [wholePart_append hrest, wholePart, if_neg hnotzero, if_pos hc, htake, hdrop]
    rfl
  have hfraction : fractionPart rest = ([], rest) := fractionPart_append hrest []
  have hexponent : exponentPart rest = (none, rest) := exponentPart_append hrest []
  have hsign : signOf (c :: more ++ rest) = (false, c :: more ++ rest) := by
    rw [List.cons_append]
    unfold signOf
    split
    · next heq =>
      cases heq
      cases hc
    · rfl
  have hdigitLimit : Limits.usual.digits.any (· < (c :: more).length) = true := by
    simpa [Limits.usual] using hlimit
  have hword : constants.find? (fun entry => entry.1.isPrefixOf (c :: more ++ rest)) = none :=
    find?_constants hc (more ++ rest)
  unfold readScalar
  rw [hword]
  dsimp only
  unfold readNumber
  split
  next negative body heq =>
  cases hsign.symm.trans heq
  simp only [hwhole, hfraction, hexponent, hdigitLimit]
  rfl

end DesktopMacro.Json
