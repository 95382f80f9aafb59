/-
The name of a key is its own name.

What normalisation gives is the name that an alias stands for, a known name, or what `ofOther` makes
of a spelling that is neither. The names of aliases are few. A known name was found by its small
letters, so a second search for these finds it again. Of other spellings only a lone digit is
changed; the name of a digit beyond ASCII is neither an alias nor a known name, because all of these
are ASCII. So normalising a name changes nothing.

Function keys are known by their numbers, as far as they are known. Digits have no other case, so a
function key has the same number in capitals and in small letters.
-/
import Mathlib.Data.List.DropRight
import Mathlib.Tactic.MkIffOfInductiveProp
import DesktopMacro.Key.Name
import DesktopMacro.Proofs.Text.Folding

set_option autoImplicit false

namespace DesktopMacro

/-! ## Trimming -/

namespace Text

/-- Trimming the back leaves the front as it is. -/
theorem trimFront_trimBack_trimFront (cs : List Char) :
    trimFront (trimBack (trimFront cs)) = trimBack (trimFront cs) := by
  have hstart : trimBack (trimFront cs) <+: trimFront cs := List.rdropWhile_prefix isBlank _
  have hfront : trimFront (trimFront cs) = trimFront cs := List.dropWhile_idempotent isBlank cs
  refine List.dropWhile_eq_self_iff.2 fun hlength => ?_
  -- The first character is that of the text with its front trimmed.
  rw [hstart.getElem hlength]
  exact List.dropWhile_eq_self_iff.1 hfront (hlength.trans_le hstart.length_le)

/-- Trimming a trimmed text changes nothing. -/
theorem trim_trim (s : String) : trim (trim s) = trim s := by
  have hback : ∀ cs : List Char, trimBack (trimBack cs) = trimBack cs :=
    List.rdropWhile_idempotent isBlank
  unfold trim trimChars
  rw [String.toList_ofList, trimFront_trimBack_trimFront, hback]

/-- A character that is a trimmed text is no blank. -/
theorem isBlank_of_trim {c : Char} (h : trim (String.ofList [c]) = String.ofList [c]) :
    isBlank c = false := by
  by_contra hblank
  rw [Bool.not_eq_false] at hblank
  unfold trim trimChars trimBack trimFront at h
  rw [String.toList_ofList, List.dropWhile_cons_of_pos hblank] at h
  cases String.ofList_injective h

end Text

namespace Key

/-! ## Known names -/

/-- Is a text of ASCII alone? -/
def isAsciiText (s : String) : Bool := s.toList.all Text.isAscii

/-- **How a known name is spelt**: it is trimmed, and its small letters are of ASCII. One that
starts with an f is the letter or a function key, one of a single character is a letter, and one of
two characters with a D at the front is a digit. -/
@[mk_iff]
structure WellSpelt (key : String) : Prop where
  trimmed : Text.trim key = key
  ascii : isAsciiText (Text.lower key) = true
  function : (Text.lower key).toList.head? = some 'f' →
    key = "F" ∨ key ∈ functions ∧ key = String.ofList ('F' :: (Text.lower key).toList.tail)
  letter : key.toList.length = 1 → key.toList.all Char.isAlpha = true
  smallLetter : (Text.lower key).toList.length = 1 →
    (Text.lower key).toList.all Char.isAlpha = true
  digit : key.toList.length = 2 → key.toList.head? = some 'D' →
    key.toList.tail.all Char.isDigit = true

instance (key : String) : Decidable (WellSpelt key) := decidable_of_iff _ (wellSpelt_iff key).symm

/-- **Known names are well spelt.** -/
theorem wellSpelt_of_mem_all : ∀ key ∈ all, WellSpelt key := by decide +kernel

/-- **The name that an alias stands for is its own name.** Aliases are of ASCII; none of them starts
with an f, and only the space is a single character. -/
theorem of_mem_aliases : ∀ entry ∈ aliases, normalize entry.2 = entry.2
    ∧ isAsciiText entry.1 = true ∧ entry.1.toList.head? ≠ some 'f'
    ∧ (entry.1.toList.length = 1 → entry.1 = " ") := by
  decide +kernel

/-- What is found by small letters is a known name with these letters. -/
theorem of_ofLowered {lowered key : String} (h : ofLowered? lowered = some key) :
    key ∈ all ∧ Text.lower key = lowered := by
  unfold ofLowered? at h
  have hfound := List.find?_some h
  exact ⟨List.mem_of_find?_eq_some h, eq_of_beq hfound⟩

theorem ne_space_of_trim {token : String} (h : Text.trim token = token) :
    (token == " ") = false := by
  rw [beq_eq_false_iff_ne]
  rintro rfl
  exact absurd h (by decide +kernel)

/-- **A known name that is found by its small letters is its own name.** -/
theorem normalize_of_ofLowered {key : String} (halias : ofAlias? (Text.lower key) = none)
    (hknown : ofLowered? (Text.lower key) = some key) : normalize key = key := by
  have htrim : Text.trim key = key := (wellSpelt_of_mem_all key (of_ofLowered hknown).1).trimmed
  unfold normalize
  rw [ne_space_of_trim htrim, htrim]
  dsimp only
  rw [halias, hknown]
  rfl

/-! ## Other spellings -/

/-- A trimmed spelling that is neither an alias nor a known name. -/
structure IsOther (token : String) : Prop where
  trimmed : Text.trim token = token
  ofAlias : ofAlias? (Text.lower token) = none
  ofLowered : ofLowered? (Text.lower token) = none

theorem IsOther.normalize {token : String} (h : IsOther token) :
    normalize token = ofOther token := by
  unfold Key.normalize
  rw [ne_space_of_trim h.trimmed, h.trimmed]
  dsimp only
  rw [h.ofAlias, h.ofLowered]
  rfl

/-- **What normalisation gives**: its own name, or what is made of another spelling. -/
theorem normalize_cases (spelling : String) :
    normalize (normalize spelling) = normalize spelling
      ∨ ∃ token, IsOther token ∧ normalize spelling = ofOther token := by
  by_cases hspace : spelling = " "
  · subst hspace
    exact .inl (by decide +kernel)
  have hguard : (spelling == " ") = false := beq_eq_false_iff_ne.2 hspace
  cases halias : ofAlias? (Text.lower (Text.trim spelling)) with
  | some name =>
    have hname : normalize spelling = name := by
      unfold normalize
      rw [hguard]
      dsimp only
      rw [halias]
      rfl
    obtain ⟨entry, hentry, rfl⟩ := Option.map_eq_some_iff.1 halias
    left
    rw [hname]
    exact (of_mem_aliases entry (List.mem_of_find?_eq_some hentry)).1
  | none =>
    have hname : normalize spelling = (ofLowered? (Text.lower (Text.trim spelling))).getD
        (ofOther (Text.trim spelling)) := by
      unfold normalize
      rw [hguard]
      dsimp only
      rw [halias]
      rfl
    cases hknown : ofLowered? (Text.lower (Text.trim spelling)) with
    | some name =>
      rw [hknown, Option.getD_some] at hname
      -- The name has the small letters that it was found by.
      have hlower : Text.lower name = Text.lower (Text.trim spelling) := (of_ofLowered hknown).2
      left
      rw [hname]
      rw [← hlower] at halias hknown
      exact normalize_of_ofLowered halias hknown
    | none =>
      rw [hknown, Option.getD_none] at hname
      exact .inr ⟨Text.trim spelling, ⟨Text.trim_trim spelling, halias, hknown⟩, hname⟩

/-! ## Lone digits -/

/-- A trimmed text whose small letters are beyond ASCII is neither an alias nor a known name. -/
theorem isOther_of_lower {token : String} (htrim : Text.trim token = token)
    (h : isAsciiText (Text.lower token) = false) : IsOther token := by
  refine ⟨htrim, ?_, ?_⟩
  · unfold ofAlias?
    rw [Option.map_eq_none_iff, List.find?_eq_none]
    intro entry hentry heq
    have hascii := (of_mem_aliases entry hentry).2.1
    rw [eq_of_beq heq, h] at hascii
    cases hascii
  · unfold ofLowered?
    rw [List.find?_eq_none]
    intro key hkey heq
    have hascii := (wellSpelt_of_mem_all key hkey).ascii
    rw [eq_of_beq heq, h] at hascii
    cases hascii

/-- The digits beyond ASCII lie apart from the letters that have small forms or capitals, and from
the blanks. -/
theorem digitRanges_apart : ∀ range ∈ Text.digitRanges,
    (∀ run ∈ Text.lowerRuns ++ Text.upperRuns, range.2 < run.first ∨ run.last < range.1)
      ∧ (∀ entry ∈ Text.lowerWide ++ Text.upperWide, range.2 < entry.1 ∨ entry.1 < range.1)
      ∧ ∀ blank ∈ Text.blankRanges, range.2 < blank.1 ∨ blank.2 < range.1 := by
  -- The tables are long: they are compared as numbers, and not as propositions.
  have hcompared : (Text.digitRanges.all fun range =>
      ((Text.lowerRuns ++ Text.upperRuns).all fun run =>
        Nat.blt range.2 run.first || Nat.blt run.last range.1)
      && (((Text.lowerWide ++ Text.upperWide).all fun entry =>
        Nat.blt range.2 entry.1 || Nat.blt entry.1 range.1)
      && Text.blankRanges.all fun blank =>
        Nat.blt range.2 blank.1 || Nat.blt blank.2 range.1)) = true := by
    decide +kernel
  simpa only [List.all_eq_true, Bool.and_eq_true, Bool.or_eq_true, Nat.blt_eq] using hcompared

/-- In ASCII, a digit has neither a small form nor a capital, and it is no blank. -/
theorem ascii_digit : ∀ c, Text.isAscii c = true → c.isDigit = true →
    c.toLower = c ∧ c.toUpper = c ∧ Text.isBlank c = false :=
  Text.forall_ascii (by decide +kernel)

/-- **A digit has neither a small form nor a capital.** -/
theorem case_of_isDigit {c : Char} (h : Text.isDigit c = true) :
    Text.lowerChar c = [c] ∧ Text.upperChar c = [c] := by
  unfold Text.isDigit at h
  unfold Text.lowerChar Text.upperChar
  by_cases hascii : Text.isAscii c = true
  · rw [if_pos hascii] at h
    obtain ⟨hlower, hupper, -⟩ := ascii_digit c hascii h
    rw [if_pos hascii, if_pos hascii, hlower, hupper]
    exact ⟨rfl, rfl⟩
  · rw [if_neg hascii] at h
    obtain ⟨range, hrange, hc⟩ := List.any_eq_true.1 h
    obtain ⟨hruns, hwide, -⟩ := digitRanges_apart range hrange
    rw [Bool.and_eq_true, decide_eq_true_eq, decide_eq_true_eq] at hc
    have hleft : ∀ {runs wide}, runs ⊆ Text.lowerRuns ++ Text.upperRuns →
        wide ⊆ Text.lowerWide ++ Text.upperWide → Text.lookUpCase runs wide c = [c] := by
      intro runs wide hsub hsub'
      refine Text.lookUpCase_of_apart (fun run hrun => ?_) fun entry hentry heq => ?_
      · have := hruns run (hsub hrun)
        omega
      · have := hwide entry (hsub' hentry)
        omega
    rw [if_neg hascii, if_neg hascii]
    exact ⟨hleft (List.subset_append_left _ _) (List.subset_append_left _ _),
      hleft (List.subset_append_right _ _) (List.subset_append_right _ _)⟩

/-- Digits are their own small letters. -/
theorem lowerAfter_digits {cs : List Char} (h : ∀ c ∈ cs, Text.isDigit c = true)
    (before : List Char) : Text.lowerAfter before cs = cs := by
  induction cs generalizing before with
  | nil => rfl
  | cons c cs ih =>
    obtain ⟨hdigit, hdigits⟩ := List.forall_mem_cons.1 h
    have hsigma : (c == 'Σ') = false := by
      rw [beq_eq_false_iff_ne]
      rintro rfl
      exact absurd hdigit (by decide +kernel)
    unfold Text.lowerAfter
    rw [hsigma, (case_of_isDigit hdigit).1, ih hdigits]
    rfl

/-- The key of a digit beyond ASCII is neither an alias nor a known name. -/
theorem isOther_digit {c : Char} (hascii : Text.isAscii c = false) (hblank : Text.isBlank c = false)
    (h : Text.isDigit c = true) : IsOther (String.ofList ['D', c]) := by
  have hlower : Text.lower (String.ofList ['D', c]) = String.ofList ['d', c] := by
    unfold Text.lower
    rw [String.toList_ofList]
    unfold Text.lowerAfter
    rw [lowerAfter_digits (List.forall_mem_singleton.2 h)]
    rfl
  refine isOther_of_lower ?_ ?_
  · have hD : Text.isBlank 'D' = false := by decide
    unfold Text.trim Text.trimChars Text.trimBack Text.trimFront
    simp [hD, hblank]
  · rw [hlower]
    unfold isAsciiText
    rw [String.toList_ofList]
    simp [hascii]

/-! ## The law -/

/-- In ASCII, the key of a digit is its own name, and a letter is a known name. -/
theorem normalize_ascii : ∀ c, Text.isAscii c = true →
    (c.isDigit = true → normalize (String.ofList ['D', c]) = String.ofList ['D', c])
    ∧ (c.isAlpha = true → ofLowered? (Text.lower (String.ofList [c])) ≠ none) :=
  Text.forall_ascii (by decide +kernel)

/-- The key of a lone digit is its own name. -/
theorem normalize_digit {c : Char} (hdigit : Text.isDigit c = true)
    (hblank : Text.isBlank c = false) :
    normalize (String.ofList ['D', c]) = String.ofList ['D', c] := by
  by_cases hascii : Text.isAscii c = true
  · exact (normalize_ascii c hascii).1 (by simpa [Text.isDigit, hascii] using hdigit)
  · rw [(isOther_digit (by simpa using hascii) hblank hdigit).normalize]
    unfold ofOther
    rw [String.toList_ofList]

/-- A letter of ASCII is a known name. -/
theorem not_isOther_letter {c : Char} (halpha : c.isAlpha = true) :
    ¬IsOther (String.ofList [c]) := by
  have hknown := (normalize_ascii c (Text.isAscii_of_isAlpha halpha)).2
  exact fun h => hknown halpha h.ofLowered

/-- The name of another spelling is its own name. -/
theorem normalize_ofOther {token : String} (h : IsOther token) :
    normalize (ofOther token) = ofOther token := by
  have hnormal := h.normalize
  unfold ofOther at hnormal ⊢
  split
  · next c hc =>
    have htoken : token = String.ofList [c] := by rw [← hc, String.ofList_toList]
    rw [htoken] at h
    split
    · next hdigit => exact normalize_digit hdigit (Text.isBlank_of_trim h.trimmed)
    split
    · next halpha => exact absurd h (not_isOther_letter halpha)
    · next hdigit halpha => simpa [hc, hdigit, halpha] using hnormal
  · next hmany =>
    split at hnormal
    · next c hc => exact absurd hc (hmany c)
    · exact hnormal

/-- **The name of a key is its own name.** -/
theorem normalize_normalize (spelling : String) :
    normalize (normalize spelling) = normalize spelling := by
  rcases normalize_cases spelling with hown | ⟨token, hother, hname⟩
  · exact hown
  · rw [hname]
    exact normalize_ofOther hother

/-! ## Function keys -/

/-- No digit is a blank. -/
theorem isBlank_of_isDigit {c : Char} (h : Text.isDigit c = true) : Text.isBlank c = false := by
  unfold Text.isDigit at h
  split at h
  · next hascii =>
    exact (ascii_digit c hascii h).2.2
  · obtain ⟨range, hrange, hc⟩ := List.any_eq_true.1 h
    rw [Bool.and_eq_true, decide_eq_true_eq, decide_eq_true_eq] at hc
    rw [Text.isBlank_eq_false]
    intro blank hblank
    have := (digitRanges_apart range hrange).2.2 blank hblank
    omega

section Functions

variable {number : List Char}

theorem of_isDigits (h : Text.isDigits (String.ofList number) = true) :
    number ≠ [] ∧ ∀ c ∈ number, Text.isDigit c = true := by
  unfold Text.isDigits at h
  rw [Bool.and_eq_true, String.toList_ofList, List.all_eq_true] at h
  refine ⟨?_, h.2⟩
  rintro rfl
  exact absurd h.1 (by decide)

/-- The function key of a number, in capitals. -/
theorem upper_function (h : Text.isDigits (String.ofList number) = true) :
    Text.upper (String.ofList ('f' :: number)) = String.ofList ('F' :: number) := by
  unfold Text.upper
  have hdigits : number.flatMap Text.upperChar = number.flatMap fun c => [c] :=
    List.flatMap_congr fun c hc => (case_of_isDigit ((of_isDigits h).2 c hc)).2
  rw [String.toList_ofList, List.flatMap_cons, hdigits, List.flatMap_singleton']
  rfl

/-- The function key of a number, in small letters. -/
theorem lower_function {c : Char} (hc : c = 'f' ∨ c = 'F')
    (h : Text.isDigits (String.ofList number) = true) :
    Text.lower (String.ofList (c :: number)) = String.ofList ('f' :: number) := by
  unfold Text.lower
  rw [String.toList_ofList]
  rcases hc with rfl | rfl
  all_goals
    unfold Text.lowerAfter
    rw [lowerAfter_digits (of_isDigits h).2]
    rfl

/-- A function key is found by its small letters if it is known. -/
theorem ofLowered_function (h : Text.isDigits (String.ofList number) = true) :
    ofLowered? (String.ofList ('f' :: number))
      = if String.ofList ('F' :: number) ∈ functions then some (String.ofList ('F' :: number))
        else none := by
  cases hfound : ofLowered? (String.ofList ('f' :: number)) with
  | some key =>
    obtain ⟨hall, hlower⟩ := of_ofLowered hfound
    have hletters : (Text.lower key).toList = 'f' :: number := by
      rw [hlower, String.toList_ofList]
    have hhead : (Text.lower key).toList.head? = some 'f' := by
      rw [hletters]
      rfl
    rcases (wellSpelt_of_mem_all key hall).function hhead with rfl | ⟨hknown, hkey⟩
    · have hnumber : ['f'] = 'f' :: number := hletters
      exact absurd (List.cons.inj hnumber).2.symm (of_isDigits h).1
    · rw [hletters, List.tail_cons] at hkey
      rw [← hkey, if_pos hknown]
  | none =>
    refine (if_neg fun hknown => ?_).symm
    unfold ofLowered? at hfound
    rw [List.find?_eq_none] at hfound
    refine hfound _ (List.mem_append_right _ hknown) ?_
    rw [lower_function (.inr rfl) h]
    exact beq_self_eq_true _

/-- **The name of a function key** is that of a known one, or else its own. -/
theorem normalize_function {c : Char} (hc : c = 'f' ∨ c = 'F')
    (h : Text.isDigits (String.ofList number) = true) :
    normalize (String.ofList (c :: number))
      = if String.ofList ('F' :: number) ∈ functions then String.ofList ('F' :: number)
        else String.ofList (c :: number) := by
  obtain ⟨hsome, hdigits⟩ := of_isDigits h
  have htrim : Text.trim (String.ofList (c :: number)) = String.ofList (c :: number) := by
    refine Text.trim_of_not_isBlank ?_
    rw [String.toList_ofList, List.forall_mem_cons]
    refine ⟨?_, fun d hd => isBlank_of_isDigit (hdigits d hd)⟩
    rcases hc with rfl | rfl <;> decide
  have hlower := lower_function hc h
  have halias : ofAlias? (String.ofList ('f' :: number)) = none := by
    unfold ofAlias?
    rw [Option.map_eq_none_iff, List.find?_eq_none]
    intro entry hentry heq
    refine (of_mem_aliases entry hentry).2.2.1 ?_
    rw [eq_of_beq heq, String.toList_ofList]
    rfl
  unfold normalize
  rw [ne_space_of_trim htrim, htrim]
  dsimp only
  rw [hlower, halias]
  change Option.getD (ofLowered? _) _ = _
  rw [ofLowered_function h]
  split
  · rfl
  · -- A spelling of more than one character stays as it is.
    obtain ⟨d, ds, rfl⟩ := List.exists_cons_of_ne_nil hsome
    unfold ofOther
    rw [Option.getD_none, String.toList_ofList]

end Functions

end Key
end DesktopMacro
