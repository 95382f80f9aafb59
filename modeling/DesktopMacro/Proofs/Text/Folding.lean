/-
Folding leaves the blanks of a text alone.

A blank folds to itself, and every other character to one or more characters that are no blanks:
the tables of case folding keep away from the few ranges that the blanks fill. So a text can be
folded first and trimmed afterwards, or the other way round; and because folding drops no character,
a text that folds like its trimmed self has no blanks at its ends.

The small form of a character is that of ASCII, the character itself, or one that begins far away
from all that keys are named by. So nothing but a digit has a digit for its small form, and the same
goes for an f, for a space and for a plus sign: a text whose small letters are such characters is
known itself.
-/
import Mathlib.Data.List.DropRight
import DesktopMacro.Text.Blank
import DesktopMacro.Text.Case
import DesktopMacro.Text.Classes

set_option autoImplicit false

namespace DesktopMacro.Text

/-! ## ASCII -/

theorem isAscii_iff {c : Char} : isAscii c = true ↔ c.toNat < 128 := decide_eq_true_iff

theorem isAscii_eq_false_iff {c : Char} : isAscii c = false ↔ 128 ≤ c.toNat := by
  rw [← Bool.not_eq_true, isAscii_iff, not_lt]

/-- What holds of each code of ASCII holds of each character of ASCII. -/
theorem forall_ascii {P : Char → Prop} (h : ∀ n < 128, P (Char.ofNat n)) :
    ∀ c, isAscii c = true → P c := by
  intro c hascii
  have hcode := h c.toNat (isAscii_iff.1 hascii)
  rwa [Char.ofNat_toNat] at hcode

theorem code_of_isDigit {c : Char} (h : c.isDigit = true) : 48 ≤ c.toNat ∧ c.toNat ≤ 57 := by
  simpa [Char.isDigit, UInt32.le_iff_toNat_le] using h

theorem code_of_isUpper {c : Char} (h : c.isUpper = true) : 65 ≤ c.toNat ∧ c.toNat ≤ 90 := by
  have hcode : 65 ≤ c.val ∧ c.val ≤ 90 := of_decide_eq_true h
  exact ⟨UInt32.le_iff_toNat_le.1 hcode.1, UInt32.le_iff_toNat_le.1 hcode.2⟩

theorem code_of_isLower {c : Char} (h : c.isLower = true) : 97 ≤ c.toNat ∧ c.toNat ≤ 122 := by
  have hcode : (decide (97 ≤ c.val) && decide (c.val ≤ 122)) = true := h
  rw [Bool.and_eq_true, decide_eq_true_eq, decide_eq_true_eq] at hcode
  exact ⟨UInt32.le_iff_toNat_le.1 hcode.1, UInt32.le_iff_toNat_le.1 hcode.2⟩

theorem isAscii_of_isDigit {c : Char} (h : c.isDigit = true) : isAscii c = true := by
  have hcode := code_of_isDigit h
  exact isAscii_iff.2 (by omega)

theorem isAscii_of_isAlpha {c : Char} (h : c.isAlpha = true) : isAscii c = true := by
  rw [isAscii_iff]
  rcases Bool.or_eq_true_iff.1 h with hupper | hlower
  · have hcode := code_of_isUpper hupper
    omega
  · have hcode := code_of_isLower hlower
    omega

/-! ## Case maps -/

/-- A character that a case map leaves out is its own image. -/
theorem lookUpCase_of_apart {runs : List CaseRun} {wide : List (Nat × List Nat)} {c : Char}
    (hruns : ∀ run ∈ runs, c.toNat < run.first ∨ run.last < c.toNat)
    (hwide : ∀ entry ∈ wide, entry.1 ≠ c.toNat) : lookUpCase runs wide c = [c] := by
  have hwide' : wide.find? (fun entry => entry.1 == c.toNat) = none := by
    rw [List.find?_eq_none]
    exact fun entry hentry heq => hwide entry hentry (eq_of_beq heq)
  have hruns' : runs.find? (fun run =>
      run.first ≤ c.toNat && c.toNat ≤ run.last && (c.toNat - run.first) % run.step == 0)
        = none := by
    rw [List.find?_eq_none]
    intro run hrun hinside
    have := hruns run hrun
    simp only [Bool.and_eq_true, decide_eq_true_eq] at hinside
    omega
  unfold lookUpCase
  dsimp only
  rw [hwide', hruns']

/-- **What a case map makes of a character**: the several characters of a wide entry, one that is
moved by a run, or the character itself. -/
theorem lookUpCase_cases (runs : List CaseRun) (wide : List (Nat × List Nat)) (c : Char) :
    (∃ entry ∈ wide, lookUpCase runs wide c = entry.2.map Char.ofNat)
    ∨ (∃ run ∈ runs, ∃ moved, lookUpCase runs wide c = [moved]
      ∧ ((run.first + run.offset).toNat ≤ moved.toNat ∧ moved.toNat ≤ (run.last + run.offset).toNat
        ∨ moved.toNat = 0))
    ∨ lookUpCase runs wide c = [c] := by
  unfold lookUpCase
  dsimp only
  split
  · next entry hentry => exact .inl ⟨entry, List.mem_of_find?_eq_some hentry, rfl⟩
  split
  · next run hrun =>
    have hinside := List.find?_some hrun
    simp only [Bool.and_eq_true, decide_eq_true_eq] at hinside
    refine .inr (.inl ⟨run, List.mem_of_find?_eq_some hrun, _, rfl, ?_⟩)
    have hcast : Int.ofNat c.toNat = (c.toNat : Int) := rfl
    by_cases hvalid : (Int.ofNat c.toNat + run.offset).toNat.isValidChar
    · left
      have hcode : (Char.ofNat (Int.ofNat c.toNat + run.offset).toNat).toNat
          = (Int.ofNat c.toNat + run.offset).toNat := by
        rw [Char.ofNat, dif_pos hvalid]
        rfl
      omega
    · -- There is no such character, and the first one of all stands in for it.
      right
      rw [Char.ofNat, dif_neg hvalid]
      rfl
  · exact .inr (.inr rfl)

/-! ## One character -/

/-- The blanks as ranges of characters. -/
def blankRanges : List (Nat × Nat) :=
  [(9, 13), (28, 32), (0x85, 0x85), (0xa0, 0xa0), (0x1680, 0x1680), (0x2000, 0x200a),
    (0x2028, 0x2029), (0x202f, 0x202f), (0x205f, 0x205f), (0x3000, 0x3000)]

theorem blankRanges_pos : ∀ blank ∈ blankRanges, 0 < blank.1 := by decide

theorem isBlank_eq_false {c : Char} :
    isBlank c = false ↔ ∀ blank ∈ blankRanges, c.toNat < blank.1 ∨ blank.2 < c.toNat := by
  simp only [isBlank, blankRanges, List.forall_mem_cons, List.not_mem_nil, Bool.or_eq_false_iff,
    Bool.and_eq_false_iff, decide_eq_false_iff_not, beq_eq_false_iff_ne, ne_eq, false_implies,
    implies_true, and_true]
  omega

theorem isBlank_eq_true {c : Char} :
    isBlank c = true ↔ ∃ blank ∈ blankRanges, blank.1 ≤ c.toNat ∧ c.toNat ≤ blank.2 := by
  rw [← Bool.not_eq_false, isBlank_eq_false]
  push Not
  rfl

/-- The letters that fold one by one lie apart from the blanks, and so do their folded forms. -/
theorem foldRuns_apart : ∀ run ∈ foldRuns, ∀ blank ∈ blankRanges,
    (run.last < blank.1 ∨ blank.2 < run.first)
      ∧ ((run.last + run.offset).toNat < blank.1 ∨ blank.2 < (run.first + run.offset).toNat) := by
  decide +kernel

/-- The characters that fold to several are no blanks, and neither are their folded forms. -/
theorem foldWide_apart : ∀ entry ∈ foldWide,
    (∀ blank ∈ blankRanges, entry.1 < blank.1 ∨ blank.2 < entry.1)
      ∧ entry.2 ≠ [] ∧ ∀ n ∈ entry.2, isBlank (Char.ofNat n) = false := by
  decide +kernel

/-- In ASCII, small letters leave the blanks and the other characters apart. -/
theorem toLower_ascii : ∀ c, isAscii c = true →
    if isBlank c then c.toLower = c else isBlank c.toLower = false :=
  forall_ascii (by decide +kernel)

/-- A blank folds to itself. -/
theorem foldChar_of_isBlank {c : Char} (h : isBlank c = true) : foldChar c = [c] := by
  unfold foldChar
  by_cases hascii : isAscii c = true
  · have hlower := toLower_ascii c hascii
    rw [if_pos h] at hlower
    rw [if_pos hascii, hlower]
  · obtain ⟨blank, hblank, hfirst, hlast⟩ := isBlank_eq_true.1 h
    rw [if_neg hascii]
    refine lookUpCase_of_apart (fun run hrun => ?_) fun entry hentry heq => ?_
    · have hapart := (foldRuns_apart run hrun blank hblank).1
      omega
    · have hapart := (foldWide_apart entry hentry).1 blank hblank
      omega

/-- What is no blank folds to one or more characters that are no blanks. -/
theorem foldChar_of_not_isBlank {c : Char} (h : isBlank c = false) :
    foldChar c ≠ [] ∧ ∀ folded ∈ foldChar c, isBlank folded = false := by
  unfold foldChar
  by_cases hascii : isAscii c = true
  · have hlower := toLower_ascii c hascii
    rw [h, if_neg Bool.false_ne_true] at hlower
    rw [if_pos hascii]
    exact ⟨List.cons_ne_nil _ _, List.forall_mem_singleton.2 hlower⟩
  rw [if_neg hascii]
  rcases lookUpCase_cases foldRuns foldWide c with
    ⟨entry, hentry, hfolded⟩ | ⟨run, hrun, moved, hfolded, hmoved⟩ | hself
  · obtain ⟨-, hsome, hblanks⟩ := foldWide_apart entry hentry
    rw [hfolded]
    exact ⟨by simpa using hsome, List.forall_mem_map.2 hblanks⟩
  · rw [hfolded]
    refine ⟨List.cons_ne_nil _ _, List.forall_mem_singleton.2 (isBlank_eq_false.2 ?_)⟩
    intro blank hblank
    have hapart := (foldRuns_apart run hrun blank hblank).2
    have hsome : 0 < blank.1 := blankRanges_pos blank hblank
    omega
  · rw [hself]
    exact ⟨List.cons_ne_nil _ _, List.forall_mem_singleton.2 h⟩

/-! ## Texts -/

/-- A map of characters that keeps the blanks and makes no others. -/
structure KeepsBlanks (f : Char → List Char) : Prop where
  blank : ∀ {c : Char}, isBlank c = true → f c = [c]
  other : ∀ {c : Char}, isBlank c = false → f c ≠ [] ∧ ∀ made ∈ f c, isBlank made = false

theorem KeepsBlanks.foldChar : KeepsBlanks foldChar where
  blank := foldChar_of_isBlank
  other := foldChar_of_not_isBlank

theorem KeepsBlanks.reverse {f : Char → List Char} (h : KeepsBlanks f) :
    KeepsBlanks (fun c => (f c).reverse) where
  blank hblank := by rw [h.blank hblank, List.reverse_singleton]
  other hother := by
    obtain ⟨hsome, hmade⟩ := h.other hother
    exact ⟨List.reverse_ne_nil_iff.2 hsome, fun made hin => hmade made (List.mem_reverse.1 hin)⟩

/-- Such a map can be applied before the front is trimmed, or after that. -/
theorem KeepsBlanks.trimFront {f : Char → List Char} (h : KeepsBlanks f) (cs : List Char) :
    trimFront (cs.flatMap f) = (trimFront cs).flatMap f := by
  unfold Text.trimFront
  induction cs with
  | nil => rfl
  | cons c cs ih =>
    rw [List.flatMap_cons]
    by_cases hblank : isBlank c = true
    · rw [h.blank hblank, List.singleton_append, List.dropWhile_cons_of_pos hblank,
        List.dropWhile_cons_of_pos hblank, ih]
    · obtain ⟨hsome, hmade⟩ := h.other (Bool.not_eq_true _ ▸ hblank)
      obtain ⟨made, more, hf⟩ := List.exists_cons_of_ne_nil hsome
      have hfirst : ¬isBlank made = true := by
        rw [hmade made (hf ▸ List.mem_cons_self)]
        exact Bool.false_ne_true
      rw [hf, List.cons_append, List.dropWhile_cons_of_neg hfirst,
        List.dropWhile_cons_of_neg hblank, List.flatMap_cons, hf, List.cons_append]

/-- Such a map can be applied before the back is trimmed, or after that. -/
theorem KeepsBlanks.trimBack {f : Char → List Char} (h : KeepsBlanks f) (cs : List Char) :
    trimBack (cs.flatMap f) = (trimBack cs).flatMap f := by
  have hfront := h.reverse.trimFront cs.reverse
  unfold Text.trimFront at hfront
  unfold Text.trimBack
  rw [List.reverse_flatMap]
  change (List.dropWhile isBlank (cs.reverse.flatMap fun c => (f c).reverse)).reverse = _
  rw [hfront, List.reverse_flatMap]
  simp only [Function.comp_def, List.reverse_reverse]

/-- **Folding and trimming can be done in either order.** -/
theorem trim_fold (s : String) : trim (fold s) = fold (trim s) := by
  unfold fold trim trimChars
  rw [String.toList_ofList, String.toList_ofList, KeepsBlanks.foldChar.trimFront,
    KeepsBlanks.foldChar.trimBack]

/-- Folding drops no character. -/
theorem foldChar_ne_nil (c : Char) : foldChar c ≠ [] := by
  by_cases hblank : isBlank c = true
  · rw [foldChar_of_isBlank hblank]
    exact List.cons_ne_nil _ _
  · exact (foldChar_of_not_isBlank (Bool.not_eq_true _ ▸ hblank)).1

/-- A text that folds to nothing is empty. -/
theorem flatMap_foldChar_eq_nil {cs : List Char} (h : cs.flatMap foldChar = []) : cs = [] := by
  rw [List.flatMap_eq_nil_iff] at h
  exact List.eq_nil_iff_forall_not_mem.2 fun c hc => foldChar_ne_nil c (h c hc)

/-- **A text is its trimmed self** between blanks. -/
theorem exists_eq_trim (s : String) : ∃ before after : List Char,
    (∀ c ∈ before, isBlank c = true) ∧ (∀ c ∈ after, isBlank c = true)
      ∧ s.toList = before ++ (trim s).toList ++ after := by
  have hblank (cs : List Char) : ∀ c ∈ cs.takeWhile isBlank, isBlank c = true :=
    fun c hc => List.mem_takeWhile_imp hc
  have hback : trimBack (trimFront s.toList)
      ++ ((trimFront s.toList).reverse.takeWhile isBlank).reverse = trimFront s.toList := by
    unfold trimBack
    rw [← List.reverse_append, List.takeWhile_append_dropWhile, List.reverse_reverse]
  refine ⟨s.toList.takeWhile isBlank, ((trimFront s.toList).reverse.takeWhile isBlank).reverse,
    hblank s.toList, fun c hc => hblank _ c (List.mem_reverse.1 hc), ?_⟩
  unfold trim trimChars
  rw [String.toList_ofList, List.append_assoc, hback]
  exact List.takeWhile_append_dropWhile.symm

/-- A text without blanks is trimmed. -/
theorem trim_of_not_isBlank {s : String} (h : ∀ c ∈ s.toList, isBlank c = false) :
    trim s = s := by
  obtain ⟨before, after, hbefore, hafter, hs⟩ := exists_eq_trim s
  have hnone {cs : List Char} (hcs : ∀ c ∈ cs, isBlank c = true) (hsub : cs ⊆ s.toList) :
      cs = [] := by
    rw [List.eq_nil_iff_forall_not_mem]
    intro c hc
    have hnot := h c (hsub hc)
    rw [hcs c hc] at hnot
    cases hnot
  have hfront : before = [] := hnone hbefore (by rw [hs]; simp)
  have hback : after = [] := hnone hafter (by rw [hs]; simp)
  rw [hfront, hback, List.nil_append, List.append_nil] at hs
  exact (String.toList_inj.1 hs).symm

/-- **A text that folds like its trimmed self is trimmed.** -/
theorem trim_eq_of_fold {s : String} (h : fold (trim s) = fold s) : trim s = s := by
  obtain ⟨before, after, -, -, hs⟩ := exists_eq_trim s
  unfold fold at h
  rw [String.ofList_inj, hs, List.flatMap_append, List.flatMap_append] at h
  have hlength := congrArg List.length h
  simp only [List.length_append] at hlength
  -- What stands before and after the trimmed text folds to nothing.
  have hbefore : before = [] :=
    flatMap_foldChar_eq_nil (List.eq_nil_of_length_eq_zero (by omega))
  have hafter : after = [] :=
    flatMap_foldChar_eq_nil (List.eq_nil_of_length_eq_zero (by omega))
  rw [hbefore, hafter, List.nil_append, List.append_nil] at hs
  exact (String.toList_inj.1 hs).symm

/-! ## Words -/

theorem of_mem_wordsFrom {P : Char → Prop} {word cs piece : List Char} (hword : ∀ c ∈ word, P c)
    (hcs : ∀ c ∈ cs, isBlank c = false → P c) (h : piece ∈ wordsFrom word cs) :
    ∀ c ∈ piece, P c := by
  induction cs generalizing word with
  | nil =>
    unfold wordsFrom at h
    split at h
    · cases h
    · rw [List.mem_singleton.1 h]
      exact fun c hc => hword c (List.mem_reverse.1 hc)
  | cons c cs ih =>
    obtain ⟨hc, hcs⟩ := List.forall_mem_cons.1 hcs
    unfold wordsFrom at h
    split at h
    · split at h
      · exact ih (List.forall_mem_nil _) hcs h
      · rcases List.mem_cons.1 h with rfl | hrest
        · exact fun d hd => hword d (List.mem_reverse.1 hd)
        · exact ih (List.forall_mem_nil _) hcs hrest
    · next hblank =>
      exact ih (List.forall_mem_cons.2 ⟨hc (Bool.not_eq_true _ ▸ hblank), hword⟩) hcs h

/-- A word is made of characters of the text that are no blanks. -/
theorem of_mem_words {s word : String} (h : word ∈ words s) :
    ∀ c ∈ word.toList, isBlank c = false ∧ c ∈ s.toList := by
  obtain ⟨piece, hpiece, rfl⟩ := List.mem_map.1 h
  rw [String.toList_ofList]
  exact of_mem_wordsFrom (List.forall_mem_nil _) (fun c hc hblank => ⟨hblank, hc⟩) hpiece

/-! ## Small letters -/

/-- **A character that is none of those that hotkeys depend on**: no digit, no f, and nothing that
comes before the small letters of ASCII. -/
def IsFar (c : Char) : Prop := isDigit c = false ∧ (c.toNat = 0 ∨ 90 < c.toNat) ∧ c ≠ 'f'

instance (c : Char) : Decidable (IsFar c) := inferInstanceAs (Decidable (_ ∧ _))

/-- **The small form of a character**, its first character apart: that of ASCII, the character
itself, or one that begins far away. -/
inductive SmallForm : Char → Char → List Char → Prop
  | ascii {c : Char} (h : isAscii c = true) : SmallForm c c.toLower []
  | same {c : Char} (h : isAscii c = false) : SmallForm c c []
  | far {c d : Char} {rest : List Char} (h : isAscii c = false) (hfar : IsFar d) :
    SmallForm c d rest

/-- The small letters of ASCII: only a digit has a digit for its small form, only an f has an f, and
what comes before the digits is the small form of itself alone. No small form is a capital. -/
theorem small_ascii : ∀ c, isAscii c = true →
    (c.toLower.isDigit = true → c.toLower = c) ∧ (c.toLower = 'f' → c = 'f' ∨ c = 'F')
    ∧ (c.toLower.toNat < 48 → c.toLower = c) ∧ c.toLower.isUpper = false
    ∧ c.toLower.isAlpha = c.isAlpha ∧ isAscii c.toLower = true :=
  forall_ascii (by decide +kernel)

theorem lowerRuns_apart : ∀ run ∈ lowerRuns, 90 < (run.first + run.offset).toNat
    ∧ (102 < (run.first + run.offset).toNat ∨ (run.last + run.offset).toNat < 102)
    ∧ ∀ range ∈ digitRanges, range.2 < (run.first + run.offset).toNat
      ∨ (run.last + run.offset).toNat < range.1 := by
  have hcompared : (lowerRuns.all fun run => Nat.blt 90 (run.first + run.offset).toNat
      && ((Nat.blt 102 (run.first + run.offset).toNat || Nat.blt (run.last + run.offset).toNat 102)
      && digitRanges.all fun range => Nat.blt range.2 (run.first + run.offset).toNat
        || Nat.blt (run.last + run.offset).toNat range.1)) = true := by
    decide +kernel
  simpa only [List.all_eq_true, Bool.and_eq_true, Bool.or_eq_true, Nat.blt_eq] using hcompared

/-- The several characters of a wide small form begin far away. -/
theorem lowerWide_far : ∀ entry ∈ lowerWide,
    ∃ d rest, entry.2.map Char.ofNat = d :: rest ∧ IsFar d := by
  simp only [lowerWide, List.forall_mem_singleton]
  exact ⟨'i', _, rfl, by decide +kernel⟩

/-- What a run of small letters leads to is far away. -/
theorem isFar_of_moved {run : CaseRun} (hrun : run ∈ lowerRuns) {d : Char}
    (hd : (run.first + run.offset).toNat ≤ d.toNat ∧ d.toNat ≤ (run.last + run.offset).toNat
      ∨ d.toNat = 0) : IsFar d := by
  obtain ⟨hlow, hf, hdigits⟩ := lowerRuns_apart run hrun
  refine ⟨?_, by omega, ?_⟩
  · rw [← Bool.not_eq_true]
    intro hdigit
    unfold isDigit at hdigit
    split at hdigit
    · have := code_of_isDigit hdigit
      omega
    · next hascii =>
      obtain ⟨range, hrange, hinside⟩ := List.any_eq_true.1 hdigit
      rw [Bool.and_eq_true, decide_eq_true_eq, decide_eq_true_eq] at hinside
      have := hdigits range hrange
      have := isAscii_eq_false_iff.1 (Bool.not_eq_true _ ▸ hascii)
      omega
  · rintro rfl
    have hcode : 'f'.toNat = 102 := rfl
    omega

/-- A character has a small form. -/
theorem exists_smallForm (c : Char) : ∃ d rest, lowerChar c = d :: rest ∧ SmallForm c d rest := by
  unfold lowerChar
  by_cases hascii : isAscii c = true
  · exact ⟨c.toLower, [], if_pos hascii, .ascii hascii⟩
  · rw [if_neg hascii]
    rw [Bool.not_eq_true] at hascii
    rcases lookUpCase_cases lowerRuns lowerWide c with
      ⟨entry, hentry, heq⟩ | ⟨run, hrun, moved, heq, hmoved⟩ | heq
    · obtain ⟨d, rest, hwide, hfar⟩ := lowerWide_far entry hentry
      exact ⟨d, rest, heq.trans hwide, .far hascii hfar⟩
    · exact ⟨moved, [], heq, .far hascii (isFar_of_moved hrun hmoved)⟩
    · exact ⟨c, [], heq, .same hascii⟩

/-- **Small letters are put together from small forms.** -/
theorem exists_lowerAfter_cons (before : List Char) (c : Char) (cs : List Char) :
    ∃ d rest, SmallForm c d rest
      ∧ lowerAfter before (c :: cs) = d :: (rest ++ lowerAfter (c :: before) cs) := by
  by_cases hsigma : c = 'Σ'
  · -- A sigma is far away, whichever one it is.
    subst hsigma
    refine ⟨if opensCased before && !opensCased cs then 'ς' else 'σ', [], .far rfl ?_, rfl⟩
    split <;> decide +kernel
  · obtain ⟨d, rest, heq, hform⟩ := exists_smallForm c
    refine ⟨d, rest, hform, ?_⟩
    rw [← List.cons_append, ← heq]
    conv_lhs => unfold lowerAfter
    rw [beq_eq_false_iff_ne.2 hsigma]
    rfl

theorem SmallForm.of_ascii {c d : Char} {rest : List Char} (h : SmallForm c d rest)
    (hascii : isAscii c = true) : d = c.toLower := by
  cases h with
  | ascii => rfl
  | same h | far h => exact absurd (hascii.symm.trans h) nofun

/-- Only a digit has a small form that begins with a digit. -/
theorem SmallForm.of_isDigit {c d : Char} {rest : List Char} (h : SmallForm c d rest)
    (hd : isDigit d = true) : c = d ∧ rest = [] := by
  cases h with
  | ascii hascii =>
    obtain ⟨hdigit, -, -, -, -, hsmall⟩ := small_ascii c hascii
    unfold isDigit at hd
    rw [if_pos hsmall] at hd
    exact ⟨(hdigit hd).symm, rfl⟩
  | same => exact ⟨rfl, rfl⟩
  | far _ hfar => exact absurd (hd.symm.trans hfar.1) nofun

/-- Only an f has a small form that begins with an f. -/
theorem SmallForm.of_f {c d : Char} {rest : List Char} (h : SmallForm c d rest) (hd : d = 'f') :
    (c = 'f' ∨ c = 'F') ∧ rest = [] := by
  cases h with
  | ascii hascii =>
    exact ⟨(small_ascii c hascii).2.1 hd, rfl⟩
  | same hascii =>
    subst hd
    cases hascii
  | far _ hfar => exact absurd hd hfar.2.2

/-- A sign that comes before the digits, or a space, is the small form of itself alone. -/
theorem SmallForm.of_sign {c d : Char} {rest : List Char} (h : SmallForm c d rest)
    (hpositive : 0 < d.toNat) (hd : d.toNat < 48) : c = d := by
  cases h with
  | ascii hascii => exact ((small_ascii c hascii).2.2.1 hd).symm
  | same => rfl
  | far _ hfar =>
    have := hfar.2.1
    omega

/-- A letter that is a small form is a small letter. -/
theorem SmallForm.not_isUpper {c d : Char} {rest : List Char} (h : SmallForm c d rest)
    (hd : isAscii d = true) : d.isUpper = false := by
  cases h with
  | ascii hascii =>
    exact (small_ascii c hascii).2.2.2.1
  | same hascii => exact absurd (hd.symm.trans hascii) nofun
  | far _ hfar =>
    rw [← Bool.not_eq_true]
    intro hupper
    have := code_of_isUpper hupper
    have := hfar.2.1
    omega

theorem lowerAfter_ne_nil (before : List Char) (c : Char) (cs : List Char) :
    lowerAfter before (c :: cs) ≠ [] := by
  obtain ⟨d, rest, -, heq⟩ := exists_lowerAfter_cons before c cs
  rw [heq]
  exact List.cons_ne_nil _ _

/-- **A text whose small letters are digits** is these digits. -/
theorem eq_of_lowerAfter_digits {before cs ds : List Char} (h : lowerAfter before cs = ds)
    (hds : ∀ d ∈ ds, isDigit d = true) : cs = ds := by
  induction cs generalizing before ds with
  | nil => exact h
  | cons c cs ih =>
    obtain ⟨d, rest, hform, heq⟩ := exists_lowerAfter_cons before c cs
    obtain rfl : d :: (rest ++ lowerAfter (c :: before) cs) = ds := heq.symm.trans h
    obtain ⟨hd, hrest⟩ := List.forall_mem_cons.1 hds
    obtain ⟨rfl, rfl⟩ := hform.of_isDigit hd
    rw [List.nil_append] at hrest ⊢
    exact congrArg (c :: ·) (ih rfl hrest)

/-- **A text with the small letters of a function key** is that function key, in one case or the
other. -/
theorem exists_of_lower_function {token : String} {number : List Char}
    (hnumber : ∀ c ∈ number, isDigit c = true)
    (h : lower token = String.ofList ('f' :: number)) :
    ∃ c, (c = 'f' ∨ c = 'F') ∧ token = String.ofList (c :: number) := by
  have hsmall : lowerAfter [] token.toList = 'f' :: number := String.ofList_injective h
  cases htoken : token.toList with
  | nil =>
    rw [htoken] at hsmall
    cases hsmall
  | cons c cs =>
    obtain ⟨d, rest, hform, heq⟩ := exists_lowerAfter_cons [] c cs
    rw [htoken, heq] at hsmall
    obtain ⟨hd, hcs⟩ := List.cons.inj hsmall
    obtain ⟨hc, rfl⟩ := hform.of_f hd
    refine ⟨c, hc, ?_⟩
    rw [← eq_of_lowerAfter_digits hcs hnumber, ← htoken, String.ofList_toList]

/-- **A text with one small letter** is one character. -/
theorem exists_of_lower_singleton {token : String} {c : Char}
    (h : lower token = String.ofList [c]) :
    ∃ t, token = String.ofList [t] ∧ SmallForm t c [] := by
  have hsmall : lowerAfter [] token.toList = [c] := String.ofList_injective h
  cases htoken : token.toList with
  | nil =>
    rw [htoken] at hsmall
    cases hsmall
  | cons t ts =>
    obtain ⟨d, rest, hform, heq⟩ := exists_lowerAfter_cons [] t ts
    rw [htoken, heq] at hsmall
    obtain ⟨rfl, hrest⟩ := List.cons.inj hsmall
    obtain ⟨rfl, hts⟩ := List.append_eq_nil_iff.1 hrest
    cases ts with
    | nil => exact ⟨t, by rw [← htoken, String.ofList_toList], hform⟩
    | cons t' ts => exact absurd hts (lowerAfter_ne_nil _ _ _)

end DesktopMacro.Text
