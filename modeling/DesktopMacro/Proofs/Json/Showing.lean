/-
Nothing but an empty text is shown as nothing.

A whole number has digits. The digits of a double are those of a decimal that reads back, and no
such decimal is zero, as zero is not within the interval of a positive double. Only if no grid had a
decimal to take would there be nothing left of the digits; that would be a whole number, which is
shown with a zero and a point. Every other value is shown with a word, quotation marks or brackets.
-/
import DesktopMacro.Json.Display
import DesktopMacro.Number.Shortest
import DesktopMacro.Proofs.Json.Writing

set_option autoImplicit false

namespace DesktopMacro

namespace Integer

theorem digits_ne_nil (n : Nat) : digits n ≠ [] := Nat.toDigits_ne_nil

theorem toText_ne_empty (n : Int) : toText n ≠ "" := by
  intro hempty
  cases n with
  | ofNat m => exact digits_ne_nil m (String.ofList_eq_empty_iff.1 hempty)
  | negSucc m => exact List.cons_ne_nil _ _ (String.ofList_eq_empty_iff.1 hempty)

/-- A positive number has a digit other than zero. -/
theorem exists_digit {n : Nat} (h : 0 < n) : ∃ c ∈ digits n, c ≠ '0' := by
  obtain ⟨c, cs, hcs⟩ : ∃ c cs, digits n = c :: cs := List.exists_cons_of_ne_nil (digits_ne_nil n)
  refine ⟨c, hcs ▸ List.mem_cons_self, ?_⟩
  rintro rfl
  have hzero := eq_zero_of_digits hcs
  omega

end Integer

namespace Binary64

/-! ## The interval of a positive double -/

theorem significand_pos {x : Binary64} (h : x.isZero = false) : 0 < x.significand := by
  have hmagnitude : x.magnitude ≠ 0 := by simpa [isZero] using h
  unfold significand
  split
  · next hfield =>
    unfold exponentField at hfield
    unfold fraction
    omega
  · exact Nat.add_pos_right _ (by decide)

theorem low_pos {x : Binary64} (h : x.isZero = false) : 0 < x.neighbourhood.low := by
  have hpos := significand_pos h
  change 0 < (4 * x.significand - if x.fraction = 0 && 1 < x.exponentField then 1 else 2)
    * 2 ^ x.exponent.toNat
  apply Nat.mul_pos
  · split <;> omega
  · exact Nat.two_pow_pos _

/-- Zero does not read back as a positive double. -/
theorem admits_zero {near : Neighbourhood} (hlow : 0 < near.low) (power : Int) :
    near.admits 0 power = false := by
  have hunit : 0 < near.low * 10 ^ (-power).toNat :=
    Nat.mul_pos hlow (Nat.pow_pos (by decide))
  unfold Neighbourhood.admits
  simp only [Nat.zero_mul]
  split
  · rw [Bool.and_eq_false_iff]
    left
    exact decide_eq_false (Nat.not_le.2 hunit)
  · rw [Bool.and_eq_false_iff]
    left
    exact decide_eq_false (Nat.not_lt_zero _)

/-- What is taken from a grid reads back. -/
theorem admits_of_onGrid {near : Neighbourhood} {power : Int} {steps : Nat}
    (h : near.onGrid power = some steps) : near.admits steps power = true := by
  have hfirst (nearest other : Nat) (h : (if near.admits nearest power then some nearest
      else if near.admits other power then some other else none) = some steps) :
      near.admits steps power = true := by
    by_cases hnearest : near.admits nearest power = true
    · rw [if_pos hnearest] at h
      rw [← Option.some.inj h]
      exact hnearest
    · rw [if_neg hnearest] at h
      by_cases hother : near.admits other power = true
      · rw [if_pos hother] at h
        rw [← Option.some.inj h]
        exact hother
      · rw [if_neg hother] at h
        cases h
  exact hfirst _ _ h

theorem onGrid_pos {near : Neighbourhood} (hlow : 0 < near.low) {power : Int} {steps : Nat}
    (h : near.onGrid power = some steps) : 0 < steps := by
  apply Nat.pos_of_ne_zero
  rintro rfl
  have hadmits := admits_of_onGrid h
  rw [admits_zero hlow] at hadmits
  cases hadmits

/-- What the search finds is positive, or a whole number. -/
theorem search_pos {near : Neighbourhood} (hlow : 0 < near.low) (places : Int) (tries count : Nat) :
    0 < (near.search places tries count).1 ∨ (near.search places tries count).2 = 0 := by
  induction tries generalizing count with
  | zero => exact .inr rfl
  | succ tries ih =>
    unfold Neighbourhood.search
    dsimp only
    split
    · next steps hsteps => exact .inl (onGrid_pos hlow hsteps)
    · exact ih (count + 1)

/-! ## Digits and their point -/

theorem layOut_ne_nil {ds : List Char} {point : Int} (h : ds ≠ [] ∨ point = 1) :
    layOut ds point ≠ [] := by
  unfold layOut
  split
  · next hfar =>
    split
    · rcases h with hds | rfl
      · exact absurd rfl hds
      · exact absurd hfar (by decide)
    · exact List.cons_ne_nil _ _
    · exact List.cons_ne_nil _ _
  · split
    · exact List.cons_ne_nil _ _
    · split
      · simp
      · simp

/-- The digits that are left of a decimal are some, or their point comes after the first one. -/
theorem shortestDigits_cases {x : Binary64} (h : x.isZero = false) :
    x.shortestDigits.1 ≠ [] ∨ x.shortestDigits.2 = 1 := by
  have hsearch : 0 < x.shortest.1 ∨ x.shortest.2 = 0 := search_pos (low_pos h) _ 17 1
  have hdigits : x.shortestDigits.1
      = ((Integer.digits x.shortest.1).reverse.dropWhile (· == '0')).reverse := rfl
  have hpoint : x.shortestDigits.2
      = Int.ofNat (Integer.digits x.shortest.1).length + x.shortest.2 := rfl
  by_cases hzero : x.shortest.1 = 0
  · right
    have hpower := hsearch.resolve_left (by omega)
    rw [hpoint, hzero, hpower]
    rfl
  · left
    obtain ⟨c, hc, hne⟩ := Integer.exists_digit (Nat.pos_of_ne_zero hzero)
    rw [hdigits]
    intro hnil
    rw [List.reverse_eq_nil_iff, List.dropWhile_eq_nil_iff] at hnil
    have heq := hnil c (List.mem_reverse.2 hc)
    exact hne (beq_iff_eq.1 heq)

/-- **No double is shown as nothing.** -/
theorem toText_ne_empty (x : Binary64) : x.toText ≠ "" := by
  unfold toText
  split
  · decide
  · have hbody : (if x.isInfinite then ['i', 'n', 'f'] else if x.isZero then ['0', '.', '0']
        else layOut x.shortestDigits.1 x.shortestDigits.2) ≠ [] := by
      split
      · exact List.cons_ne_nil _ _
      · split
        · exact List.cons_ne_nil _ _
        · next hzero => exact layOut_ne_nil (shortestDigits_cases (Bool.eq_false_iff.2 hzero))
    intro hempty
    have hnil := String.ofList_eq_empty_iff.1 hempty
    split at hnil
    · exact List.cons_ne_nil _ _ hnil
    · exact hbody hnil

end Binary64

namespace Json

/-- **Only an empty text is shown as nothing.** -/
theorem display_ne_empty {raw : Json} (h : raw.isEmpty = false) : raw.display ≠ "" := by
  have hquoted {value : Json} (h : value.quotedChars ≠ []) : value.quoted ≠ "" :=
    fun hempty => h (String.ofList_eq_empty_iff.1 hempty)
  have htext {s : String} (h : s ≠ "") : s.toList ≠ [] := by
    rwa [ne_eq, String.toList_eq_nil_iff]
  cases raw with
  | null => cases h
  | bool b => cases b <;> decide
  | int n => exact hquoted (htext (Integer.toText_ne_empty n))
  | float x => exact hquoted (htext (Binary64.toText_ne_empty x))
  | text s =>
    have hs : s.isEmpty = false := h
    intro hempty
    rw [show s = "" from hempty] at hs
    cases hs
  | list items => exact hquoted (List.cons_ne_nil _ _)
  | object members => exact hquoted (List.cons_ne_nil _ _)

end Json
end DesktopMacro
