/-
Numbers that can be written.

A number is written with at most so many digits, and what is read has no more of them, so what is
read can be written. Nor is the whole part of a double too long, because doubles end far below the
limit. So the whole number in a value can be written if the numbers in the value can.
-/
import Mathlib.Algebra.Order.Ring.Int
import DesktopMacro.Json.Conversion
import DesktopMacro.Json.Writer

set_option autoImplicit false

namespace DesktopMacro

namespace Integer

/-! ## The limit -/

/-- **A number is writable** if it is less than the power of ten with as many zeros as the limit. -/
theorem isWritable_iff (n : Int) : IsWritable n ↔ n.natAbs < 10 ^ digitLimit :=
  Nat.length_toDigits_le_iff (by decide) (by decide)

theorem not_isWritable_pow {k : Nat} (hk : digitLimit ≤ k) : ¬IsWritable (10 ^ k) := by
  rw [isWritable_iff, Int.natAbs_pow, Nat.not_lt]
  exact Nat.pow_le_pow_right (by decide) hk

theorem isWritable_pow_pred : IsWritable (10 ^ digitLimit - 1) := by
  have hpos : 0 < 10 ^ digitLimit := Nat.pow_pos (by decide)
  have hcast : ((10 : Int) ^ digitLimit) = ((10 ^ digitLimit : Nat) : Int) := by push_cast; rfl
  rw [isWritable_iff, hcast]
  generalize 10 ^ digitLimit = power at hpos ⊢
  omega

/-! ## Reading -/

/-- A digit more makes a number at most ten times as large. -/
theorem foldl_valueOf_lt (run : List Char) (h : ∀ c ∈ run, c.isDigit = true ∨ c = '_')
    (value count : Nat) (hvalue : value < 10 ^ count) :
    run.foldl (fun value c => if c == '_' then value else 10 * value + (c.toNat - 48)) value
      < 10 ^ (count + run.countP Char.isDigit) := by
  induction run generalizing value count with
  | nil => exact hvalue
  | cons c run ih =>
    have hrest : ∀ d ∈ run, d.isDigit = true ∨ d = '_' :=
      fun d hd => h d (List.mem_cons_of_mem c hd)
    rw [List.foldl_cons]
    -- A digit makes the bound ten times as large; an underscore is passed over.
    rcases h c List.mem_cons_self with hdigit | rfl
    · have hne : (c == '_') = false := by
        rw [beq_eq_false_iff_ne]
        rintro rfl
        cases hdigit
      have hsmall : c.toNat - 48 < 10 := by
        have hrange : 48 ≤ c.toNat ∧ c.toNat ≤ 57 := by
          simpa [Char.isDigit, UInt32.le_iff_toNat_le] using hdigit
        omega
      have hnext : 10 * value + (c.toNat - 48) < 10 ^ (count + 1) := by
        rw [Nat.pow_succ]
        omega
      rw [hne, List.countP_cons_of_pos hdigit]
      have hall := ih hrest (10 * value + (c.toNat - 48)) (count + 1) hnext
      have hcount : count + (run.countP Char.isDigit + 1)
          = count + 1 + run.countP Char.isDigit := by omega
      rwa [hcount]
    · rw [List.countP_cons_of_neg (by decide)]
      exact ih hrest value count hvalue

/-- A run of digits within a limit has a value below the power of ten of the limit. -/
theorem readRun_lt {limit n : Nat} {cs : List Char} (h : readRun (some limit) cs = .ok n) :
    n < 10 ^ limit := by
  unfold readRun at h
  dsimp only at h
  split at h
  · cases h
  · split at h
    · cases h
    · next hlimit =>
      split at h
      · cases h
      · cases h
        have hrun : ∀ c ∈ cs.takeWhile (fun c => c.isDigit || c == '_'),
            c.isDigit = true ∨ c = '_' :=
          fun c hc => by simpa using List.all_eq_true.1 List.all_takeWhile c hc
        have hvalue := foldl_valueOf_lt _ hrun 0 0 (by decide)
        have hcount :
            (cs.takeWhile (fun c => c.isDigit || c == '_')).countP Char.isDigit ≤ limit := by
          simpa using hlimit
        rw [Nat.zero_add] at hvalue
        exact Nat.lt_of_lt_of_le hvalue (Nat.pow_le_pow_right (by decide) hcount)

/-- **What is read can be written.** -/
theorem isWritable_of_read {text : String} {n : Int} (h : read text = .ok n) : IsWritable n := by
  -- With either sign or without, the digits are read in the same way.
  have hmap : ∀ (r : Except Fault Nat) (sign : Nat → Int), (∀ k, (sign k).natAbs = k) →
      (∀ k, r = .ok k → k < 10 ^ digitLimit) → r.map sign = .ok n → IsWritable n := by
    intro r sign hsign hlt hr
    cases r with
    | error fault => cases hr
    | ok k =>
      cases hr
      rw [isWritable_iff, hsign]
      exact hlt k rfl
  unfold read readWithin at h
  dsimp only at h
  split at h
  · exact hmap _ _ (fun k => by simp) (fun k => readRun_lt) h
  · exact hmap _ _ (fun k => rfl) (fun k => readRun_lt) h
  · exact hmap _ _ (fun k => rfl) (fun k => readRun_lt) h

end Integer

/-! ## Doubles -/

namespace Binary64

/-- A finite double is a whole number of units that is not too large. -/
theorem significand_lt (x : Binary64) : x.significand < 2 ^ 53 := by
  have hfraction : x.fraction < 2 ^ 52 := Nat.mod_lt _ (by decide)
  unfold significand
  split <;> omega

theorem exponent_le {x : Binary64} (h : x.magnitude < infiniteMagnitude) : x.exponent ≤ 971 := by
  have hfield : x.exponentField < 2047 := Nat.div_lt_of_lt_mul (by
    rw [Nat.mul_comm]
    exact h)
  unfold exponent
  split
  · decide
  · rw [Int.ofNat_eq_natCast]
    omega

/-- The whole part of a double is less than its significand's bound, scaled. -/
theorem truncate_lt {x : Binary64} {n : Int} (h : x.truncate = .ok n) :
    ∃ scale ≤ 971, n.natAbs < 2 ^ (53 + scale) := by
  unfold truncate at h
  split at h
  · cases h
  · next hnumber =>
    split at h
    · cases h
    · next hfinite =>
      cases h
      have hmagnitude : x.magnitude < infiniteMagnitude := by
        have hle : x.magnitude ≤ infiniteMagnitude := by simpa [isNaN] using hnumber
        have hne : x.magnitude ≠ infiniteMagnitude := by simpa [isInfinite] using hfinite
        omega
      have hratio : x.toRatio.1.natAbs = x.significand * 2 ^ x.exponent.toNat := by
        unfold toRatio
        dsimp only
        split
        · rw [Int.natAbs_neg]
          rfl
        · rfl
      -- A negative exponent divides, so the whole part is at most the significand, scaled up.
      refine ⟨x.exponent.toNat, ?_, ?_⟩
      · have := exponent_le hmagnitude
        omega
      · calc (x.toRatio.1.tdiv (Int.ofNat x.toRatio.2)).natAbs ≤ x.toRatio.1.natAbs :=
              Int.natAbs_tdiv_le_natAbs _ _
          _ = x.significand * 2 ^ x.exponent.toNat := hratio
          _ < 2 ^ 53 * 2 ^ x.exponent.toNat :=
              Nat.mul_lt_mul_of_pos_right x.significand_lt (Nat.pow_pos (by decide))
          _ = 2 ^ (53 + x.exponent.toNat) := (Nat.pow_add 2 53 _).symm

/-- **The whole part of a double can be written.** -/
theorem isWritable_of_truncate {x : Binary64} {n : Int} (h : x.truncate = .ok n) :
    Integer.IsWritable n := by
  rw [Integer.isWritable_iff]
  obtain ⟨scale, hscale, hn⟩ := truncate_lt h
  -- Even the same power of ten is below the limit, so nothing has to be computed.
  have hlimit : 53 + scale ≤ Integer.digitLimit := by
    unfold Integer.digitLimit
    omega
  calc n.natAbs < 2 ^ (53 + scale) := hn
    _ ≤ 10 ^ (53 + scale) := Nat.pow_le_pow_left (by decide) _
    _ ≤ 10 ^ Integer.digitLimit := Nat.pow_le_pow_right (by decide) hlimit

end Binary64

/-! ## Values -/

/-- **The whole number in a value can be written** if the numbers in the value can. -/
theorem Json.isWritable_of_whole {raw : Json} (hraw : raw.isWritable = true) {n : Int}
    (h : raw.whole = .ok n) : Integer.IsWritable n := by
  cases raw with
  | bool b =>
    cases h
    cases b <;> decide
  | int k =>
    cases h
    simpa [isWritable] using hraw
  | float x =>
    cases ht : x.truncate with
    | error fault =>
      rw [whole, ht] at h
      cases h
    | ok k =>
      rw [whole, ht] at h
      cases h
      exact Binary64.isWritable_of_truncate ht
  | text s =>
    cases hr : Integer.read s with
    | error fault =>
      rw [whole, hr] at h
      cases h
    | ok k =>
      rw [whole, hr] at h
      cases h
      exact Integer.isWritable_of_read hr
  | null => cases h
  | list items => cases h
  | object members => cases h

/-- What is in an object that can be written can be written, too. -/
theorem Json.isWritable_get? {members : Members} (h : (Json.object members).isWritable = true)
    {name : String} {value : Json} (hvalue : Members.get? members name = some value) :
    value.isWritable = true := by
  have hall : ∀ entry ∈ members, entry.2.isWritable = true := by
    have hmembers : membersWritable members = true := by simpa only [isWritable] using h
    clear h hvalue
    induction members with
    | nil =>
      intro entry hentry
      cases hentry
    | cons first rest ih =>
      rw [membersWritable, Bool.and_eq_true] at hmembers
      intro entry hentry
      rcases List.mem_cons.1 hentry with rfl | hrest
      · exact hmembers.1
      · exact ih hmembers.2 entry hrest
  unfold Members.get? at hvalue
  cases hfound : members.find? (fun entry => entry.1 == name) with
  | none =>
    rw [hfound] at hvalue
    cases hvalue
  | some entry =>
    rw [hfound] at hvalue
    cases hvalue
    exact hall entry (List.mem_of_find?_eq_some hfound)

end DesktopMacro
