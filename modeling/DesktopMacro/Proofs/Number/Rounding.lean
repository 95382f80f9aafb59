/-
Rounding to doubles.

`Rounds q x` says which double a number is rounded to, and not how: the nearest one, a tie going to
the even significand. It says so of the magnitude, in three parts: the unit of the doubles around
the number, the nearest whole number of units, and the count of the doubles below. Each part keeps
the order of the numbers, and a finite double is what its own value is rounded to; so doubles lie in
the order of what they were rounded from, and the operations, which round an exact result once,
keep the order, too.
-/
import Mathlib.Algebra.Order.Field.Rat
import Mathlib.Algebra.Order.Field.Power
import Mathlib.Tactic.Linarith
import Mathlib.Tactic.NormNum
import Mathlib.Tactic.Positivity
import Mathlib.Tactic.FieldSimp
import Mathlib.Tactic.Ring
import DesktopMacro.Number.Arithmetic
import DesktopMacro.Proofs.Number.Writable

set_option autoImplicit false

namespace DesktopMacro.Binary64

/-! ## The nearest whole number -/

/-- **The nearest whole number** to a ratio that is not negative; a tie goes to the even one. -/
structure IsNearest (q : ℚ) (n : ℕ) : Prop where
  below : (n : ℚ) - 1 / 2 ≤ q
  above : q ≤ n + 1 / 2
  tieBelow : q = n - 1 / 2 → n % 2 = 0
  tieAbove : q = n + 1 / 2 → n % 2 = 0

/-- A whole number is nearest to itself. -/
theorem isNearest_natCast (n : ℕ) : IsNearest n n :=
  ⟨by linarith, by linarith, fun h => by linarith, fun h => by linarith⟩

/-- A larger ratio has no smaller nearest number: two neighbours cannot share their tie, because
only one of them is even. -/
theorem IsNearest.le {p q : ℚ} {m n : ℕ} (hm : IsNearest p m) (hn : IsNearest q n) (h : p ≤ q) :
    m ≤ n := by
  by_contra hlt
  have hstep : (n : ℚ) + 1 ≤ m := by exact_mod_cast Nat.lt_of_not_le hlt
  have hbelow := hm.below
  have habove := hn.above
  have hm0 : m % 2 = 0 := hm.tieBelow (by linarith)
  have hn0 : n % 2 = 0 := hn.tieAbove (by linarith)
  have hnext : (m : ℚ) = n + 1 := by linarith
  have : m = n + 1 := by exact_mod_cast hnext
  omega

/-- **A rounded quotient is nearest to the ratio.** -/
theorem isNearest_roundDiv (num : ℕ) {den : ℕ} (hden : 0 < den) :
    IsNearest ((num : ℚ) / den) (roundDiv num den) := by
  have hden' : (0 : ℚ) < den := by exact_mod_cast hden
  have hsplit : (num : ℚ) / den = (num / den : ℕ) + ((num % den : ℕ) : ℚ) / den := by
    have hnum : (num : ℚ) = den * (num / den : ℕ) + (num % den : ℕ) := by
      exact_mod_cast (Nat.div_add_mod num den).symm
    rw [eq_comm, hnum]
    field_simp
  -- What is left over decides, by how its double compares with the divisor.
  have hleft : ((num % den : ℕ) : ℚ) = ((num % den : ℕ) : ℚ) / den * den := by field_simp
  have hzero : (0 : ℚ) ≤ ((num % den : ℕ) : ℚ) / den := by positivity
  have hone : ((num % den : ℕ) : ℚ) / den < 1 := by
    rw [div_lt_one hden']
    exact_mod_cast Nat.mod_lt num hden
  have hhalf : ((num % den : ℕ) : ℚ) / den < 1 / 2 ↔ 2 * (num % den) < den := by
    rw [div_lt_div_iff₀ hden' two_pos, one_mul, mul_comm]
    exact_mod_cast Iff.rfl
  have htie : ((num % den : ℕ) : ℚ) / den = 1 / 2 ↔ 2 * (num % den) = den := by
    rw [div_eq_div_iff hden'.ne' two_ne_zero, one_mul, mul_comm]
    exact_mod_cast Iff.rfl
  have hcast : ((num / den + 1 : ℕ) : ℚ) = (num / den : ℕ) + 1 := Nat.cast_add_one _
  unfold roundDiv
  dsimp only
  rw [hsplit]
  generalize ((num % den : ℕ) : ℚ) / den = r at *
  split
  · next hdown =>
    simp only [Bool.or_eq_true, Bool.and_eq_true, decide_eq_true_eq, beq_iff_eq, ← hhalf,
      ← htie] at hdown
    have hle : r ≤ 1 / 2 := hdown.elim le_of_lt fun h => h.1.le
    refine ⟨by linarith, by linarith, fun h => by linarith, fun h => ?_⟩
    have hr : r = 1 / 2 := by linarith
    exact hdown.elim (fun hlt => absurd hr hlt.ne) And.right
  · next hup =>
    simp only [Bool.or_eq_true, Bool.and_eq_true, decide_eq_true_eq, beq_iff_eq, ← hhalf,
      ← htie, not_or, not_lt, not_and] at hup
    have hge := hup.1
    refine ⟨by linarith, by linarith, fun h => ?_, fun h => by linarith⟩
    have hodd := hup.2 (by linarith)
    omega

/-! ## The unit of a double -/

/-- **The unit** of the doubles around a ratio, as the exponent of a power of two: the ratio has
fewer than 54 binary digits in front of it, and 53 of them unless the unit is the smallest. -/
structure HasUnit (q : ℚ) (u : ℤ) : Prop where
  least : -1074 ≤ u
  above : q < 2 ^ (u + 53)
  below : u = -1074 ∨ 2 ^ (u + 52) ≤ q

theorem HasUnit.le {p q : ℚ} {u v : ℤ} (hu : HasUnit p u) (hv : HasUnit q v) (h : p ≤ q) :
    u ≤ v := by
  rcases hu.below with rfl | hbelow
  · exact hv.least
  · have hpow : (2 : ℚ) ^ (u + 52) < 2 ^ (v + 53) :=
      lt_of_le_of_lt (hbelow.trans h) hv.above
    have := (zpow_lt_zpow_iff_right₀ (by norm_num : (1 : ℚ) < 2)).1 hpow
    omega

/-- A power of two as a ratio of whole numbers. -/
theorem zpow_eq_div (e : ℤ) : (2 : ℚ) ^ e = 2 ^ e.toNat / 2 ^ (-e).toNat := by
  conv_lhs => rw [← Int.toNat_sub_toNat_neg e]
  rw [zpow_sub₀ two_ne_zero, zpow_natCast, zpow_natCast]

/-- A power of two is at most a ratio, said in whole numbers. -/
theorem zpow_le_div_iff (e : ℤ) (num : ℕ) {den : ℕ} (hden : 0 < den) :
    (2 : ℚ) ^ e ≤ num / den ↔ den * 2 ^ e.toNat ≤ num * 2 ^ (-e).toNat := by
  have hden' : (0 : ℚ) < den := by exact_mod_cast hden
  rw [zpow_eq_div, div_le_div_iff₀ (by positivity) hden', mul_comm]
  exact_mod_cast Iff.rfl

/-- **The logarithm of a ratio**, rounded down. -/
theorem floorLog_spec {num den : ℕ} (hnum : 0 < num) (hden : 0 < den) :
    (2 : ℚ) ^ floorLog num den ≤ num / den ∧ (num : ℚ) / den < 2 ^ (floorLog num den + 1) := by
  have hnum' : (0 : ℚ) < num := by exact_mod_cast hnum
  have hden' : (0 : ℚ) < den := by exact_mod_cast hden
  have hnumLow : (2 : ℚ) ^ num.log2 ≤ num := by exact_mod_cast Nat.log2_self_le hnum.ne'
  have hnumHigh : (num : ℚ) < 2 ^ (num.log2 + 1) := by exact_mod_cast Nat.lt_log2_self
  have hdenLow : (2 : ℚ) ^ den.log2 ≤ den := by exact_mod_cast Nat.log2_self_le hden.ne'
  have hdenHigh : (den : ℚ) < 2 ^ (den.log2 + 1) := by exact_mod_cast Nat.lt_log2_self
  -- The difference of the logarithms is at most one too large.
  have hhigh : (num : ℚ) / den < 2 ^ ((num.log2 : ℤ) - den.log2 + 1) := by
    have hsplit : (2 : ℚ) ^ ((num.log2 : ℤ) - den.log2 + 1)
        = 2 ^ (num.log2 + 1) / 2 ^ den.log2 := by
      rw [show (num.log2 : ℤ) - den.log2 + 1 = ((num.log2 + 1 : ℕ) : ℤ) - (den.log2 : ℕ) by
        push_cast; ring, zpow_sub₀ two_ne_zero, zpow_natCast, zpow_natCast]
    rw [hsplit, div_lt_div_iff₀ hden' (by positivity)]
    exact mul_lt_mul hnumHigh hdenLow (by positivity) (by positivity)
  have hlow : (2 : ℚ) ^ ((num.log2 : ℤ) - den.log2 - 1) ≤ num / den := by
    have hsplit : (2 : ℚ) ^ ((num.log2 : ℤ) - den.log2 - 1)
        = 2 ^ num.log2 / 2 ^ (den.log2 + 1) := by
      rw [show (num.log2 : ℤ) - den.log2 - 1 = (num.log2 : ℤ) - ((den.log2 + 1 : ℕ) : ℤ) by
        push_cast; ring, zpow_sub₀ two_ne_zero, zpow_natCast, zpow_natCast]
    rw [hsplit, div_le_div_iff₀ (by positivity) hden']
    exact mul_le_mul hnumLow hdenHigh.le (by positivity) (by positivity)
  unfold floorLog
  dsimp only
  simp only [Int.ofNat_eq_natCast]
  split
  · next h => exact ⟨(zpow_le_div_iff _ num hden).2 h, hhigh⟩
  · next h =>
    rw [← zpow_le_div_iff _ num hden, not_le] at h
    rw [sub_add_cancel]
    exact ⟨hlow, h⟩

/-! ## Magnitudes -/

/-- **The magnitude of the double nearest to a ratio** that is not negative. Doubles are numbered in
their order: so many steps of one unit come behind all those of smaller units. A ratio beyond the
largest double has the magnitude of the infinities. -/
def IsMagnitude (q : ℚ) (m : ℕ) : Prop :=
  ∃ u steps, HasUnit q u ∧ IsNearest (q / 2 ^ u) steps
    ∧ m = Nat.min infiniteMagnitude ((u + 1074).toNat * 2 ^ 52 + steps)

/-- **Rounding keeps the order** of what is not negative. -/
theorem IsMagnitude.le {p q : ℚ} {m n : ℕ} (hm : IsMagnitude p m) (hn : IsMagnitude q n)
    (h : p ≤ q) : m ≤ n := by
  obtain ⟨u, steps, hu, hsteps, rfl⟩ := hm
  obtain ⟨v, steps', hv, hsteps', rfl⟩ := hn
  refine min_le_min_left _ ?_
  have hpow : ∀ e : ℤ, (0 : ℚ) < 2 ^ e := fun e => zpow_pos two_pos e
  rcases eq_or_lt_of_le (hu.le hv h) with rfl | hlt
  · exact Nat.add_le_add_left (hsteps.le hsteps' (by gcongr)) _
  · -- With a smaller unit at most `2 ^ 53` steps are made, with a larger one at least `2 ^ 52`.
    have hfew : steps ≤ 2 ^ 53 := by
      refine hsteps.le (isNearest_natCast _) ?_
      rw [div_le_iff₀ (hpow u), Nat.cast_pow, Nat.cast_ofNat, ← zpow_natCast,
        ← zpow_add₀ two_ne_zero, add_comm]
      exact hu.above.le
    have hmany : 2 ^ 52 ≤ steps' := by
      refine (isNearest_natCast _).le hsteps' ?_
      have hbelow := hv.below.resolve_left (by have := hu.least; omega)
      rw [le_div_iff₀ (hpow v), Nat.cast_pow, Nat.cast_ofNat, ← zpow_natCast,
        ← zpow_add₀ two_ne_zero, add_comm]
      exact hbelow
    have := hu.least
    omega

/-- Zero has the magnitude zero. -/
theorem isMagnitude_zero : IsMagnitude 0 0 :=
  ⟨-1074, 0, ⟨le_rfl, by positivity, .inl rfl⟩, by simpa using isNearest_natCast 0, by decide⟩

theorem magnitude_ofParts (negative : Bool) {m : ℕ} (h : m < 2 ^ 63) :
    (ofParts negative m).magnitude = m := by
  unfold ofParts magnitude
  rw [UInt64.toNat_ofNat']
  cases negative
  · rw [if_neg Bool.false_ne_true]
    omega
  · rw [if_pos rfl]
    omega

theorem isNegative_ofParts (negative : Bool) {m : ℕ} (h : m < 2 ^ 63) :
    (ofParts negative m).isNegative = negative := by
  unfold ofParts isNegative
  rw [UInt64.toNat_ofNat']
  cases negative
  · rw [if_neg Bool.false_ne_true, decide_eq_false_iff_not]
    omega
  · rw [if_pos rfl, decide_eq_true_eq]
    omega

/-- The unit that rounding goes by is the unit of the ratio. -/
theorem hasUnit_floorLog {num den : ℕ} (hnum : 0 < num) (hden : 0 < den) :
    HasUnit (num / den) (max (floorLog num den - 52) (-1074)) := by
  obtain ⟨hlow, hhigh⟩ := floorLog_spec hnum hden
  refine ⟨le_max_right _ _, hhigh.trans_le (zpow_le_zpow_right₀ one_le_two (by omega)), ?_⟩
  rcases max_choice (floorLog num den - 52) (-1074) with h | h
  · rw [h, sub_add_cancel]
    exact .inr hlow
  · exact .inl h

theorem min_infiniteMagnitude_lt (m : ℕ) : Nat.min infiniteMagnitude m < 2 ^ 63 :=
  lt_of_le_of_lt (Nat.min_le_left _ _) (by decide)

/-- **A double from a ratio has the magnitude of the nearest double.** -/
theorem isMagnitude_ofRatio (negative : Bool) {num den : ℕ} (hnum : 0 < num) (hden : 0 < den) :
    IsMagnitude (num / den) (ofRatio negative num den).magnitude := by
  unfold ofRatio
  dsimp only
  rw [if_neg hnum.ne', magnitude_ofParts negative (min_infiniteMagnitude_lt _)]
  refine ⟨_, _, hasUnit_floorLog hnum hden, ?_, rfl⟩
  generalize max (floorLog num den - 52) (-1074) = u
  have hscaled : (num / den : ℚ) / 2 ^ u
      = ((num * 2 ^ (-u).toNat : ℕ) : ℚ) / ((den * 2 ^ u.toNat : ℕ) : ℚ) := by
    rw [zpow_eq_div]
    push_cast
    field_simp
  rw [hscaled]
  exact isNearest_roundDiv _ (by positivity)

/-! ## Values -/

/-- The value of a finite double. -/
def value (x : Binary64) : ℚ := (x.toRatio.1 : ℚ) / x.toRatio.2

theorem value_of_isNegative {x : Binary64} (h : x.isNegative = true) :
    x.value = -(x.significand * 2 ^ x.exponent) := by
  unfold value toRatio
  dsimp only
  rw [if_pos h, zpow_eq_div, Int.ofNat_eq_natCast]
  push_cast
  ring

theorem value_of_not_isNegative {x : Binary64} (h : x.isNegative = false) :
    x.value = x.significand * 2 ^ x.exponent := by
  unfold value toRatio
  dsimp only
  rw [if_neg (by simp [h]), zpow_eq_div, Int.ofNat_eq_natCast]
  push_cast
  ring

theorem abs_value (x : Binary64) : |x.value| = x.significand * 2 ^ x.exponent := by
  have hnonneg : (0 : ℚ) ≤ x.significand * 2 ^ x.exponent := by positivity
  cases h : x.isNegative
  · rw [value_of_not_isNegative h, abs_of_nonneg hnonneg]
  · rw [value_of_isNegative h, abs_neg, abs_of_nonneg hnonneg]

/-- **A finite double is nearest to its own value.** -/
theorem isMagnitude_value {x : Binary64} (h : x.isFinite = true) :
    IsMagnitude |x.value| x.magnitude := by
  have hfinite : x.magnitude < infiniteMagnitude := by simpa [isFinite] using h
  have hparts : 2 ^ 52 * x.exponentField + x.fraction = x.magnitude := Nat.div_add_mod _ _
  have hfraction : x.fraction < 2 ^ 52 := Nat.mod_lt _ (by decide)
  have hpow : (0 : ℚ) < 2 ^ x.exponent := zpow_pos two_pos _
  rw [abs_value]
  refine ⟨x.exponent, x.significand, ⟨?_, ?_, ?_⟩, ?_, ?_⟩
  · unfold exponent
    split
    · exact le_rfl
    · simp only [Int.ofNat_eq_natCast]
      omega
  · rw [zpow_add₀ two_ne_zero, mul_comm]
    refine mul_lt_mul_of_pos_left ?_ hpow
    exact_mod_cast x.significand_lt
  · by_cases hfield : x.exponentField = 0
    · exact .inl (if_pos hfield)
    · refine .inr ?_
      rw [zpow_add₀ two_ne_zero, mul_comm]
      refine mul_le_mul_of_nonneg_right ?_ hpow.le
      have hlarge : 2 ^ 52 ≤ x.significand := by
        unfold significand
        rw [if_neg hfield]
        omega
      exact_mod_cast hlarge
  · rw [mul_div_cancel_right₀ _ hpow.ne']
    exact isNearest_natCast _
  · have hcount : (x.exponent + 1074).toNat * 2 ^ 52 + x.significand = x.magnitude := by
      unfold exponent significand
      split
      · omega
      · simp only [Int.ofNat_eq_natCast]
        omega
    rw [hcount]
    exact (Nat.min_eq_right hfinite.le).symm

/-! ## Rounding -/

/-- **A double that a number is rounded to**: the nearest one, with the sign of the number. Either
zero will do for zero. -/
structure Rounds (q : ℚ) (x : Binary64) : Prop where
  magnitude : IsMagnitude |q| x.magnitude
  negative : q < 0 → x.isNegative = true
  positive : 0 < q → x.isNegative = false

theorem rounds_value {x : Binary64} (h : x.isFinite = true) : Rounds x.value x := by
  refine ⟨isMagnitude_value h, fun hneg => ?_, fun hpos => ?_⟩
  · by_contra hsign
    rw [value_of_not_isNegative (by simpa using hsign)] at hneg
    exact absurd hneg (not_lt.2 (by positivity))
  · by_contra hsign
    rw [value_of_isNegative (by simpa using hsign), Left.neg_pos_iff] at hpos
    exact absurd hpos (not_lt.2 (by positivity))

theorem magnitude_zero (negative : Bool) : (zero negative).magnitude = 0 :=
  magnitude_ofParts negative (by decide)

theorem isNegative_ofRatio (negative : Bool) (num den : ℕ) :
    (ofRatio negative num den).isNegative = negative := by
  unfold ofRatio
  split
  · exact isNegative_ofParts negative (by decide)
  · exact isNegative_ofParts negative (min_infiniteMagnitude_lt _)

/-- The double from a ratio with a sign is what the ratio is rounded to. -/
theorem rounds_ofSignedRatio (zeroSign : Bool) (num : ℤ) {den : ℕ} (hden : 0 < den) :
    Rounds (num / den) (ofSignedRatio zeroSign num den) := by
  have hden' : (0 : ℚ) < den := by exact_mod_cast hden
  unfold ofSignedRatio
  split
  · next hzero =>
    rw [hzero, Int.cast_zero, zero_div]
    refine ⟨?_, fun h => absurd h (lt_irrefl _), fun h => absurd h (lt_irrefl _)⟩
    rw [abs_zero, magnitude_zero]
    exact isMagnitude_zero
  · next hnum =>
    refine ⟨?_, fun hneg => ?_, fun hpos => ?_⟩
    · have habs : |(num : ℚ) / den| = (num.natAbs : ℚ) / den := by
        rw [abs_div, abs_of_pos hden', Nat.cast_natAbs, Int.cast_abs]
      rw [habs]
      exact isMagnitude_ofRatio _ (Int.natAbs_pos.2 hnum) hden
    · have hnum : (num : ℚ) < 0 := by
        rwa [div_lt_iff₀ hden', zero_mul] at hneg
      rw [isNegative_ofRatio]
      exact decide_eq_true (by exact_mod_cast hnum)
    · have hnum : (0 : ℚ) < num := by
        rwa [lt_div_iff₀ hden', zero_mul] at hpos
      rw [isNegative_ofRatio]
      exact decide_eq_false (not_lt.2 (by exact_mod_cast hnum.le))

/-- **A whole number is rounded once.** -/
theorem rounds_ofInt (n : ℤ) : Rounds n (ofInt n) := by
  have hratio : ofInt n = ofSignedRatio false n 1 := by
    unfold ofInt ofSignedRatio
    split
    · next hzero =>
      rw [hzero]
      rfl
    · rfl
  rw [hratio]
  simpa using rounds_ofSignedRatio false n one_pos

variable {p q : ℚ} {x y : Binary64}

/-- What is no larger is rounded to nothing larger. -/
theorem Rounds.magnitude_le (hx : Rounds p x) (hy : Rounds q y) (h : |p| ≤ |q|) :
    x.magnitude ≤ y.magnitude :=
  hx.magnitude.le hy.magnitude h

theorem Rounds.magnitude_eq_zero (hx : Rounds 0 x) : x.magnitude = 0 :=
  Nat.le_zero.1 (hx.magnitude.le isMagnitude_zero abs_zero.le)

/-- The place of what is rounded from a number has the sign of the number. -/
theorem Rounds.place_nonpos (hx : Rounds p x) (h : p ≤ 0) : x.place ≤ 0 := by
  unfold place
  rcases h.lt_or_eq with hlt | rfl
  · rw [if_pos (hx.negative hlt), Int.ofNat_eq_natCast]
    omega
  · rw [hx.magnitude_eq_zero]
    split <;> decide

theorem Rounds.place_nonneg (hx : Rounds p x) (h : 0 ≤ p) : 0 ≤ x.place := by
  unfold place
  rcases h.lt_or_eq with hlt | rfl
  · rw [if_neg (by simp [hx.positive hlt]), Int.ofNat_eq_natCast]
    omega
  · rw [hx.magnitude_eq_zero]
    split <;> decide

/-- **Rounding keeps the order.** -/
theorem Rounds.place_le (hx : Rounds p x) (hy : Rounds q y) (h : p ≤ q) : x.place ≤ y.place := by
  rcases le_or_gt 0 p with hp | hp
  · rcases hp.lt_or_eq with hpos | rfl
    · have hq : 0 < q := hpos.trans_le h
      have hle := hx.magnitude_le hy (by rwa [abs_of_pos hpos, abs_of_pos hq])
      unfold place
      rw [if_neg (by simp [hx.positive hpos]), if_neg (by simp [hy.positive hq])]
      exact Int.ofNat_le.2 hle
    · exact (hx.place_nonpos le_rfl).trans (hy.place_nonneg h)
  · rcases lt_or_ge q 0 with hq | hq
    · have hle := hy.magnitude_le hx (by rw [abs_of_neg hq, abs_of_neg hp]; linarith)
      unfold place
      rw [if_pos (hx.negative hp), if_pos (hy.negative hq)]
      exact Int.neg_le_neg (Int.ofNat_le.2 hle)
    · exact (hx.place_nonpos hp.le).trans (hy.place_nonneg hq)

/-- A value without its sign depends on the magnitude alone. -/
theorem abs_value_congr (h : x.magnitude = y.magnitude) : |x.value| = |y.value| := by
  have hfield : x.exponentField = y.exponentField := congrArg (· / 2 ^ 52) h
  have hfraction : x.fraction = y.fraction := congrArg (· % 2 ^ 52) h
  have hsignificand : x.significand = y.significand := by
    unfold significand
    rw [hfield, hfraction]
  have hexponent : x.exponent = y.exponent := by
    unfold exponent
    rw [hfield]
  rw [abs_value, abs_value, hsignificand, hexponent]

theorem value_eq_zero (h : x.magnitude = 0) : x.value = 0 := by
  have hsignificand : x.significand = 0 := by
    unfold significand exponentField fraction
    rw [h]
    rfl
  rw [← abs_eq_zero, abs_value, hsignificand, Nat.cast_zero, zero_mul]

/-- Doubles at one place have one value. -/
theorem value_eq_of_place_eq (h : x.place = y.place) : x.value = y.value := by
  have hmagnitude : x.magnitude = y.magnitude := by
    unfold place at h
    split at h <;> split at h <;> simp only [Int.ofNat_eq_natCast] at h <;> omega
  by_cases hsign : x.isNegative = y.isNegative
  · have habs := abs_value_congr hmagnitude
    rw [abs_value, abs_value] at habs
    cases hy : y.isNegative
    · rw [value_of_not_isNegative (hsign.trans hy), value_of_not_isNegative hy, habs]
    · rw [value_of_isNegative (hsign.trans hy), value_of_isNegative hy, habs]
  · -- With different signs, both are at the place of zero.
    have hzero : x.magnitude = 0 := by
      unfold place at h
      rw [Bool.eq_not_of_ne (Ne.symm hsign)] at h
      cases hx : x.isNegative <;> simp [hx] at h <;> omega
    rw [value_eq_zero hzero, value_eq_zero (hmagnitude ▸ hzero)]

/-- The magnitudes of finite doubles are in the order of the values without their signs. -/
theorem abs_value_le (hx : x.isFinite = true) (hy : y.isFinite = true)
    (h : x.magnitude ≤ y.magnitude) : |x.value| ≤ |y.value| := by
  by_contra hlt
  have hback : y.magnitude ≤ x.magnitude :=
    (isMagnitude_value hy).le (isMagnitude_value hx) (not_le.1 hlt).le
  exact hlt (abs_value_congr (le_antisymm h hback)).le

/-- **The places of finite doubles are in the order of the values.** -/
theorem value_le_of_place_le (hx : x.isFinite = true) (hy : y.isFinite = true)
    (h : x.place ≤ y.place) : x.value ≤ y.value := by
  by_contra hlt
  have hback : y.place ≤ x.place := (rounds_value hy).place_le (rounds_value hx) (not_le.1 hlt).le
  exact hlt (value_eq_of_place_eq (le_antisymm h hback)).le

theorem value_nonneg (h : 0 ≤ x.place) : 0 ≤ x.value := by
  cases hsign : x.isNegative
  · rw [value_of_not_isNegative hsign]
    positivity
  · unfold place at h
    rw [if_pos hsign, Int.ofNat_eq_natCast] at h
    exact (value_eq_zero (by omega)).ge

/-! ## Operations -/

theorem isFinite_iff (x : Binary64) :
    x.isFinite = true ↔ x.isNaN = false ∧ x.isInfinite = false := by
  simp only [isFinite, isNaN, isInfinite, decide_eq_true_eq, decide_eq_false_iff_not,
    beq_eq_false_iff_ne]
  omega

theorem isNaN_of_isFinite (h : x.isFinite = true) : x.isNaN = false := (x.isFinite_iff.1 h).1

theorem isInfinite_of_isFinite (h : x.isFinite = true) : x.isInfinite = false :=
  (x.isFinite_iff.1 h).2

theorem toRatio_pos (x : Binary64) : 0 < x.toRatio.2 := Nat.pow_pos two_pos

/-- **A sum is rounded once.** -/
theorem rounds_add (hx : x.isFinite = true) (hy : y.isFinite = true) :
    Rounds (x.value + y.value) (x.add y) := by
  unfold add
  rw [isNaN_of_isFinite hx, isNaN_of_isFinite hy, isInfinite_of_isFinite hx,
    isInfinite_of_isFinite hy]
  simp only [Bool.or_self, Bool.false_eq_true, ↓reduceIte]
  have hb := x.toRatio_pos
  have hd := y.toRatio_pos
  have hsum : x.value + y.value
      = ((x.toRatio.1 * Int.ofNat y.toRatio.2 + y.toRatio.1 * Int.ofNat x.toRatio.2 : ℤ) : ℚ)
        / ((x.toRatio.2 * y.toRatio.2 : ℕ) : ℚ) := by
    have hb' : (x.toRatio.2 : ℚ) ≠ 0 := by exact_mod_cast hb.ne'
    have hd' : (y.toRatio.2 : ℚ) ≠ 0 := by exact_mod_cast hd.ne'
    unfold value
    simp only [Int.ofNat_eq_natCast]
    push_cast
    field_simp
  rw [hsum]
  exact rounds_ofSignedRatio _ _ (Nat.mul_pos hb hd)

/-- **A product is rounded once.** -/
theorem rounds_mul (hx : x.isFinite = true) (hy : y.isFinite = true) :
    Rounds (x.value * y.value) (x.mul y) := by
  unfold mul
  rw [isNaN_of_isFinite hx, isNaN_of_isFinite hy, isInfinite_of_isFinite hx,
    isInfinite_of_isFinite hy]
  simp only [Bool.or_self, Bool.false_eq_true, ↓reduceIte]
  have hproduct : x.value * y.value
      = ((x.toRatio.1 * y.toRatio.1 : ℤ) : ℚ) / ((x.toRatio.2 * y.toRatio.2 : ℕ) : ℚ) := by
    unfold value
    push_cast
    rw [div_mul_div_comm]
  rw [hproduct]
  exact rounds_ofSignedRatio _ _ (Nat.mul_pos x.toRatio_pos y.toRatio_pos)

/-- **A quotient is rounded once.** -/
theorem rounds_div (hx : x.isFinite = true) (hy : y.isFinite = true) (hzero : y.value ≠ 0) :
    Rounds (x.value / y.value) (x.div y) := by
  unfold div
  simp only [isNaN_of_isFinite hx, isNaN_of_isFinite hy, isInfinite_of_isFinite hx,
    isInfinite_of_isFinite hy, Bool.or_self, Bool.and_self, Bool.false_eq_true, ↓reduceIte]
  have hnum : y.toRatio.1 ≠ 0 := by
    intro h
    refine hzero ?_
    unfold value
    rw [h, Int.cast_zero, zero_div]
  have hquotient : x.value / y.value
      = ((y.toRatio.1.sign * x.toRatio.1 * Int.ofNat y.toRatio.2 : ℤ) : ℚ)
        / ((x.toRatio.2 * y.toRatio.1.natAbs : ℕ) : ℚ) := by
    have hb : (x.toRatio.2 : ℚ) ≠ 0 := by exact_mod_cast x.toRatio_pos.ne'
    have hd : (y.toRatio.2 : ℚ) ≠ 0 := by exact_mod_cast y.toRatio_pos.ne'
    have hc : (y.toRatio.1 : ℚ) ≠ 0 := by exact_mod_cast hnum
    have hcast : (y.toRatio.1.natAbs : ℚ) = |(y.toRatio.1 : ℚ)| := by
      rw [Nat.cast_natAbs, Int.cast_abs]
    unfold value
    simp only [Int.ofNat_eq_natCast]
    push_cast
    rw [hcast]
    rcases hnum.lt_or_gt with hneg | hpos
    · rw [Int.sign_eq_neg_one_of_neg hneg, abs_of_neg (by exact_mod_cast hneg)]
      push_cast
      field_simp
    · rw [Int.sign_eq_one_of_pos hpos, abs_of_pos (by exact_mod_cast hpos)]
      push_cast
      field_simp
  rw [hquotient]
  exact rounds_ofSignedRatio _ _ (Nat.mul_pos x.toRatio_pos (Int.natAbs_pos.2 hnum))

theorem magnitude_lt (x : Binary64) : x.magnitude < 2 ^ 63 := Nat.mod_lt _ (by decide)

theorem magnitude_neg (x : Binary64) : x.neg.magnitude = x.magnitude :=
  magnitude_ofParts _ x.magnitude_lt

theorem value_neg (x : Binary64) : x.neg.value = -x.value := by
  have hnegative : x.neg.isNegative = !x.isNegative := isNegative_ofParts _ x.magnitude_lt
  have habs := abs_value_congr x.magnitude_neg
  rw [abs_value, abs_value] at habs
  cases hx : x.isNegative
  · rw [value_of_isNegative (by rw [hnegative, hx]; rfl), value_of_not_isNegative hx, habs]
  · rw [value_of_not_isNegative (by rw [hnegative, hx]; rfl), value_of_isNegative hx, habs, neg_neg]

theorem isFinite_neg (h : x.isFinite = true) : x.neg.isFinite = true := by
  unfold isFinite at h ⊢
  rwa [magnitude_neg]

/-- **A difference is rounded once.** -/
theorem rounds_sub (hx : x.isFinite = true) (hy : y.isFinite = true) :
    Rounds (x.value - y.value) (x.sub y) := by
  unfold sub
  rw [isNaN_of_isFinite hy, if_neg Bool.false_ne_true, sub_eq_add_neg, ← value_neg]
  exact rounds_add hx (isFinite_neg hy)

/-! ## Finite results -/

/-- A finite sum has finite terms. -/
theorem isFinite_of_add (h : (x.add y).isFinite = true) :
    x.isFinite = true ∧ y.isFinite = true := by
  unfold add at h
  split at h
  · exact absurd h (by decide)
  · next hnumber =>
    rw [Bool.or_eq_true, not_or, Bool.not_eq_true, Bool.not_eq_true] at hnumber
    split at h
    · next hx =>
      split at h
      · exact absurd h (by decide)
      · exact absurd hx (by simp [isInfinite_of_isFinite h])
    · next hx =>
      split at h
      · next hy => exact absurd hy (by simp [isInfinite_of_isFinite h])
      · next hy =>
        exact ⟨x.isFinite_iff.2 ⟨hnumber.1, by simpa using hx⟩,
          y.isFinite_iff.2 ⟨hnumber.2, by simpa using hy⟩⟩

/-- A finite difference has finite terms. -/
theorem isFinite_of_sub (h : (x.sub y).isFinite = true) :
    x.isFinite = true ∧ y.isFinite = true := by
  unfold sub at h
  split at h
  · exact absurd h (by decide)
  · obtain ⟨hx, hy⟩ := isFinite_of_add h
    refine ⟨hx, ?_⟩
    unfold isFinite at hy ⊢
    rwa [magnitude_neg] at hy

/-- A finite product has a finite first factor. -/
theorem isFinite_of_mul (h : (x.mul y).isFinite = true) : x.isFinite = true := by
  unfold mul at h
  dsimp only at h
  split at h
  · exact absurd h (by decide)
  · next hnumber =>
    rw [Bool.or_eq_true, not_or, Bool.not_eq_true, Bool.not_eq_true] at hnumber
    split at h
    · split at h
      · exact absurd h (by decide)
      · exact absurd h (by cases (x.isNegative != y.isNegative) <;> decide)
    · next hfinite =>
      rw [Bool.or_eq_true, not_or, Bool.not_eq_true, Bool.not_eq_true] at hfinite
      exact x.isFinite_iff.2 ⟨hnumber.1, hfinite.1⟩

/-- A number no larger than one that is rounded to a finite double is rounded to one, too. -/
theorem Rounds.isFinite_of_abs_le (hx : Rounds p x) (hy : Rounds q y) (h : |p| ≤ |q|)
    (hfinite : y.isFinite = true) : x.isFinite = true := by
  unfold isFinite at hfinite ⊢
  rw [decide_eq_true_eq] at hfinite ⊢
  exact lt_of_le_of_lt (hx.magnitude_le hy h) hfinite

/-- What is rounded from a number is a number. -/
theorem Rounds.isNaN (hx : Rounds q x) : x.isNaN = false := by
  obtain ⟨u, steps, -, -, hm⟩ := hx.magnitude
  unfold Binary64.isNaN
  rw [hm]
  exact decide_eq_false (not_lt.2 (Nat.min_le_left _ _))

end DesktopMacro.Binary64
