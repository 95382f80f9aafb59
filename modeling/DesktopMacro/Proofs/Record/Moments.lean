/-
Moments whose gaps are finite.

A recording asks its clock for the gap between two moments and for the moment an interval after
another. `Steady` says of a set of moments that no such question fails: there is a gap between any
two of them, and the end of an interval that is over belongs to them, too.

Seconds are steady if the gaps between the given moments, taken in doubles, are finite. The end of
an interval that is over lies between two given moments, because rounding keeps the order; and a
gap inside of a finite one is finite for the same reason.
-/
import Mathlib.Algebra.Order.Field.Rat
import Mathlib.Tactic.Linarith
import DesktopMacro.Proofs.Number.Rounding
import DesktopMacro.Record.Event
import DesktopMacro.Run.Pause

set_option autoImplicit false

namespace DesktopMacro

/-! ## Steady moments -/

section Steady

variable {τ : Type} [Timeline τ]

/-- There are whole milliseconds between two moments. -/
def Timeline.HasGap (a b : τ) : Prop := ∃ n, Timeline.milliseconds a b = .ok n

/-- **Moments that are steady** for an interval: gaps between them exist, and where an interval that
began at one of them is over at another, it ended at one of them. -/
structure Timeline.Steady (quiet : τ) (Safe : τ → Prop) : Prop where
  gap : ∀ a b, Safe a → Safe b → Timeline.HasGap a b
  deadline : ∀ last now, Safe last → Safe now → ∃ d, Timeline.after last quiet = .ok d
    ∧ (Timeline.isBefore now d = false → Safe d)

/-- **Moments in order**: what is not before a moment is not before anything that this moment is not
before. -/
structure Timeline.Ordered (Safe : τ → Prop) : Prop where
  trans : ∀ a b c, Safe a → Safe b → Safe c → Timeline.isBefore b a = false →
    Timeline.isBefore c b = false → Timeline.isBefore c a = false

end Steady

/-! ## Gaps between doubles -/

namespace Binary64

/-- The double of a thousand milliseconds. -/
theorem isFinite_thousand : (ofInt 1000).isFinite = true := by decide

theorem value_thousand : (ofInt 1000).value = 1000 := by
  have hratio : (ofInt 1000).toRatio = (1000 * 2 ^ 43, 2 ^ 43) := by decide
  unfold value
  rw [hratio]
  norm_num

/-- There are whole milliseconds between doubles if their number is finite before it is rounded. -/
theorem hasGap_iff (a b : Binary64) :
    Timeline.HasGap a b ↔ ((b.sub a).mul (ofInt 1000)).isFinite = true := by
  have hround : ∀ x : Binary64, (∃ n, x.round.mapError Cause.ofWhole = .ok n)
      ↔ x.isFinite = true := by
    intro x
    rw [x.isFinite_iff]
    unfold round
    cases x.isNaN <;> cases x.isInfinite <;> simp [Except.mapError]
  exact hround _

theorem isFinite_of_hasGap {a b : Binary64} (h : Timeline.HasGap a b) :
    a.isFinite = true ∧ b.isFinite = true :=
  (isFinite_of_sub (isFinite_of_mul ((hasGap_iff a b).1 h))).symm

/-- **A gap that is no larger than a finite gap is finite.** -/
theorem hasGap_of_abs_le {a b c d : Binary64} (h : Timeline.HasGap a b) (hc : c.isFinite = true)
    (hd : d.isFinite = true) (hle : |d.value - c.value| ≤ |b.value - a.value|) :
    Timeline.HasGap c d := by
  obtain ⟨ha, hb⟩ := isFinite_of_hasGap h
  rw [hasGap_iff] at h ⊢
  have hwide := isFinite_of_mul h
  have hnarrow : (d.sub c).isFinite = true :=
    (rounds_sub hd hc).isFinite_of_abs_le (rounds_sub hb ha) hle hwide
  have hvalue : |(d.sub c).value| ≤ |(b.sub a).value| :=
    abs_value_le hnarrow hwide ((rounds_sub hd hc).magnitude_le (rounds_sub hb ha) hle)
  refine (rounds_mul hnarrow isFinite_thousand).isFinite_of_abs_le
    (rounds_mul hwide isFinite_thousand) ?_ h
  rw [abs_mul, abs_mul]
  exact mul_le_mul_of_nonneg_right hvalue (abs_nonneg _)

theorem natAbs_place (x : Binary64) : x.place.natAbs = x.magnitude := by
  unfold place
  split <;> simp only [Int.ofNat_eq_natCast] <;> omega

/-- A double between the places of finite doubles is finite. -/
theorem isFinite_of_place_le {x y z : Binary64} (hy : y.isFinite = true) (hz : z.isFinite = true)
    (hlow : y.place ≤ x.place) (hhigh : x.place ≤ z.place) : x.isFinite = true := by
  unfold isFinite at hy hz ⊢
  rw [decide_eq_true_eq, ← natAbs_place] at hy hz ⊢
  omega

/-- Below the finite doubles there is one that is infinite. -/
theorem place_lt_of_infinite {x y : Binary64} (hx : x.isInfinite = true)
    (hnegative : x.isNegative = true) (hy : y.isFinite = true) : x.place < y.place := by
  have hmagnitude : x.magnitude = infiniteMagnitude := by simpa [isInfinite] using hx
  have hlow : x.place = -(infiniteMagnitude : Int) := by
    unfold place
    rw [if_pos hnegative, hmagnitude]
    rfl
  unfold isFinite at hy
  rw [decide_eq_true_eq, ← natAbs_place] at hy
  omega

end Binary64

/-! ## Gaps between seconds -/

namespace Quantity

/-- The gap between two quantities, taken in doubles, is finite. -/
def HasFiniteGap (a b : Quantity) : Prop :=
  ∃ x y, a.toDouble = .ok x ∧ b.toDouble = .ok y ∧ Timeline.HasGap x y

/-- Whether a gap is finite is computed in doubles. -/
theorem hasFiniteGap_iff (a b : Quantity) : HasFiniteGap a b
    ↔ (match a.toDouble, b.toDouble with
      | .ok x, .ok y => ((y.sub x).mul (.ofInt 1000)).isFinite
      | _, _ => false) = true := by
  unfold HasFiniteGap
  cases a.toDouble <;> cases b.toDouble <;> simp [Binary64.hasGap_iff]

instance (a b : Quantity) : Decidable (HasFiniteGap a b) :=
  decidable_of_iff' _ (hasFiniteGap_iff a b)

theorem combine_of_whole {onWhole : Int → Int → Int} {onReal : Binary64 → Binary64 → Binary64}
    {a b : Quantity} {m n : Int} (ha : a.wholeNumber? = some m) (hb : b.wholeNumber? = some n) :
    combine onWhole onReal a b = .ok (whole (onWhole m n)) := by
  unfold combine
  rw [ha, hb]

theorem combine_of_real {onWhole : Int → Int → Int} {onReal : Binary64 → Binary64 → Binary64}
    {a b : Quantity} {x y : Binary64} (ha : a.toDouble = .ok x) (hb : b.toDouble = .ok y)
    (h : a.wholeNumber? = none ∨ b.wholeNumber? = none) :
    combine onWhole onReal a b = .ok (real (onReal x y)) := by
  unfold combine
  rw [ha, hb]
  split
  · next hm hn => rcases h with h | h <;> simp_all
  · rfl

/-- The milliseconds between whole numbers are exact. -/
theorem milliseconds_of_whole {a b : Quantity} {m n : Int} (ha : a.wholeNumber? = some m)
    (hb : b.wholeNumber? = some n) : Timeline.milliseconds a b = .ok ((n - m) * 1000) := by
  have hsub : b.sub a = .ok (whole (n - m)) := combine_of_whole hb ha
  unfold Timeline.milliseconds instTimelineQuantity
  dsimp only
  rw [hsub]
  rfl

theorem toDouble_thousand : (whole 1000).toDouble = .ok (.ofInt 1000) := by
  unfold toDouble Binary64.ofInt?
  exact if_pos Binary64.isFinite_thousand

/-- Where a double takes part, the milliseconds are those between doubles. -/
theorem milliseconds_of_real {a b : Quantity} {x y : Binary64} (ha : a.toDouble = .ok x)
    (hb : b.toDouble = .ok y) (h : b.wholeNumber? = none ∨ a.wholeNumber? = none) :
    Timeline.milliseconds a b = Timeline.milliseconds x y := by
  have hsub : b.sub a = .ok (real (y.sub x)) := combine_of_real hb ha h
  have hmul : (real (y.sub x)).mul (whole 1000) = .ok (real ((y.sub x).mul (.ofInt 1000))) :=
    combine_of_real rfl toDouble_thousand (.inl rfl)
  unfold Timeline.milliseconds instTimelineQuantity
  dsimp only
  rw [hsub]
  change ((real (y.sub x)).mul (whole 1000)).bind round = _
  rw [hmul]
  rfl

/-- A gap between doubles is a gap between what they stand for. -/
theorem hasGap_of_double {a b : Quantity} {x y : Binary64} (ha : a.toDouble = .ok x)
    (hb : b.toDouble = .ok y) (h : Timeline.HasGap x y) : Timeline.HasGap a b := by
  by_cases hreal : b.wholeNumber? = none ∨ a.wholeNumber? = none
  · unfold Timeline.HasGap
    rwa [milliseconds_of_real ha hb hreal]
  · rw [not_or] at hreal
    obtain ⟨n, hn⟩ := Option.ne_none_iff_exists'.1 hreal.1
    obtain ⟨m, hm⟩ := Option.ne_none_iff_exists'.1 hreal.2
    exact ⟨_, milliseconds_of_whole hm hn⟩

/-! ## The order of seconds -/

/-- The double of what stands for a whole number. -/
theorem eq_ofInt_of_toDouble {a : Quantity} {k : Int} {x : Binary64} (hk : a.wholeNumber? = some k)
    (hx : a.toDouble = .ok x) : x = .ofInt k := by
  cases a with
  | whole n =>
    cases hk
    unfold toDouble Binary64.ofInt? at hx
    dsimp only at hx
    split at hx
    · cases hx
      rfl
    · cases hx
  | truth b =>
    cases hk
    cases hx
    rfl
  | real y => cases hk

/-- The double of what stands for a whole number is finite. -/
theorem isFinite_of_toDouble {a : Quantity} {k : Int} {x : Binary64} (hk : a.wholeNumber? = some k)
    (hx : a.toDouble = .ok x) : x.isFinite = true := by
  cases a with
  | whole n =>
    unfold toDouble Binary64.ofInt? at hx
    dsimp only at hx
    split at hx
    · next hfinite =>
      cases hx
      exact hfinite
    · cases hx
  | truth b =>
    cases hx
    cases b <;> decide
  | real y => cases hk

/-- What is not before a double is not less than it, and neither is the double of it. -/
theorem place_le_of_not_isBefore {now : Quantity} {l n d : Binary64} (hn : now.toDouble = .ok n)
    (hfinite : n.isFinite = true) (hl : l.isFinite = true) (hnumber : d.isNaN = false)
    (hle : l.place ≤ d.place) (h : Timeline.isBefore now (real d) = false) :
    d.place ≤ n.place := by
  change now.lt (real d) = false at h
  cases hk : now.wholeNumber? with
  | none =>
    obtain ⟨x, rfl⟩ : ∃ x, now = real x := by
      cases now with
      | real x => exact ⟨x, rfl⟩
      | _ => cases hk
    cases hn
    simpa [lt, Binary64.lt, hnumber, Binary64.isNaN_of_isFinite hfinite] using h
  | some k =>
    have hgt : compareReal d k ≠ .gt := by
      cases now <;> cases hk <;> simpa [lt, wholeNumber?, hnumber] using h
    rw [eq_ofInt_of_toDouble hk hn] at hfinite ⊢
    unfold compareReal at hgt
    split at hgt
    · -- An infinite double would have to be the lower one, but it is above a finite one.
      next hinfinite =>
      have hnegative : d.isNegative = true := by
        by_contra hpositive
        exact hgt (if_neg hpositive)
      exact absurd hle (not_le.2 (Binary64.place_lt_of_infinite hinfinite hnegative hl))
    · next hinfinite =>
      have hd : d.isFinite = true :=
        d.isFinite_iff.2 ⟨hnumber, by simpa using hinfinite⟩
      refine (Binary64.rounds_value hd).place_le (Binary64.rounds_ofInt k) ?_
      have hratio : d.toRatio.1 ≤ k * Int.ofNat d.toRatio.2 :=
        not_lt.1 fun hlt => hgt (compare_gt_iff_gt.2 hlt)
      have hpos : (0 : ℚ) < d.toRatio.2 := by exact_mod_cast d.toRatio_pos
      unfold Binary64.value
      rw [div_le_iff₀ hpos]
      exact_mod_cast hratio

/-- The number that a quantity stands for. -/
def value : Quantity → ℚ
  | whole n => n
  | truth b => if b then 1 else 0
  | real x => x.value

theorem value_of_whole {a : Quantity} {n : Int} (h : a.wholeNumber? = some n) : a.value = n := by
  cases a with
  | whole m =>
    cases h
    rfl
  | truth b =>
    cases h
    cases b <;> rfl
  | real x => cases h

/-- A finite double compares with a whole number as its value does. -/
theorem compareReal_of_isFinite {x : Binary64} (hx : x.isFinite = true) (n : Int) :
    compareReal x n = compare x.value (n : ℚ) := by
  have hpos : (0 : ℚ) < x.toRatio.2 := by exact_mod_cast x.toRatio_pos
  have hlt : x.toRatio.1 < n * Int.ofNat x.toRatio.2 ↔ x.value < n := by
    unfold Binary64.value
    rw [div_lt_iff₀ hpos]
    exact_mod_cast Iff.rfl
  have heq : x.toRatio.1 = n * Int.ofNat x.toRatio.2 ↔ x.value = n := by
    unfold Binary64.value
    rw [div_eq_iff hpos.ne']
    exact_mod_cast Iff.rfl
  unfold compareReal
  rw [Binary64.isInfinite_of_isFinite hx, if_neg Bool.false_ne_true]
  dsimp only
  simp only [compare, compareOfLessAndEq, hlt, heq]

/-- Finite doubles are in the order of their values. -/
theorem lt_double_iff {x y : Binary64} (hx : x.isFinite = true) (hy : y.isFinite = true) :
    x.lt y = true ↔ x.value < y.value := by
  unfold Binary64.lt
  rw [Binary64.isNaN_of_isFinite hx, Binary64.isNaN_of_isFinite hy]
  simp only [Bool.not_false, Bool.true_and, decide_eq_true_eq]
  rw [← not_le, ← not_le, not_iff_not]
  constructor
  · exact Binary64.value_le_of_place_le hy hx
  · exact (Binary64.rounds_value hy).place_le (Binary64.rounds_value hx)

/-- **Quantities are in the order of the numbers that they stand for**, unless they are not
finite. -/
theorem lt_iff {a b : Quantity} (ha : ∀ x, a = real x → x.isFinite = true)
    (hb : ∀ y, b = real y → y.isFinite = true) : a.lt b = true ↔ a.value < b.value := by
  have hmixed : ∀ (x : Binary64) (n : Int), x.isFinite = true →
      ((!x.isNaN && compareReal x n == .lt) = true ↔ x.value < n)
        ∧ ((!x.isNaN && compareReal x n == .gt) = true ↔ (n : ℚ) < x.value) := by
    intro x n hx
    rw [Binary64.isNaN_of_isFinite hx, compareReal_of_isFinite hx]
    simp only [Bool.not_false, Bool.true_and, beq_iff_eq]
    exact ⟨compare_lt_iff_lt, compare_gt_iff_gt⟩
  cases ha' : a.wholeNumber? with
  | none =>
    cases a with
    | real x =>
      cases hb' : b.wholeNumber? with
      | none =>
        cases b with
        | real y => exact lt_double_iff (ha x rfl) (hb y rfl)
        | _ => cases hb'
      | some n =>
        rw [value_of_whole hb']
        change (real x).lt b = true ↔ x.value < n
        rw [← (hmixed x n (ha x rfl)).1]
        cases b <;> cases hb' <;> rfl
    | _ => cases ha'
  | some m =>
    rw [value_of_whole ha']
    cases hb' : b.wholeNumber? with
    | none =>
      cases b with
      | real y =>
        change a.lt (real y) = true ↔ (m : ℚ) < y.value
        rw [← (hmixed y m (hb y rfl)).2]
        cases a <;> cases ha' <;> rfl
      | _ => cases hb'
    | some n =>
      have hlt : a.lt b = decide (m < n) := by
        cases a <;> cases ha' <;> cases b <;> cases hb' <;> rfl
      rw [value_of_whole hb', hlt, decide_eq_true_eq, Int.cast_lt]

/-! ## Intervals -/

/-- **The seconds in milliseconds** are finite and not negative. -/
theorem seconds_finite {milliseconds : Int} {quiet : Binary64}
    (h : Pause.seconds milliseconds = .ok quiet) : quiet.isFinite = true ∧ 0 ≤ quiet.value := by
  unfold Pause.seconds Pause.secondsIn at h
  dsimp only at h
  -- The milliseconds are a whole number, which is not negative.
  obtain ⟨k, hk, hwhole⟩ : ∃ k : Int, 0 ≤ k ∧
      (if Quantity.lt (.whole 0) (.whole milliseconds) then Quantity.whole milliseconds
        else Quantity.whole 0) = .whole k := by
    split
    · next hlt => exact ⟨milliseconds, (of_decide_eq_true hlt).le, rfl⟩
    · exact ⟨0, le_rfl, rfl⟩
  rw [hwhole] at h
  cases hx : (whole k).toDouble with
  | error cause =>
    rw [hx] at h
    cases h
  | ok x =>
    rw [hx] at h
    cases h
    have hround : Binary64.Rounds k x := eq_ofInt_of_toDouble rfl hx ▸ Binary64.rounds_ofInt k
    have hfinite : x.isFinite = true := isFinite_of_toDouble rfl hx
    have hnonneg : 0 ≤ x.value := by
      exact Binary64.value_nonneg (hround.place_nonneg (by exact_mod_cast hk))
    have hthousand := Binary64.value_thousand
    have hquotient := Binary64.rounds_div hfinite Binary64.isFinite_thousand (by
      rw [hthousand]
      norm_num)
    rw [hthousand] at hquotient
    have hle : |x.value / 1000| ≤ |x.value| := by
      rw [abs_of_nonneg (by positivity), abs_of_nonneg hnonneg]
      linarith
    exact ⟨hquotient.isFinite_of_abs_le (Binary64.rounds_value hfinite) hle hfinite,
      Binary64.value_nonneg (hquotient.place_nonneg (by positivity))⟩

/-! ## Steady seconds -/

/-- A moment between two of the given ones, both of them taken in doubles. -/
def Between (moments : List Quantity) (d : Quantity) : Prop :=
  ∃ x : Binary64, d.toDouble = .ok x ∧ x.isFinite = true
    ∧ (∃ a ∈ moments, ∃ y, a.toDouble = .ok y ∧ y.value ≤ x.value)
    ∧ ∃ b ∈ moments, ∃ z, b.toDouble = .ok z ∧ x.value ≤ z.value

theorem between_of_mem {moments : List Quantity}
    (hgap : ∀ a ∈ moments, ∀ b ∈ moments, HasFiniteGap a b) {a : Quantity} (ha : a ∈ moments) :
    Between moments a := by
  obtain ⟨x, y, hx, hy, h⟩ := hgap a ha a ha
  exact ⟨x, hx, (Binary64.isFinite_of_hasGap h).1, ⟨a, ha, x, hx, le_rfl⟩, ⟨a, ha, x, hx, le_rfl⟩⟩

/-- A gap inside of finite gaps is finite. -/
theorem hasGap_of_between {moments : List Quantity}
    (hgap : ∀ a ∈ moments, ∀ b ∈ moments, HasFiniteGap a b) {c d : Quantity}
    (hc : Between moments c) (hd : Between moments d) : Timeline.HasGap c d := by
  obtain ⟨x, hx, hxfinite, ⟨a, ha, a', ha', hax⟩, b, hb, b', hb', hxb⟩ := hc
  obtain ⟨y, hy, hyfinite, ⟨e, he, e', he', hey⟩, f, hf, f', hf', hyf⟩ := hd
  refine hasGap_of_double hx hy ?_
  -- The gap is at most that between the ends on the side where it points.
  rcases le_total x.value y.value with hle | hle
  · obtain ⟨_, _, h₁, h₂, hwide⟩ := hgap a ha f hf
    cases ha'.symm.trans h₁
    cases hf'.symm.trans h₂
    refine Binary64.hasGap_of_abs_le hwide hxfinite hyfinite ?_
    rw [abs_of_nonneg (by linarith), abs_of_nonneg (by linarith)]
    linarith
  · obtain ⟨_, _, h₁, h₂, hwide⟩ := hgap e he b hb
    cases he'.symm.trans h₁
    cases hb'.symm.trans h₂
    refine Binary64.hasGap_of_abs_le hwide hxfinite hyfinite ?_
    rw [abs_of_nonpos (by linarith), abs_of_nonneg (by linarith)]
    linarith

/-- **Moments with finite gaps are steady**, and so is what lies between them. -/
theorem steady_between {moments : List Quantity}
    (hgap : ∀ a ∈ moments, ∀ b ∈ moments, HasFiniteGap a b) {quiet : Binary64}
    (hquiet : quiet.isFinite = true) (hsign : 0 ≤ quiet.value) :
    Timeline.Steady (.real quiet) (Between moments) := by
  refine ⟨fun a b => hasGap_of_between hgap, ?_⟩
  rintro last now ⟨x, hx, hxfinite, hlow, -⟩ ⟨n, hn, hnfinite, -, b, hb, z, hz, hnz⟩
  have hrounds := Binary64.rounds_add hxfinite hquiet
  have hlast : x.place ≤ (x.add quiet).place :=
    (Binary64.rounds_value hxfinite).place_le hrounds (by linarith)
  refine ⟨.real (x.add quiet), combine_of_real hx rfl (.inr rfl), fun hover => ?_⟩
  have hnow : (x.add quiet).place ≤ n.place :=
    place_le_of_not_isBefore hn hnfinite hxfinite hrounds.isNaN hlast hover
  have hfinite := Binary64.isFinite_of_place_le hxfinite hnfinite hlast hnow
  obtain ⟨a, ha, y, hy, hyx⟩ := hlow
  refine ⟨_, rfl, hfinite, ⟨a, ha, y, hy, hyx.trans ?_⟩, b, hb, z, hz, le_trans ?_ hnz⟩
  · exact Binary64.value_le_of_place_le hxfinite hfinite hlast
  · exact Binary64.value_le_of_place_le hfinite hnfinite hnow

/-- A double between two of the given moments is finite. -/
theorem Between.isFinite {moments : List Quantity} {x : Binary64} (h : Between moments (.real x)) :
    x.isFinite = true := by
  obtain ⟨y, hy, hfinite, -⟩ := h
  cases hy
  exact hfinite

/-- **Moments between the given ones are in order**: none is before another one that is not before
a third one, unless it is before that one. -/
theorem ordered_between (moments : List Quantity) : Timeline.Ordered (Between moments) := by
  refine ⟨fun a b c ha hb hc hab hbc => ?_⟩
  have horder : ∀ a b : Quantity, Between moments a → Between moments b →
      (Timeline.isBefore b a = false ↔ a.value ≤ b.value) := by
    intro a b ha hb
    change b.lt a = false ↔ _
    rw [← not_lt, ← lt_iff (fun x hx => (hx ▸ hb).isFinite) (fun y hy => (hy ▸ ha).isFinite),
      Bool.not_eq_true]
  rw [horder a b ha hb] at hab
  rw [horder b c hb hc] at hbc
  rw [horder a c ha hc]
  exact hab.trans hbc

end Quantity

/-! ## Delays -/

/-- Steady moments stay steady if a property of all ends of intervals is asked for, too. -/
theorem Timeline.Steady.inter {τ : Type} [Timeline τ] {quiet : τ} {Safe Other : τ → Prop}
    (h : Timeline.Steady quiet Safe)
    (hother : ∀ last d, Timeline.after last quiet = .ok d → Other d) :
    Timeline.Steady quiet fun d => Safe d ∧ Other d where
  gap a b ha hb := h.gap a b ha.1 hb.1
  deadline last now hlast hnow := by
    obtain ⟨d, hd, hsafe⟩ := h.deadline last now hlast.1 hnow.1
    exact ⟨d, hd, fun hover => ⟨hsafe hover, hother last d hd⟩⟩

namespace Binary64

/-- The largest finite double. -/
def largest : Binary64 := ofParts false (infiniteMagnitude - 1)

theorem exists_value_largest : ∃ n : ℕ, largest.value = n := by
  have hexponent : largest.exponent = largest.exponent.toNat := by decide +kernel
  refine ⟨largest.significand * 2 ^ largest.exponent.toNat, ?_⟩
  rw [value_of_not_isNegative (by decide), hexponent, zpow_natCast, Int.toNat_natCast]
  push_cast
  rfl

/-- **The nearest whole number of a double has a finite double.** Rounding does not leave the range,
because its ends are whole numbers. -/
theorem isFinite_ofInt_of_round {x : Binary64} {n : Int} (h : x.round = .ok n) :
    (ofInt n).isFinite = true := by
  have hlargest : largest.isFinite = true := by decide +kernel
  obtain ⟨limit, hlimit⟩ := exists_value_largest
  unfold round at h
  split at h
  · cases h
  split at h
  · cases h
  next hnumber hbounded =>
  have hx : x.isFinite = true := x.isFinite_iff.2 ⟨by simpa using hnumber, by simpa using hbounded⟩
  cases h
  have hnearest := isNearest_roundDiv x.toRatio.1.natAbs x.toRatio_pos
  have habs : ((x.toRatio.1.natAbs : ℕ) : ℚ) / x.toRatio.2 = |x.value| := by
    unfold value
    rw [abs_div, Nat.cast_natAbs, Int.cast_abs, Nat.abs_cast]
  have hvalue : |x.value| ≤ (limit : ℚ) := by
    have hle : |x.value| ≤ |largest.value| := by
      refine abs_value_le hx hlargest ?_
      unfold isFinite at hx
      rw [decide_eq_true_eq] at hx
      exact Nat.le_sub_one_of_lt hx
    rwa [hlimit, Nat.abs_cast] at hle
  rw [habs] at hnearest
  have hrounded := hnearest.le (isNearest_natCast limit) hvalue
  refine (rounds_ofInt _).isFinite_of_abs_le (rounds_value hlargest) ?_ hlargest
  have hsign : (x.toRatio.1.sign * Int.ofNat (roundDiv x.toRatio.1.natAbs x.toRatio.2)).natAbs
      ≤ limit := by
    rw [Int.natAbs_mul, Int.natAbs_sign]
    split
    · simp
    · simpa using hrounded
  rw [hlimit, Nat.abs_cast, ← Int.cast_abs, Int.abs_eq_natAbs]
  exact_mod_cast hsign

/-- The milliseconds between doubles have a finite double. -/
theorem isFinite_ofInt_of_gap {a b : Binary64} {n : Int} (h : Timeline.milliseconds a b = .ok n) :
    (ofInt n).isFinite = true := by
  change ((b.sub a).mul (.ofInt 1000)).round.mapError Cause.ofWhole = .ok n at h
  cases hround : ((b.sub a).mul (.ofInt 1000)).round with
  | ok k =>
    rw [hround] at h
    cases h
    exact isFinite_ofInt_of_round hround
  | error fault =>
    rw [hround] at h
    cases h

end Binary64

namespace Quantity

/-- A gap that is finite in doubles, and so is the number of milliseconds in it. -/
def HasFiniteDelay (a b : Quantity) : Prop :=
  HasFiniteGap a b ∧ ∃ n, Timeline.milliseconds a b = .ok n ∧ (Binary64.ofInt n).isFinite = true

/-- Whether a delay is finite is computed. -/
theorem hasFiniteDelay_iff (a b : Quantity) : HasFiniteDelay a b
    ↔ HasFiniteGap a b ∧ (match (Timeline.milliseconds a b : Except Cause Int) with
      | .ok n => (Binary64.ofInt n).isFinite
      | .error _ => false) = true := by
  unfold HasFiniteDelay
  cases Timeline.milliseconds a b <;> simp

instance (a b : Quantity) : Decidable (HasFiniteDelay a b) :=
  decidable_of_iff' _ (hasFiniteDelay_iff a b)

/-- A given moment, or a double between given moments. -/
def Reachable (moments : List Quantity) (d : Quantity) : Prop :=
  Between moments d ∧ (d ∈ moments ∨ d.wholeNumber? = none)

theorem reachable_of_mem {moments : List Quantity}
    (hdelay : ∀ a ∈ moments, ∀ b ∈ moments, HasFiniteDelay a b) {a : Quantity} (ha : a ∈ moments) :
    Reachable moments a :=
  ⟨between_of_mem (fun a ha b hb => (hdelay a ha b hb).1) ha, .inl ha⟩

/-- An interval in doubles ends at a double. -/
theorem wholeNumber?_of_after {last d : Quantity} {quiet : Binary64}
    (h : Timeline.after last (Quantity.real quiet) = .ok d) : d.wholeNumber? = none := by
  change combine _ _ last (.real quiet) = .ok d at h
  unfold combine at h
  split at h
  · next hwhole => cases hwhole
  · cases hlast : last.toDouble with
    | ok x =>
      rw [hlast] at h
      cases h
      rfl
    | error cause =>
      rw [hlast] at h
      cases h

/-- **What can be reached is steady.** -/
theorem steady_reachable {moments : List Quantity}
    (hdelay : ∀ a ∈ moments, ∀ b ∈ moments, HasFiniteDelay a b) {quiet : Binary64}
    (hquiet : quiet.isFinite = true) (hsign : 0 ≤ quiet.value) :
    Timeline.Steady (.real quiet) (Reachable moments) :=
  (steady_between (fun a ha b hb => (hdelay a ha b hb).1) hquiet hsign).inter
    fun _ _ h => .inr (wholeNumber?_of_after h)

/-- The milliseconds between moments that can be reached have a double. -/
theorem isFinite_of_reachable {moments : List Quantity}
    (hdelay : ∀ a ∈ moments, ∀ b ∈ moments, HasFiniteDelay a b) {c d : Quantity}
    (hc : Reachable moments c) (hd : Reachable moments d) {n : Int}
    (hn : Timeline.milliseconds c d = .ok n) : (Binary64.ofInt n).isFinite = true := by
  obtain ⟨⟨x, hx, -⟩, hc⟩ := hc
  obtain ⟨⟨y, hy, -⟩, hd⟩ := hd
  by_cases hreal : d.wholeNumber? = none ∨ c.wholeNumber? = none
  · -- Doubles: the number was rounded from one.
    rw [milliseconds_of_real hx hy hreal] at hn
    exact Binary64.isFinite_ofInt_of_gap hn
  · -- Whole numbers are given moments.
    rw [not_or] at hreal
    obtain ⟨k, hk, hfinite⟩ := (hdelay c (hc.resolve_right hreal.2) d (hd.resolve_right hreal.1)).2
    cases hk.symm.trans hn
    exact hfinite

/-- **A delay that has a double can be slept through.** -/
theorem exists_seconds {n : Int} (h : (Binary64.ofInt n).isFinite = true) :
    ∃ length, Pause.seconds (max 0 n) = .ok length := by
  rcases le_or_gt n 0 with hn | hn
  · rw [max_eq_left hn]
    exact ⟨_, rfl⟩
  · have hlt : Quantity.lt (.whole 0) (.whole n) = true := decide_eq_true hn
    have hdouble : (whole n).toDouble = .ok (.ofInt n) := if_pos h
    rw [max_eq_right hn.le]
    unfold Pause.seconds Pause.secondsIn
    rw [hlt]
    dsimp only
    rw [if_pos rfl, hdouble]
    exact ⟨_, rfl⟩

end Quantity
end DesktopMacro
