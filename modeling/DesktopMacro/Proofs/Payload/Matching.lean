/-
The bracket that a scan finds is the one that matches.

What matches is said by counting, without a scan. Behind an opening bracket, a quote is a boundary
if it comes first or no backslash stands right before it, and a place is outside if the boundaries
before it are even in number. The bracket that matches is the first closing one outside up to which
there is one more closing than opening bracket outside.

The scan carries these counts along. `Reached` says how, and that it is kept by every step which
does not close the first bracket; a step closes it exactly at a place that matches.
-/
import DesktopMacro.Proofs.Payload.Forms
import Mathlib.Algebra.Group.Nat.Even
import Mathlib.Order.Bounds.Basic

set_option autoImplicit false

namespace DesktopMacro.Payload

/-! ## Places and counts -/

/-- The character at a place of a text; a place below zero is counted from the end. -/
def charAt? (text : List Char) (place : Int) : Option Char :=
  if 0 ≤ place then text[place.toNat]? else text.reverse[(-place - 1).toNat]?

/-- How many places between two others have a property. -/
def countBetween (P : Int → Prop) [DecidablePred P] (first last : Int) : Nat :=
  (List.range (last - first - 1).toNat).countP fun k => P (first + 1 + Int.ofNat k)

section Count

variable {P : Int → Prop} [DecidablePred P] {first last : Int}

theorem countBetween_next_self : countBetween P first (first + 1) = 0 := by
  have hbetween : (first + 1 - first - 1).toNat = 0 := by omega
  unfold countBetween
  rw [hbetween, List.range_zero, List.countP_nil]

/-- One more place counts if it has the property. -/
theorem countBetween_next (h : first < last) :
    countBetween P first (last + 1) = countBetween P first last + if P last then 1 else 0 := by
  have hbetween : (last + 1 - first - 1).toNat = (last - first - 1).toNat + 1 := by omega
  have hplace : first + 1 + Int.ofNat (last - first - 1).toNat = last := by
    have : Int.ofNat (last - first - 1).toNat = last - first - 1 :=
      Int.toNat_of_nonneg (by omega)
    omega
  unfold countBetween
  rw [hbetween, List.range_succ, List.countP_append, List.countP_singleton, hplace]
  simp only [decide_eq_true_eq]

end Count

/-! ## What matches -/

variable (bracket : Bracket) (text : List Char) (first : Int)

/-- **A boundary** behind the first bracket: a quote that comes first, or behind another character
than a backslash. -/
def IsBoundary (place : Int) : Prop :=
  charAt? text place = some '"' ∧ (place = first + 1 ∨ charAt? text (place - 1) ≠ some '\\')

instance (place : Int) : Decidable (IsBoundary text first place) :=
  inferInstanceAs (Decidable (_ ∧ _))

/-- **A place outside**: the boundaries before it are even in number. -/
def IsOutside (place : Int) : Prop := Even (countBetween (IsBoundary text first) first place)

instance (place : Int) : Decidable (IsOutside text first place) :=
  inferInstanceAs (Decidable (Even _))

/-- A place outside with a character. -/
def HasOutside (c : Char) (place : Int) : Prop :=
  IsOutside text first place ∧ charAt? text place = some c

instance (c : Char) (place : Int) : Decidable (HasOutside text first c place) :=
  inferInstanceAs (Decidable (_ ∧ _))

/-- **A place that matches the first bracket**: outside, with the closing bracket, and with one more
closing than opening bracket outside up to it. Of several such places the first one counts. -/
structure Matches (place : Int) : Prop where
  behind : first < place
  closes : HasOutside text first bracket.closing place
  balances : countBetween (HasOutside text first bracket.closing) first (place + 1)
    = countBetween (HasOutside text first bracket.opening) first (place + 1) + 1

/-- **The right answer** to which place matches: the first one that does, if there is one. -/
def IsFirstMatch : Option Int → Prop
  | none => ∀ i, ¬Matches bracket text first i
  | some place => IsLeast {i | Matches bracket text first i} place

/-- **A balanced piece** starts with an opening bracket and ends with a place that matches it. -/
def IsBalanced (piece : List Char) : Prop :=
  piece.head? = some bracket.opening ∧ Matches bracket piece 0 (Int.ofNat piece.length - 1)

variable {bracket text first}

/-! ## What a scan has counted -/

/-- **A scan has reached a place**: its state has the counts of everything before. -/
structure Reached (bracket : Bracket) (text : List Char) (first place : Int) (scan : Scan) :
    Prop where
  behind : first < place
  boundary : scan.atBoundary = true ↔ place = first + 1 ∨ charAt? text (place - 1) ≠ some '\\'
  outside : scan.inString = false ↔ IsOutside text first place
  depth : scan.depth + countBetween (HasOutside text first bracket.closing) first place
    = countBetween (HasOutside text first bracket.opening) first place

theorem reached_start : Reached bracket text first (first + 1) .start where
  behind := by omega
  boundary := by simp [Scan.start, Scan.atBoundary]
  outside := by
    unfold IsOutside
    rw [countBetween_next_self]
    simp [Scan.start]
  depth := by simp only [countBetween_next_self, Scan.start]

/-- The brackets that a step starts from: two different ones, and no quotes. -/
structure Bracket.IsPlain (bracket : Bracket) : Prop where
  different : bracket.opening ≠ bracket.closing
  opening : bracket.opening ≠ '"'
  closing : bracket.closing ≠ '"'

theorem isPlain_curly : Bracket.curly.IsPlain := ⟨by decide, by decide, by decide⟩

theorem isPlain_square : Bracket.square.IsPlain := ⟨by decide, by decide, by decide⟩

section Step

variable {place : Int} {scan : Scan} {c : Char}

theorem hasOutside_iff (hc : charAt? text place = some c) (b : Char) :
    HasOutside text first b place ↔ IsOutside text first place ∧ c = b := by
  unfold HasOutside
  rw [hc, Option.some.injEq]

theorem isBoundary_iff (h : Reached bracket text first place scan)
    (hc : charAt? text place = some c) :
    IsBoundary text first place ↔ c = '"' ∧ scan.atBoundary = true := by
  unfold IsBoundary
  rw [hc, Option.some.injEq, h.boundary]

/-- The next place is outside as this one is, unless this one is a boundary. -/
theorem isOutside_next (h : first < place) :
    IsOutside text first (place + 1)
      ↔ (IsOutside text first place ↔ ¬IsBoundary text first place) := by
  unfold IsOutside
  rw [countBetween_next h]
  split
  · next hboundary => simp [hboundary, Nat.even_add_one]
  · next hboundary => simp [hboundary]

/-- The scan goes on to the next place with the character in mind. -/
theorem Reached.next (h : Reached bracket text first place scan)
    (hc : charAt? text place = some c) {depth : Nat} {inString : Bool}
    (houtside : inString = false ↔ IsOutside text first (place + 1))
    (hdepth : depth + countBetween (HasOutside text first bracket.closing) first (place + 1)
      = countBetween (HasOutside text first bracket.opening) first (place + 1)) :
    Reached bracket text first (place + 1) ⟨depth, inString, some c⟩ where
  behind := by
    have := h.behind
    omega
  boundary := by
    have hbehind := h.behind
    have hlater : place + 1 ≠ first + 1 := by omega
    rw [Int.add_sub_cancel, hc]
    simp [Scan.atBoundary, hlater]
  outside := houtside
  depth := hdepth

/-- A place without a bracket outside changes no count, and does not match. -/
theorem Reached.pass (h : Reached bracket text first place scan)
    (hc : charAt? text place = some c) {inString : Bool}
    (houtside : inString = false ↔ IsOutside text first (place + 1))
    (hclosing : ¬HasOutside text first bracket.closing place)
    (hopening : ¬HasOutside text first bracket.opening place) :
    Reached bracket text first (place + 1) ⟨scan.depth, inString, some c⟩
      ∧ ¬Matches bracket text first place := by
  refine ⟨h.next hc houtside ?_, fun hmatch => hclosing hmatch.closes⟩
  rw [countBetween_next h.behind, countBetween_next h.behind, if_neg hclosing, if_neg hopening]
  exact h.depth

/-- **A step closes the first bracket exactly at a place that matches**, and goes on from any other
place with the counts up to there. The cases are those of the step. -/
theorem Reached.step (hplain : bracket.IsPlain) (h : Reached bracket text first place scan)
    (hc : charAt? text place = some c) :
    match scan.step bracket c with
    | none => Matches bracket text first place
    | some next => Reached bracket text first (place + 1) next
        ∧ ¬Matches bracket text first place := by
  have hboundary := isBoundary_iff h hc
  have houtside : IsOutside text first (place + 1)
      ↔ (IsOutside text first place ↔ ¬IsBoundary text first place) := isOutside_next h.behind
  have hother {b : Char} (hb : c ≠ b) : ¬HasOutside text first b place := fun hand =>
    hb ((hasOutside_iff hc b).1 hand).2
  unfold Scan.step
  by_cases hquote : c = '"' ∧ scan.atBoundary = true
  · -- A boundary changes sides and is no bracket.
    obtain ⟨rfl, hat⟩ := hquote
    rw [if_pos (by simp [hat])]
    refine h.pass hc ?_ (hother hplain.closing.symm) (hother hplain.opening.symm)
    rw [houtside, ← h.outside, hboundary]
    simp [hat]
  have hsame : IsOutside text first (place + 1) ↔ IsOutside text first place := by
    rw [houtside, hboundary]
    simp [hquote]
  rw [if_neg (by simpa using hquote)]
  by_cases hinside : scan.inString = true
  · -- Inside of a string nothing counts.
    have hin : ¬IsOutside text first place := by
      rw [← h.outside, hinside]
      decide
    rw [if_pos hinside]
    refine h.pass hc ?_ (fun hand => hin hand.1) (fun hand => hin hand.1)
    rw [hsame, ← h.outside, hinside]
  have hout : IsOutside text first place := h.outside.1 (by simpa using hinside)
  have hnext : false = false ↔ IsOutside text first (place + 1) := by
    rw [hsame]
    exact iff_of_true rfl hout
  have hdepth := h.depth
  have hclosing := countBetween_next (P := HasOutside text first bracket.closing) h.behind
  have hopening := countBetween_next (P := HasOutside text first bracket.opening) h.behind
  rw [if_neg hinside]
  by_cases hopens : c = bracket.opening
  · have hnoClosing := hother (hopens ▸ hplain.different)
    rw [if_neg hnoClosing] at hclosing
    rw [if_pos ((hasOutside_iff hc _).2 ⟨hout, hopens⟩)] at hopening
    rw [if_pos (by simp [hopens])]
    refine ⟨h.next hc hnext ?_, fun hmatch => hnoClosing hmatch.closes⟩
    omega
  rw [if_neg (by simpa using hopens)]
  by_cases hcloses : c = bracket.closing
  · have hcloser := (hasOutside_iff hc _).2 ⟨hout, hcloses⟩
    rw [if_pos hcloser] at hclosing
    rw [if_neg (hother hopens)] at hopening
    rw [if_pos (by simp [hcloses])]
    -- The first bracket is closed if no other one is open.
    cases hopen : scan.depth with
    | zero =>
      refine ⟨h.behind, hcloser, ?_⟩
      omega
    | succ depth =>
      refine ⟨h.next hc hnext ?_, fun hmatch => ?_⟩
      · omega
      · have := hmatch.balances
        omega
  · rw [if_neg (by simpa using hcloses)]
    exact h.pass hc hnext (hother hcloses) (hother hopens)

end Step

/-! ## What a scan finds -/

/-- **A scan finds the first place that matches**, of those from where it is. The induction is on
the text that is left. -/
theorem Reached.closingDistance (hplain : bracket.IsPlain) {place : Int} {scan : Scan}
    (h : Reached bracket text first place scan) {cs : List Char}
    (hcs : ∀ k : Nat, cs[k]? = charAt? text (place + k)) :
    match closingDistance bracket scan cs with
    | none => ∀ i, place ≤ i → ¬Matches bracket text first i
    | some distance => Matches bracket text first (place + distance)
        ∧ ∀ i, place ≤ i → Matches bracket text first i → place + distance ≤ i := by
  induction cs generalizing place scan with
  | nil =>
    intro i hi hmatch
    obtain ⟨k, rfl⟩ := Int.le.dest hi
    have hclosing := hmatch.closes.2
    rw [← hcs k] at hclosing
    cases hclosing
  | cons c cs ih =>
    have hc : charAt? text place = some c := by
      have hhead := hcs 0
      rw [Int.natCast_zero, Int.add_zero] at hhead
      exact hhead.symm
    have hrest : ∀ k : Nat, cs[k]? = charAt? text (place + 1 + k) := by
      intro k
      rw [Int.add_assoc, Int.add_comm 1, ← Int.natCast_succ, ← hcs (k + 1)]
      rfl
    have hstep := h.step hplain hc
    unfold Payload.closingDistance
    cases hnext : scan.step bracket c with
    | none =>
      rw [hnext] at hstep
      refine ⟨by simpa using hstep, fun i hi _ => ?_⟩
      simpa using hi
    | some next =>
      rw [hnext] at hstep
      obtain ⟨hreached, hno⟩ := hstep
      -- No place that matches is this one, so it is one of those behind.
      have hlater : ∀ i, place ≤ i → Matches bracket text first i → place + 1 ≤ i := by
        intro i hi hmatch
        have hne : place ≠ i := by
          rintro rfl
          exact hno hmatch
        omega
      have hfound := ih hreached hrest
      dsimp only
      cases hdistance : Payload.closingDistance bracket next cs with
      | none =>
        rw [hdistance] at hfound
        exact fun i hi hmatch => hfound i (hlater i hi hmatch) hmatch
      | some distance =>
        rw [hdistance] at hfound
        obtain ⟨hmatch, hleast⟩ := hfound
        have hplace : place + 1 + (distance : Int) = place + ((distance + 1 : Nat) : Int) := by
          omega
        rw [hplace] at hmatch hleast
        exact ⟨hmatch, fun i hi hother => hleast i (hlater i hi hother) hother⟩

/-- A text is scanned from a place on, character by character. -/
theorem getElem?_textFrom {start : Int} {scanned : List Char}
    (h : textFrom? text start = some scanned) (k : Nat) :
    scanned[k]? = charAt? text (start + k) := by
  unfold textFrom? at h
  unfold charAt?
  split at h
  · cases h
    rw [if_pos (by omega), List.getElem?_drop]
    congr 1
    omega
  split at h
  · cases h
    by_cases hfront : start + (k : Int) < 0
    · rw [if_neg (by omega), List.getElem?_append_left (by simp; omega), List.getElem?_drop,
        List.getElem?_reverse (by omega)]
      congr 1
      omega
    · rw [if_pos (by omega), List.getElem?_append_right (by simp; omega)]
      congr 1
      simp
      omega
  · cases h

theorem textFrom_eq_none_iff {start : Int} :
    textFrom? text start = none ↔ start < -(text.length : Int) := by
  unfold textFrom?
  split
  · simp
    omega
  split
  · simp
    omega
  · simp
    omega

/-- **What is found from any place on** is the first place that matches, or that there is none. -/
theorem isFirstMatch_findClosingAround (hplain : bracket.IsPlain) {found : Option Int}
    (h : findClosingAround? bracket text (first + 1) = some found) :
    IsFirstMatch bracket text first found := by
  obtain ⟨scanned, hscanned, hfound⟩ := Option.bind_eq_some_iff.1 h
  cases hfound
  have hdistance := reached_start.closingDistance hplain (getElem?_textFrom hscanned)
  cases hclosing : closingDistance bracket .start scanned with
  | none =>
    rw [hclosing] at hdistance
    exact fun i hmatch => hdistance i (by have := hmatch.behind; omega) hmatch
  | some distance =>
    rw [hclosing] at hdistance
    exact ⟨hdistance.1, fun i hmatch => hdistance.2 i (by have := hmatch.behind; omega) hmatch⟩

/-- Looking behind a bracket of the text is looking from the next place on. -/
theorem findClosingAround_ofNat (place : Nat) :
    findClosingAround? bracket text (Int.ofNat place + 1)
      = some ((findClosing bracket text place).map Int.ofNat) := by
  have htext : textFrom? text (Int.ofNat place + 1) = some (text.drop (place + 1)) :=
    if_pos (by simp; omega)
  unfold findClosingAround? findClosing findClosingFrom
  rw [htext, Option.map_map]
  rfl

/-! ## Pieces -/

/-- Of a text that is cut off, a scan finds what it finds before the cut. -/
theorem closingDistance_take {scan : Scan} {cs : List Char} {count distance : Nat} :
    closingDistance bracket scan (cs.take count) = some distance
      ↔ closingDistance bracket scan cs = some distance ∧ distance < count := by
  induction cs generalizing scan count distance with
  | nil => simp [closingDistance]
  | cons c cs ih =>
    cases count with
    | zero => simp [closingDistance]
    | succ count =>
      rw [List.take_succ_cons]
      unfold closingDistance
      cases scan.step bracket c with
      | none =>
        simp only [Option.some.injEq]
        omega
      | some next =>
        simp only [Option.map_eq_some_iff, ih]
        constructor
        · rintro ⟨d, ⟨hd, hlt⟩, rfl⟩
          exact ⟨⟨d, hd, rfl⟩, Nat.succ_lt_succ hlt⟩
        · rintro ⟨⟨d, hd, rfl⟩, hlt⟩
          exact ⟨d, ⟨hd, Nat.lt_of_succ_lt_succ hlt⟩, rfl⟩

section Pieces

variable {r candidate : List Char} {distance : Nat}

/-- What a scan finds behind the first character of a piece. -/
theorem isFirstMatch_closingDistance (hplain : bracket.IsPlain) (c : Char) (r : List Char) :
    IsFirstMatch bracket (c :: r) 0
      ((closingDistance bracket .start r).map fun distance => Int.ofNat (1 + distance)) := by
  have hfound : findClosingAround? bracket (c :: r) (Int.ofNat 0 + 1)
      = some ((findClosing bracket (c :: r) 0).map Int.ofNat) := findClosingAround_ofNat 0
  have hplace : (findClosing bracket (c :: r) 0).map Int.ofNat
      = (closingDistance bracket .start r).map fun distance => Int.ofNat (1 + distance) := by
    unfold findClosing findClosingFrom
    rw [Option.map_map]
    rfl
  rw [hplace] at hfound
  exact isFirstMatch_findClosingAround hplain hfound

/-- A piece is balanced if a scan closes its first bracket at its end. -/
theorem isBalanced_of_closes (hplain : bracket.IsPlain)
    (h : closingDistance bracket .start r = some distance) (hlength : r.length = distance + 1) :
    IsBalanced bracket (bracket.opening :: r) := by
  have hfirst := isFirstMatch_closingDistance hplain bracket.opening r
  rw [h] at hfirst
  have hend : Int.ofNat (1 + distance) = Int.ofNat (bracket.opening :: r).length - 1 := by
    simp [hlength]
    omega
  refine ⟨rfl, ?_⟩
  rw [← hend]
  exact hfirst.1

/-- A scan closes the first bracket of a balanced piece within the piece. -/
theorem exists_closes_of_isBalanced (hplain : bracket.IsPlain)
    (h : IsBalanced bracket (bracket.opening :: r)) :
    ∃ distance, closingDistance bracket .start r = some distance ∧ distance < r.length := by
  have hfirst := isFirstMatch_closingDistance hplain bracket.opening r
  cases hdistance : closingDistance bracket .start r with
  | none =>
    rw [hdistance] at hfirst
    exact absurd h.2 (hfirst _)
  | some distance =>
    rw [hdistance] at hfirst
    have hle : Int.ofNat (1 + distance) ≤ Int.ofNat (bracket.opening :: r).length - 1 :=
      hfirst.2 h.2
    refine ⟨distance, rfl, ?_⟩
    simp at hle
    omega

/-- A balanced piece ends with the closing bracket. -/
theorem getLast?_of_isBalanced {piece : List Char} (h : IsBalanced bracket piece) :
    piece.getLast? = some bracket.closing := by
  obtain ⟨r, rfl⟩ := List.head?_eq_some_iff.1 h.1
  have hcloses := h.2.closes.2
  have hend : Int.ofNat (bracket.opening :: r).length - 1 = (r.length : Int) := by simp
  rw [hend] at hcloses
  unfold charAt? at hcloses
  rw [if_pos (Int.natCast_nonneg _), Int.toNat_natCast] at hcloses
  rw [List.getLast?_eq_getElem?]
  exact hcloses

/-- **A candidate goes from the first opening bracket of its kind to the place that matches it**; it
is balanced, and nothing shorter that it starts with is. -/
theorem balanced_of_candidate (hplain : bracket.IsPlain)
    (h : candidate? bracket text = some candidate) :
    (∃ front behind, text = front ++ candidate ++ behind ∧ bracket.opening ∉ front
      ∧ IsLeast {i | Matches bracket text front.length i} (front.length + candidate.length - 1))
    ∧ candidate.head? = some bracket.opening ∧ candidate.getLast? = some bracket.closing
    ∧ IsBalanced bracket candidate
    ∧ ∀ piece, piece <+: candidate → IsBalanced bracket piece → piece = candidate := by
  obtain ⟨front, rest, distance, rfl, hfront, hdistance, rfl⟩ := closes_of_candidate? h
  have hlt : distance < rest.length := by
    rw [← List.take_length (l := rest)] at hdistance
    exact (closingDistance_take.1 hdistance).2
  have hlength : (rest.take (distance + 1)).length = distance + 1 :=
    List.length_take_of_le hlt
  have hbalanced : IsBalanced bracket (bracket.opening :: rest.take (distance + 1)) :=
    isBalanced_of_closes hplain (closingDistance_take.2 ⟨hdistance, Nat.lt_succ_self _⟩) hlength
  refine ⟨⟨front, rest.drop (distance + 1), by simp, hfront, ?_⟩, rfl,
    getLast?_of_isBalanced hbalanced, hbalanced, ?_⟩
  · have hbehind : (front ++ bracket.opening :: rest).drop (front.length + 1) = rest := by
      rw [← List.drop_drop, List.drop_left]
      rfl
    have hfound : findClosingAround? bracket (front ++ bracket.opening :: rest)
          (Int.ofNat front.length + 1)
        = some ((findClosing bracket (front ++ bracket.opening :: rest) front.length).map
          Int.ofNat) := findClosingAround_ofNat front.length
    unfold findClosing findClosingFrom at hfound
    rw [hbehind, hdistance] at hfound
    have hend : ((front.length + 1 + distance : Nat) : Int)
        = front.length + (bracket.opening :: rest.take (distance + 1)).length - 1 := by
      rw [List.length_cons, hlength]
      omega
    rw [← hend]
    exact isFirstMatch_findClosingAround hplain hfound
  · intro piece hprefix hpiece
    -- The scan of a shorter piece would close the bracket earlier.
    obtain ⟨r, rfl⟩ := List.head?_eq_some_iff.1 hpiece.1
    obtain ⟨d, hd, hshort⟩ := exists_closes_of_isBalanced hplain hpiece
    have hr : r = (rest.take (distance + 1)).take r.length :=
      List.prefix_iff_eq_take.1 (List.cons_prefix_cons.1 hprefix).2
    rw [hr, closingDistance_take, closingDistance_take, hdistance] at hd
    obtain rfl := Option.some.inj hd.1.1
    have hle := (List.cons_prefix_cons.1 hprefix).2.length_le
    rw [(List.cons_prefix_cons.1 hprefix).2.eq_of_length (by omega)]

end Pieces

/-! ## What is found -/

theorem eq_none_of_isFirstMatch {found : Option Int} (h : IsFirstMatch bracket text first found) :
    found = none ↔ ∀ i, ¬Matches bracket text first i := by
  cases found with
  | none => exact iff_of_true rfl h
  | some place => exact iff_of_false nofun fun hnone => hnone place h.1

theorem eq_some_of_isFirstMatch {found : Option Int} (h : IsFirstMatch bracket text first found)
    (i : Int) : found = some i ↔ IsLeast {i | Matches bracket text first i} i := by
  cases found with
  | none => exact iff_of_false nofun fun hleast => h i hleast.1
  | some place =>
    rw [Option.some.injEq]
    exact ⟨fun heq => heq ▸ h, fun hleast => IsLeast.unique h hleast⟩

/-- Behind a place of the text, or before all of it, -1 stands for nothing found and is found
nowhere. -/
theorem getD_of_isFirstMatch {found : Option Int} (h : IsFirstMatch bracket text first found)
    (hfirst : -1 ≤ first) : found.getD (-1) = -1 ↔ ∀ i, ¬Matches bracket text first i := by
  rw [← eq_none_of_isFirstMatch h]
  cases found with
  | none => simp
  | some place =>
    have hbehind := h.1.behind
    refine iff_of_false ?_ nofun
    rw [Option.getD_some]
    omega

/-- **The scan finds what matches.** From every place that a text has, it finds the first place that
matches, or that there is none; behind a place that is not counted from the end, -1 says so. A
candidate is a piece of the text from a bracket to the place that matches it, and it is balanced,
with nothing shorter at its beginning that is. -/
theorem finds_first_match (hplain : bracket.IsPlain) (text : List Char) :
    (∀ first : Int, -(text.length : Int) ≤ first + 1 →
      ∃ found, findClosingAround? bracket text (first + 1) = some found
        ∧ (∀ i, found = some i ↔ IsLeast {i | Matches bracket text first i} i)
        ∧ (found = none ↔ ∀ i, ¬Matches bracket text first i)
        ∧ (-1 ≤ first → (found.getD (-1) = -1 ↔ ∀ i, ¬Matches bracket text first i)))
    ∧ ∀ candidate ∈ candidates text, ∃ kind ∈ [Bracket.curly, Bracket.square],
      (∃ front behind, text = front ++ candidate ++ behind ∧ kind.opening ∉ front
        ∧ IsLeast {i | Matches kind text front.length i} (front.length + candidate.length - 1))
      ∧ candidate.head? = some kind.opening ∧ candidate.getLast? = some kind.closing
      ∧ IsBalanced kind candidate
      ∧ ∀ piece, piece <+: candidate → IsBalanced kind piece → piece = candidate := by
  refine ⟨fun first hplace => ?_, fun candidate hcandidate => ?_⟩
  · obtain ⟨scanned, hscanned⟩ := Option.ne_none_iff_exists'.1 fun hnone =>
      not_lt.2 hplace (textFrom_eq_none_iff.1 hnone)
    obtain ⟨found, hfound⟩ : ∃ found, findClosingAround? bracket text (first + 1) = some found :=
      ⟨_, by unfold findClosingAround?; rw [hscanned]; rfl⟩
    have hright := isFirstMatch_findClosingAround hplain hfound
    exact ⟨found, hfound, eq_some_of_isFirstMatch hright, eq_none_of_isFirstMatch hright,
      getD_of_isFirstMatch hright⟩
  · obtain ⟨kind, hkind, hpiece⟩ := List.mem_filterMap.1 hcandidate
    have hkindPlain : kind.IsPlain := by
      rcases List.mem_cons.1 hkind with rfl | hkind
      · exact isPlain_curly
      · obtain rfl := List.mem_singleton.1 hkind
        exact isPlain_square
    exact ⟨kind, hkind, balanced_of_candidate hkindPlain hpiece⟩

/-- Angle brackets around quotes that are boundaries and quotes that are none. -/
theorem finds_first_match_angles :
    (Bracket.mk '<' '>').IsPlain
      ∧ findClosingAround? (.mk '<' '>') "<<a\">\"\\\">>>".toList 1 = some (some 9)
      ∧ IsLeast {i | Matches (.mk '<' '>') "<<a\">\"\\\">>>".toList 0 i} 9 := by
  have hplain : (Bracket.mk '<' '>').IsPlain := ⟨by decide, by decide, by decide⟩
  have hfound : findClosingAround? (.mk '<' '>') "<<a\">\"\\\">>>".toList 1 = some (some 9) := by
    decide +kernel
  obtain ⟨found, heq, hleast, -⟩ :=
    (finds_first_match hplain "<<a\">\"\\\">>>".toList).1 0 (by decide)
  rw [Int.zero_add, hfound, Option.some.injEq] at heq
  exact ⟨hplain, hfound, (hleast 9).1 heq.symm⟩

end DesktopMacro.Payload
