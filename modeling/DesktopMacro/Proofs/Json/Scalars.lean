/-
Numbers and constants end where their characters end.

The readers of numbers and constants stop by themselves: they take what they can and leave the rest.
So a text behind a scalar makes no difference as long as it begins with no character that a scalar
can hold. Each reader has one equation for that, and one lemma that what it leaves is the end of
what it was given.
-/
import DesktopMacro.Json.Reader
import Mathlib.Data.List.Find
import Mathlib.Data.List.TakeWhile

set_option autoImplicit false

namespace DesktopMacro.Json

/-- The characters of numbers and constants. -/
def isScalarChar (c : Char) : Bool := c.isAlphanum || c == '+' || c == '-' || c == '.'

/-- **A text that no scalar goes on into.** -/
def Stops (rest : List Char) : Prop := ∀ c ∈ rest.head?, isScalarChar c = false

variable {a b cs rest : List Char}

/-! ## Texts that stop -/

theorem stops_nil : Stops [] := nofun

theorem stops_cons {c : Char} (h : isScalarChar c = false) (cs : List Char) : Stops (c :: cs) := by
  intro first hfirst
  cases Option.some.inj hfirst
  exact h

theorem Stops.head {c : Char} (h : Stops (c :: cs)) : isScalarChar c = false := h c rfl

theorem Stops.ne {c d : Char} (h : Stops (c :: cs)) (hd : isScalarChar d = true) : c ≠ d := by
  rintro rfl
  rw [h.head] at hd
  cases hd

theorem isScalarChar_of_isDigit {c : Char} (h : c.isDigit = true) : isScalarChar c = true := by
  unfold isScalarChar Char.isAlphanum
  rw [h, Bool.or_true]
  rfl

/-- A run of characters of scalars is the same whatever it stops at. -/
theorem takeWhile_append {p : Char → Bool} (hp : ∀ c, p c = true → isScalarChar c = true)
    (hb : Stops b) (a : List Char) : (a ++ b).takeWhile p = a.takeWhile p := by
  induction a with
  | nil =>
    cases b with
    | nil => rfl
    | cons c cs =>
      have hc : ¬ p c = true := fun h => hb.ne (hp c h) rfl
      simp [hc]
  | cons c a ih =>
    simp only [List.cons_append, List.takeWhile_cons]
    split
    · rw [ih]
    · rfl

theorem dropWhile_append {p : Char → Bool} (hp : ∀ c, p c = true → isScalarChar c = true)
    (hb : Stops b) (a : List Char) : (a ++ b).dropWhile p = a.dropWhile p ++ b := by
  induction a with
  | nil =>
    cases b with
    | nil => rfl
    | cons c cs =>
      have hc : ¬ p c = true := fun h => hb.ne (hp c h) rfl
      simp [hc]
  | cons c a ih =>
    simp only [List.cons_append, List.dropWhile_cons]
    split
    · rw [ih]
    · rfl

theorem takeWhile_digits_append (hb : Stops b) (a : List Char) :
    (a ++ b).takeWhile Char.isDigit = a.takeWhile Char.isDigit :=
  takeWhile_append (fun _ => isScalarChar_of_isDigit) hb a

theorem dropWhile_digits_append (hb : Stops b) (a : List Char) :
    (a ++ b).dropWhile Char.isDigit = a.dropWhile Char.isDigit ++ b :=
  dropWhile_append (fun _ => isScalarChar_of_isDigit) hb a

/-! ## Parts of numbers -/

theorem wholePart_append (hb : Stops b) (a : List Char) :
    wholePart (a ++ b) = (wholePart a).map (fun part => (part.1, part.2 ++ b)) := by
  cases a with
  | nil =>
    cases b with
    | nil => rfl
    | cons c cs =>
      have hzero : c ≠ '0' := hb.ne (by decide)
      have hdigit : ¬ c.isDigit = true := fun h => hb.ne (isScalarChar_of_isDigit h) rfl
      simp [wholePart, hzero, hdigit]
  | cons c a =>
    simp only [wholePart, List.cons_append]
    rw [← List.cons_append, takeWhile_digits_append hb, dropWhile_digits_append hb]
    split
    · rfl
    · split <;> rfl

theorem fractionPart_of_ne {c : Char} (h : c ≠ '.') (cs : List Char) :
    fractionPart (c :: cs) = ([], c :: cs) := by
  unfold fractionPart
  split
  · next heq =>
    cases heq
    exact absurd rfl h
  · rfl

theorem fractionPart_append (hb : Stops b) (a : List Char) :
    fractionPart (a ++ b) = ((fractionPart a).1, (fractionPart a).2 ++ b) := by
  cases a with
  | nil =>
    cases b with
    | nil => rfl
    | cons c cs => exact fractionPart_of_ne (hb.ne (by decide)) cs
  | cons c a =>
    by_cases hpoint : c = '.'
    · subst hpoint
      simp only [List.cons_append, fractionPart, takeWhile_digits_append hb,
        dropWhile_digits_append hb]
      split <;> rfl
    · rw [List.cons_append, fractionPart_of_ne hpoint, fractionPart_of_ne hpoint]
      rfl

theorem readExponent_append (hb : Stops b) (a : List Char) :
    Binary64.readExponent (a ++ b)
      = (Binary64.readExponent a).map (fun part => (part.1, part.2 ++ b)) := by
  cases a with
  | nil =>
    cases b with
    | nil => rfl
    | cons c cs =>
      have hplus : c ≠ '+' := hb.ne (by decide)
      have hminus : c ≠ '-' := hb.ne (by decide)
      have hdigit : ¬ c.isDigit = true := fun h => hb.ne (isScalarChar_of_isDigit h) rfl
      simp [Binary64.readExponent, hplus, hminus, hdigit]
  | cons c a =>
    have hdigits : (if (c == '+' || c == '-') = true then a ++ b else c :: (a ++ b))
        = (if (c == '+' || c == '-') = true then a else c :: a) ++ b := by
      split <;> rfl
    simp only [List.cons_append, Binary64.readExponent, hdigits, takeWhile_digits_append hb,
      dropWhile_digits_append hb]
    generalize (if (c == '+' || c == '-') = true then a else c :: a) = digits
    split <;> rfl

theorem exponentPart_append (hb : Stops b) (a : List Char) :
    exponentPart (a ++ b) = ((exponentPart a).1, (exponentPart a).2 ++ b) := by
  cases a with
  | nil =>
    cases b with
    | nil => rfl
    | cons c cs =>
      have hlower : c ≠ 'e' := hb.ne (by decide)
      have hupper : c ≠ 'E' := hb.ne (by decide)
      simp [exponentPart, hlower, hupper]
  | cons c a =>
    simp only [List.cons_append, exponentPart, readExponent_append hb]
    split
    · cases Binary64.readExponent a <;> rfl
    · rfl

/-! ## Numbers and constants -/

/-- The sign of a number, and what stands behind it. -/
def signOf (cs : List Char) : Bool × List Char :=
  match cs with
  | '-' :: more => (true, more)
  | _ => (false, cs)

/-- A number behind its sign. -/
def unsigned (limits : Limits) (negative : Bool) (body : List Char) : Option (Json × List Char) :=
  match wholePart body with
  | none => none
  | some (whole, rest) =>
    match fractionPart rest with
    | (after, rest) =>
      match exponentPart rest with
      | (power, rest) =>
        if after.isEmpty && power.isNone then
          if limits.digits.any (· < whole.length) then none
          else
            let n := Int.ofNat (Integer.valueOf whole)
            some (int (if negative then -n else n), rest)
        else some (float (Binary64.ofDigits negative whole after (power.getD 0)), rest)

theorem toOption_readNumber (limits : Limits) (cs : List Char) :
    (readNumber limits cs).toOption = unsigned limits (signOf cs).1 (signOf cs).2 := by
  unfold readNumber
  split
  next negative body heq =>
  have hsign : signOf cs = (negative, body) := heq
  rw [hsign]
  unfold unsigned
  cases wholePart body with
  | none => rfl
  | some part =>
    dsimp only
    split
    · split <;> rfl
    · rfl

theorem signOf_append (hb : Stops b) (a : List Char) :
    signOf (a ++ b) = ((signOf a).1, (signOf a).2 ++ b) := by
  have hplain : ∀ {cs : List Char}, cs.head? ≠ some '-' → signOf cs = (false, cs) := fun h => by
    unfold signOf
    split
    · exact absurd rfl h
    · rfl
  by_cases hminus : a.head? = some '-'
  · obtain ⟨rest, rfl⟩ := List.head?_eq_some_iff.1 hminus
    rfl
  · have hboth : (a ++ b).head? ≠ some '-' := by
      cases a with
      | nil => exact fun h => absurd (hb '-' h) (by decide)
      | cons c a => exact hminus
    rw [hplain hboth, hplain hminus]

theorem unsigned_append (limits : Limits) (negative : Bool) (hb : Stops b) (a : List Char) :
    unsigned limits negative (a ++ b)
      = (unsigned limits negative a).map (fun part => (part.1, part.2 ++ b)) := by
  unfold unsigned
  rw [wholePart_append hb]
  cases wholePart a with
  | none => rfl
  | some part =>
    simp only [Option.map_some, fractionPart_append hb, exponentPart_append hb]
    split
    · split <;> rfl
    · rfl

theorem isPrefixOf_append {word : List Char} (hword : ∀ c ∈ word, isScalarChar c = true)
    (hb : Stops b) (a : List Char) : word.isPrefixOf (a ++ b) = word.isPrefixOf a := by
  induction word generalizing a with
  | nil => rfl
  | cons c word ih =>
    cases a with
    | nil =>
      cases b with
      | nil => rfl
      | cons d cs =>
        have hne : c ≠ d := (hb.ne (hword c List.mem_cons_self)).symm
        simp [List.isPrefixOf, hne]
    | cons d a =>
      simp only [List.cons_append, List.isPrefixOf]
      rw [ih (fun e he => hword e (List.mem_cons_of_mem c he))]

theorem isScalarChar_of_constant :
    ∀ entry ∈ constants, ∀ c ∈ entry.1, isScalarChar c = true := by
  have hall : constants.all (fun entry => entry.1.all isScalarChar) = true := by decide
  exact fun entry hentry => List.all_eq_true.1 (List.all_eq_true.1 hall entry hentry)

theorem readScalar_append (limits : Limits) (hb : Stops b) (a : List Char) :
    (readScalar limits (a ++ b)).toOption
      = (readScalar limits a).toOption.map (fun part => (part.1, part.2 ++ b)) := by
  have hfind : constants.find? (fun entry => entry.1.isPrefixOf (a ++ b))
      = constants.find? (fun entry => entry.1.isPrefixOf a) := by
    refine List.find?_congr fun entry hentry => ?_
    exact isPrefixOf_append (isScalarChar_of_constant entry hentry) hb a
  unfold readScalar
  rw [hfind]
  cases hword : constants.find? (fun entry => entry.1.isPrefixOf a) with
  | none =>
    dsimp only
    rw [toOption_readNumber, toOption_readNumber, signOf_append hb, unsigned_append limits _ hb]
  | some entry =>
    have hfound := List.find?_some hword
    have hprefix : entry.1 <+: a := List.isPrefixOf_iff_prefix.1 hfound
    have hdrop : (a ++ b).drop entry.1.length = a.drop entry.1.length ++ b :=
      List.drop_append_of_le_length hprefix.length_le
    simp only [hdrop]
    rfl

/-! ## What is left -/

theorem suffix_wholePart {part : List Char × List Char} (h : wholePart cs = some part) :
    part.2 <:+ cs := by
  cases cs with
  | nil => cases h
  | cons c cs =>
    simp only [wholePart] at h
    split at h
    · cases h
      exact List.suffix_cons c cs
    · split at h
      · cases h
        exact List.dropWhile_suffix _
      · cases h

theorem suffix_fractionPart (cs : List Char) : (fractionPart cs).2 <:+ cs := by
  unfold fractionPart
  split
  · next more =>
    split
    · exact List.suffix_refl _
    · exact (List.dropWhile_suffix _).trans (List.suffix_cons '.' more)
  · exact List.suffix_refl _

theorem suffix_readExponent {part : Int × List Char} (h : Binary64.readExponent cs = some part) :
    part.2 <:+ cs := by
  cases cs with
  | nil => cases h
  | cons c cs =>
    have hdigits : (if (c == '+' || c == '-') = true then cs else c :: cs) <:+ c :: cs := by
      split
      · exact List.suffix_cons c cs
      · exact List.suffix_refl _
    simp only [Binary64.readExponent] at h
    generalize (if (c == '+' || c == '-') = true then cs else c :: cs) = digits at h hdigits
    split at h
    · cases h
    · cases h
      exact (List.dropWhile_suffix _).trans hdigits

theorem suffix_exponentPart (cs : List Char) : (exponentPart cs).2 <:+ cs := by
  cases cs with
  | nil => exact List.suffix_refl _
  | cons c cs =>
    simp only [exponentPart]
    split
    · split
      · next power rest hread =>
        exact (suffix_readExponent hread).trans (List.suffix_cons c cs)
      · exact List.suffix_refl _
    · exact List.suffix_refl _

theorem suffix_signOf (cs : List Char) : (signOf cs).2 <:+ cs := by
  unfold signOf
  split
  · exact List.suffix_cons _ _
  · exact List.suffix_refl _

theorem suffix_unsigned {limits : Limits} {negative : Bool} {part : Json × List Char}
    (h : unsigned limits negative cs = some part) : part.2 <:+ cs := by
  unfold unsigned at h
  cases hwhole : wholePart cs with
  | none =>
    rw [hwhole] at h
    cases h
  | some whole =>
    have hrest := ((suffix_exponentPart _).trans (suffix_fractionPart _)).trans
      (suffix_wholePart hwhole)
    rw [hwhole] at h
    dsimp only at h
    split at h
    · split at h
      · cases h
      · cases h
        exact hrest
    · cases h
      exact hrest

theorem suffix_readScalar {limits : Limits} {value : Json}
    (h : readScalar limits cs = .ok (value, rest)) : rest <:+ cs := by
  unfold readScalar at h
  split at h
  · cases h
    exact List.drop_suffix _ _
  · have hnumber : unsigned limits (signOf cs).1 (signOf cs).2 = some (value, rest) := by
      rw [← toOption_readNumber, h]
      rfl
    exact (suffix_unsigned hnumber).trans (suffix_signOf cs)

/-- A run that is read to its end is not empty. -/
theorem ne_nil_of_readScalar {limits : Limits} {value : Json}
    (h : readScalar limits cs = .ok (value, rest)) : cs ≠ [] := by
  rintro rfl
  cases h

/-- **A scalar is the run of its characters**, whatever stands behind it. -/
theorem readScalar_run {limits : Limits} {value : Json}
    (h : readScalar limits cs = .ok (value, rest)) (hrest : Stops rest) :
    ∃ run, (∀ c ∈ run, isScalarChar c = true) ∧ cs = run ++ rest ∧
      readScalar limits run = .ok (value, []) := by
  have hrun : ∀ c ∈ cs.takeWhile isScalarChar, isScalarChar c = true :=
    fun c hc => List.mem_takeWhile_imp hc
  have hstops : Stops (cs.dropWhile isScalarChar) := by
    intro c hc
    have hnot := List.head?_dropWhile_not isScalarChar cs
    rw [Option.mem_def.1 hc] at hnot
    exact hnot
  have hcs : cs.takeWhile isScalarChar ++ cs.dropWhile isScalarChar = cs :=
    List.takeWhile_append_dropWhile
  generalize cs.takeWhile isScalarChar = run at hrun hcs
  generalize cs.dropWhile isScalarChar = behind at hcs hstops
  subst hcs
  -- Without what stands behind, the same value is read, and what is left is left of the run.
  have hread := readScalar_append limits hstops run
  rw [h] at hread
  cases hvalue : readScalar limits run with
  | error fault =>
    rw [hvalue] at hread
    cases hread
  | ok part =>
    obtain ⟨value', left⟩ := part
    rw [hvalue] at hread
    cases hread
    have hleft : left = [] := by
      cases left with
      | nil => rfl
      | cons c left =>
        -- A character that is left would be one that scalars go on into.
        have hc := hrun c ((suffix_readScalar hvalue).mem List.mem_cons_self)
        exact absurd rfl (hrest.ne hc)
    subst hleft
    exact ⟨run, hrun, rfl, hvalue⟩

/-- A scalar is read in the same way wherever it stops. -/
theorem readScalar_of_run {limits : Limits} {value : Json} {run : List Char}
    (h : readScalar limits run = .ok (value, [])) (hrest : Stops rest) :
    readScalar limits (run ++ rest) = .ok (value, rest) := by
  have hread := readScalar_append limits hrest run
  rw [h] at hread
  cases hr : readScalar limits (run ++ rest) with
  | ok part =>
    rw [hr] at hread
    cases hread
    rfl
  | error fault =>
    rw [hr] at hread
    cases hread

end DesktopMacro.Json
