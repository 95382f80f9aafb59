/-
Updates that follow one another.

Adding to a variable and appending to one make the variable if it is missing, convert it if it has
another type, and change it in place otherwise. All three come to one thing: the variable that is
demanded with the operation's type gets a new value. A number starts from the number that is
demanded, and a text from what the variable showed before. So the second of two updates goes on from
what the first one left, and the two come to one update.

A number of too many digits cannot be shown, and then nothing is appended.
-/
import DesktopMacro.Proofs.Variable.Setting

set_option autoImplicit false

namespace DesktopMacro.Store

variable {store : Store} {name : String}

/-- A value that was put in the place of a demanded variable is there when it is demanded again. -/
theorem demand_put_demand (store : Store) (name : String) {kind : Variable.Kind}
    {value : Variable.Value} (h : value.kind = kind) :
    (store.put ((store.demand name kind).withValue value)).demand name kind
      = (store.demand name kind).withValue value := by
  have hname : ((store.demand name kind).withValue value).name = name := store.name_demand name kind
  have hkind : ((store.demand name kind).withValue value).kind = kind := h
  have hput := store.demand_put_self ((store.demand name kind).withValue value)
  rwa [hname, hkind] at hput

/-- A second value takes the place of the first. -/
theorem put_withValue_put (store : Store) (v : Variable) (first second : Variable.Value) :
    (store.put (v.withValue first)).put ((v.withValue first).withValue second)
      = store.put (v.withValue second) :=
  store.put_put rfl

/-! ## Adding -/

/-- The number that adding starts from is a whole one, and zero where the variable is missing or no
number. -/
theorem exists_number_demanded (h : ∀ v, store.find? name = some v → v.value.Fits) :
    ∃ n : Int, (store.demand name .number).value = .number (.whole n) := by
  unfold demand
  cases hfind : store.find? name with
  | none => exact ⟨0, rfl⟩
  | some v =>
    by_cases hkind : v.kind = .number
    · have hfits := h v hfind
      dsimp only [Variable.ensureKind]
      rw [if_pos hkind]
      unfold Variable.kind at hkind
      cases hvalue : v.value with
      | number q =>
        rw [hvalue] at hfits
        obtain ⟨n, rfl⟩ := hfits.whole
        exact ⟨n, rfl⟩
      | text s | boolean b | list s =>
        rw [hvalue] at hkind
        cases hkind
    · dsimp only [Variable.ensureKind]
      rw [if_neg hkind]
      exact ⟨0, rfl⟩

/-- **Adding puts the sum in the place of the demanded number.** -/
theorem perform_incrementOrCreate {n : Int}
    (hn : (store.demand name .number).value = .number (.whole n)) (delta : Int) :
    store.perform name (.incrementOrCreate delta) = (.ok true,
      store.put ((store.demand name .number).withValue (.number (.whole (n + delta))))) := by
  -- Where the number is made or comes from a conversion, it was zero.
  have hmade (hnone : store.increment? name (.whole delta) = .ok none) (hzero : n = 0) :
      store.perform name (.incrementOrCreate delta) = (.ok true,
        store.put ((store.demand name .number).withValue (.number (.whole (n + delta))))) := by
    refine perform_of_done ?_
    unfold outcome incrementOrCreate
    dsimp only
    rw [hnone, hzero, Int.zero_add]
    rfl
  cases hfind : store.find? name with
  | none =>
    refine hmade (by unfold increment?; rw [hfind]) ?_
    unfold demand at hn
    rw [hfind] at hn
    cases hn
    rfl
  | some v =>
    by_cases hkind : v.kind = .number
    · have hdemand : store.demand name .number = v := by
        unfold demand
        rw [hfind]
        exact if_pos hkind
      rw [hdemand] at hn ⊢
      refine perform_of_done ?_
      unfold outcome incrementOrCreate increment?
      dsimp only
      rw [hfind]
      dsimp only
      rw [hn]
      rfl
    · have hdemand : store.demand name .number = v.convert .number := by
        unfold demand
        rw [hfind]
        exact if_neg hkind
      refine hmade ?_ ?_
      · unfold increment?
        rw [hfind]
        dsimp only
        split
        · next hvalue => exact absurd (congrArg Variable.Value.kind hvalue) hkind
        · rfl
      · rw [hdemand] at hn
        cases hn
        rfl

/-- Two numbers that are added one after the other are added as their sum. -/
theorem perform_incrementOrCreate_twice {n : Int}
    (hn : (store.demand name .number).value = .number (.whole n)) (a b : Int) :
    (store.perform name (.incrementOrCreate a)).2.perform name (.incrementOrCreate b)
      = store.perform name (.incrementOrCreate (a + b)) := by
  have hkind : (Variable.Value.number (.whole (n + a))).kind = .number := rfl
  -- The second addition starts from the sum that the first one left.
  have hdemand := store.demand_put_demand name hkind
  have hsecond := congrArg Variable.value hdemand
  rw [perform_incrementOrCreate hn a, perform_incrementOrCreate hsecond b, hdemand,
    put_withValue_put, perform_incrementOrCreate hn (a + b), Int.add_assoc]

/-! ## Appending -/

/-- **Appending puts what was shown, and the addition behind it, in the place of the variable.** -/
theorem perform_appendText {shown : String} (hshown : store.text name "" = .ok shown)
    (addition : String) : store.perform name (.appendText addition) = (.ok true,
      store.put ((store.demand name .text).withValue (.text (shown ++ addition)))) := by
  refine perform_of_done ?_
  unfold outcome appendText
  dsimp only
  rw [hshown]
  rfl

theorem perform_appendText_error {cause : Cause} (h : store.text name "" = .error cause)
    (addition : String) :
    store.perform name (.appendText addition) = (.error cause, store) := by
  refine perform_of_failed ?_
  unfold outcome appendText
  dsimp only
  rw [h]
  rfl

/-- What is shown after text was appended. -/
theorem text_perform_appendText {shown : String} (hshown : store.text name "" = .ok shown)
    (addition : String) :
    (store.perform name (.appendText addition)).2.text name "" = .ok (shown ++ addition) := by
  have hname : ((store.demand name .text).withValue (.text (shown ++ addition))).name = name :=
    store.name_demand name .text
  have hfound := store.find?_put_self
    ((store.demand name .text).withValue (.text (shown ++ addition)))
  rw [hname] at hfound
  rw [perform_appendText hshown]
  unfold text
  rw [hfound]
  rfl

/-- Two texts that are appended one after the other are appended as one. -/
theorem perform_appendText_twice (store : Store) (name s t : String) :
    (store.perform name (.appendText s)).2.perform name (.appendText t)
      = store.perform name (.appendText (s ++ t)) := by
  cases hshown : store.text name "" with
  | error cause =>
    rw [perform_appendText_error hshown, perform_appendText_error hshown,
      perform_appendText_error hshown]
  | ok shown =>
    have hkind : (Variable.Value.text (shown ++ s)).kind = .text := rfl
    have hdemand := store.demand_put_demand name hkind
    -- What the first text left is shown before the second is appended.
    rw [perform_appendText (text_perform_appendText hshown s) t, perform_appendText hshown s,
      hdemand, put_withValue_put, perform_appendText hshown (s ++ t), String.append_assoc]

/-- **A variable that cannot be shown**: it is a number that has too many digits to be written. -/
def IsTooLong (store : Store) (name : String) : Prop :=
  ∃ v n, store.find? name = some v ∧ v.value = .number (.whole n) ∧ ¬Integer.IsWritable n

theorem text_of_isTooLong (h : store.IsTooLong name) (fallback : String) :
    store.text name fallback = .error .numberUnwritable := by
  obtain ⟨v, n, hfind, hvalue, hlong⟩ := h
  unfold text
  rw [hfind]
  dsimp only
  rw [hvalue, Variable.show?_whole, if_neg hlong]

theorem exists_text (hfits : ∀ v, store.find? name = some v → v.value.Fits)
    (h : ¬store.IsTooLong name) (fallback : String) :
    ∃ shown, store.text name fallback = .ok shown := by
  unfold text
  cases hfind : store.find? name with
  | none => exact ⟨fallback, rfl⟩
  | some v =>
    have hv := hfits v hfind
    dsimp only
    cases hvalue : v.value with
    | text s | list s => exact ⟨s, rfl⟩
    | boolean b => exact ⟨_, rfl⟩
    | number q =>
      rw [hvalue] at hv
      obtain ⟨n, rfl⟩ := hv.whole
      have hwritable : Integer.IsWritable n :=
        by_contra fun hlong => h ⟨v, n, hfind, hvalue, hlong⟩
      exact ⟨_, (Variable.show?_whole n).trans (if_pos hwritable)⟩

/-! ## Composing -/

/-- **Updates compose.** Whatever variable there is under a name, a missing one included and a number
being a whole one, adding two numbers one after the other leaves what adding their sum leaves, and
appending two texts what appending them as one does. After a text was appended, the variable shows
what it showed before and then the text; only if it is a number that is too long to be shown,
nothing is appended, and it stays as it is. -/
theorem updates_compose (hfits : ∀ v, store.find? name = some v → v.value.Fits) (a b : Int)
    (s t : String) :
    (store.perform name (.incrementOrCreate (a + b))).1 = .ok true
      ∧ (store.perform name (.incrementOrCreate a)).2.perform name (.incrementOrCreate b)
        = store.perform name (.incrementOrCreate (a + b))
      ∧ (store.perform name (.appendText s)).2.perform name (.appendText t)
        = store.perform name (.appendText (s ++ t))
      ∧ (¬store.IsTooLong name → ∃ shown, store.text name "" = .ok shown
        ∧ (store.perform name (.appendText t)).1 = .ok true
        ∧ (store.perform name (.appendText t)).2.text name "" = .ok (shown ++ t))
      ∧ (store.IsTooLong name → store.text name "" = .error .numberUnwritable
        ∧ store.perform name (.appendText t) = (.error .numberUnwritable, store)) := by
  obtain ⟨n, hn⟩ := exists_number_demanded hfits
  refine ⟨?_, perform_incrementOrCreate_twice hn a b, perform_appendText_twice store name s t,
    fun hshort => ?_, fun hlong => ?_⟩
  · rw [perform_incrementOrCreate hn]
  · obtain ⟨shown, hshown⟩ := exists_text hfits hshort ""
    exact ⟨shown, hshown, by rw [perform_appendText hshown], text_perform_appendText hshown t⟩
  · have htext := text_of_isTooLong hlong ""
    exact ⟨htext, perform_appendText_error htext t⟩

/-- A truth value is converted to a number and to a text: of the two additions only the first
converts. -/
theorem updates_compose_converting :
    let store : Store := ⟨[⟨"flag", .boolean true, "kept"⟩]⟩
    (store.perform "flag" (.incrementOrCreate 2)).2.perform "flag" (.incrementOrCreate (-3))
        = (.ok true, ⟨[⟨"flag", .number (.whole (-1)), "kept"⟩]⟩)
      ∧ (store.perform "flag" (.appendText "!")).2.perform "flag" (.appendText "?")
        = (.ok true, ⟨[⟨"flag", .text "True!?", "kept"⟩]⟩)
      ∧ ∃ shown, store.text "flag" "" = .ok shown
        ∧ (store.perform "flag" (.appendText "?")).1 = .ok true
        ∧ (store.perform "flag" (.appendText "?")).2.text "flag" "" = .ok (shown ++ "?") := by
  intro store
  have hfits : ∀ v, store.find? "flag" = some v → v.value.Fits := by
    intro v hv
    cases hv
    exact Variable.Value.fits_boolean true
  have hshort : ¬store.IsTooLong "flag" := by
    rintro ⟨v, n, hv, hvalue, -⟩
    cases hv
    cases hvalue
  obtain ⟨-, hadd, happend, hshown, -⟩ := updates_compose hfits 2 (-3) "!" "?"
  exact ⟨hadd, happend, hshown hshort⟩

/-- **Not every number has a text to go on from**: the first one with a digit too many is not shown,
neither before a text is appended nor after. -/
theorem appendText_unshown :
    let store : Store := ⟨[⟨"count", .number (.whole (10 ^ Integer.digitLimit)), ""⟩]⟩
    (store.perform "count" (.appendText "a")).1 = .error .numberUnwritable
      ∧ ¬∃ shown, store.text "count" "" = .ok shown
        ∧ (store.perform "count" (.appendText "a")).2.text "count" "" = .ok (shown ++ "a") := by
  intro store
  have hlong : store.IsTooLong "count" :=
    ⟨_, _, rfl, rfl, Integer.not_isWritable_pow (Nat.le_refl Integer.digitLimit)⟩
  have htext := text_of_isTooLong hlong ""
  refine ⟨by rw [perform_appendText_error htext], ?_⟩
  rintro ⟨shown, hshown, -⟩
  rw [htext] at hshown
  cases hshown

end DesktopMacro.Store
