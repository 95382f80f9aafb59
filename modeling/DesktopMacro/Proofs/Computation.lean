/-
Taking computations apart.

A computation that may fail and ended well did so step by step: what two computations in a row give,
the second one gives from what the first one gives. One that fails does so for what one of its steps
fails for, and one that goes through items side by side for what one of the items fails for. The
same holds where notes are taken on the way. One that keeps a state leaves a state however it ended,
and what each step does to the state adds up.
-/
import Mathlib.Data.List.Forall2
import DesktopMacro.Note

set_option autoImplicit false

namespace DesktopMacro

/-! ## What may fail -/

section

variable {ε α β : Type}

/-- What two computations in a row give, the second one gives from what the first one gives. -/
theorem of_bind {first : Except ε α} {next : α → Except ε β} {b : β}
    (h : (first >>= next) = .ok b) : ∃ a, first = .ok a ∧ next a = .ok b := by
  cases first with
  | error fault => cases h
  | ok a => exact ⟨a, rfl, h⟩

/-- Two computations in a row that fail do so in the first one or in the second one. -/
theorem error_of_bind {first : Except ε α} {next : α → Except ε β} {fault : ε}
    (h : (first >>= next) = .error fault) :
    first = .error fault ∨ ∃ a, first = .ok a ∧ next a = .error fault := by
  cases first with
  | error fault' =>
    cases h
    exact .inl rfl
  | ok a => exact .inr ⟨a, rfl, h⟩

/-- A function of what is computed is computed from that. -/
theorem of_map {computation : Except ε α} {f : α → β} {b : β} (h : f <$> computation = .ok b) :
    ∃ a, computation = .ok a ∧ f a = b := by
  cases computation with
  | error fault => cases h
  | ok a => exact ⟨a, rfl, Except.ok.inj h⟩

/-- What ends well does so however a failure is told. -/
theorem ok_of_mapError {ε' : Type} {computation : Except ε α} {tell : ε → ε'} {a : α}
    (h : computation.mapError tell = .ok a) : computation = .ok a := by
  cases computation with
  | error fault => cases h
  | ok a' => exact congrArg Except.ok (Except.ok.inj h)

/-- A function of what is computed. -/
theorem bind_pure_ok {computation : Except ε α} {a : α} (f : α → β) (h : computation = .ok a) :
    (computation >>= fun a => pure (f a)) = .ok (f a) := by
  rw [h]
  rfl

end

/-! ## Side by side -/

section

universe u

variable {ε β : Type} {α : Type u} {f : α → Except ε β} {items : List α}

/-- What is computed of items side by side is computed of each. -/
theorem forall₂_of_mapM {R : α → β → Prop} {results : List β} (h : items.mapM f = .ok results)
    (hitem : ∀ item ∈ items, ∀ result, f item = .ok result → R item result) :
    List.Forall₂ R items results := by
  induction items generalizing results with
  | nil =>
    cases h
    exact .nil
  | cons item items ih =>
    rw [List.mapM_cons] at h
    obtain ⟨first, hfirst, h⟩ := of_bind h
    obtain ⟨others, hothers, h⟩ := of_bind h
    cases h
    rw [List.forall_mem_cons] at hitem
    exact .cons (hitem.1 first hfirst) (ih hothers hitem.2)

/-- **Items side by side give results exactly if each gives its own.** -/
theorem mapM_eq_ok_iff {results : List β} :
    items.mapM f = .ok results
      ↔ List.Forall₂ (fun item result => f item = .ok result) items results := by
  refine ⟨fun h => forall₂_of_mapM h fun _ _ _ => id, fun h => ?_⟩
  induction h with
  | nil => rfl
  | cons hfirst _ ih =>
    rw [List.mapM_cons, hfirst, ih]
    rfl

/-- What stands in the second one of two lists that belong together belongs to an item of the
first one. -/
theorem exists_of_forall₂ {α β : Type*} {R : α → β → Prop} {items : List α} {results : List β}
    (h : List.Forall₂ R items results) : ∀ result ∈ results, ∃ item ∈ items, R item result := by
  induction h with
  | nil => exact fun result hresult => absurd hresult List.not_mem_nil
  | cons hfirst _ ih =>
    intro result hresult
    rcases List.mem_cons.1 hresult with rfl | hmem
    · exact ⟨_, List.mem_cons_self, hfirst⟩
    · obtain ⟨item, hitem, hR⟩ := ih result hmem
      exact ⟨item, List.mem_cons_of_mem _ hitem, hR⟩

/-- What belongs to each of some items makes a list that belongs to their list. -/
theorem exists_forall₂ {α β : Type*} {R : α → β → Prop} {items : List α}
    (h : ∀ item ∈ items, ∃ result, R item result) : ∃ results, List.Forall₂ R items results := by
  induction items with
  | nil => exact ⟨[], .nil⟩
  | cons item items ih =>
    obtain ⟨hfirst, hrest⟩ := List.forall_mem_cons.1 h
    obtain ⟨result, hresult⟩ := hfirst
    obtain ⟨results, hresults⟩ := ih hrest
    exact ⟨result :: results, .cons hresult hresults⟩

theorem mapM_eq_ok_map {g : α → β} (h : ∀ item ∈ items, f item = .ok (g item)) :
    items.mapM f = .ok (items.map g) := by
  induction items with
  | nil => rfl
  | cons item items ih =>
    rw [List.forall_mem_cons] at h
    rw [List.mapM_cons, h.1, ih h.2]
    rfl

/-- Where nothing is computed of items side by side, one of them fails. -/
theorem exists_of_mapM_error {fault : ε} (h : items.mapM f = .error fault) :
    ∃ item ∈ items, f item = .error fault := by
  induction items with
  | nil => cases h
  | cons item items ih =>
    rw [List.mapM_cons] at h
    rcases error_of_bind h with hfirst | ⟨first, -, hrest⟩
    · exact ⟨item, List.mem_cons_self, hfirst⟩
    · rcases error_of_bind hrest with hothers | ⟨others, -, hpure⟩
      · obtain ⟨other, hother, hfails⟩ := ih hothers
        exact ⟨other, List.mem_cons_of_mem _ hother, hfails⟩
      · cases hpure

end

/-! ## What it fails for -/

section

variable {ε α β : Type} {P : ε → Prop}

/-- Some of the faults are the only ones that a computation fails for. -/
def FailsFor (P : ε → Prop) (computation : Except ε α) : Prop :=
  ∀ fault, computation = .error fault → P fault

theorem failsFor_ok (P : ε → Prop) (a : α) : FailsFor P (.ok a) := nofun

theorem failsFor_error {fault : ε} (h : P fault) : FailsFor P (.error fault : Except ε α) := by
  rintro _ ⟨⟩
  exact h

theorem FailsFor.mono {Q : ε → Prop} {computation : Except ε α} (h : FailsFor P computation)
    (hmono : ∀ fault, P fault → Q fault) : FailsFor Q computation :=
  fun fault hfault => hmono fault (h fault hfault)

/-- Two computations in a row fail for what the one or the other fails for. -/
theorem FailsFor.bind {first : Except ε α} {next : α → Except ε β} (h : FailsFor P first)
    (h' : ∀ a, first = .ok a → FailsFor P (next a)) : FailsFor P (first >>= next) := by
  cases first with
  | error fault => exact failsFor_error (h fault rfl)
  | ok a => exact h' a rfl

theorem FailsFor.map {computation : Except ε α} (h : FailsFor P computation) (f : α → β) :
    FailsFor P (computation.map f) := by
  cases computation with
  | error fault => exact failsFor_error (h fault rfl)
  | ok a => exact failsFor_ok P (f a)

theorem FailsFor.mapError {ε' : Type} {Q : ε' → Prop} {computation : Except ε α} {tell : ε → ε'}
    (h : ∀ fault, Q (tell fault)) : FailsFor Q (computation.mapError tell) := by
  cases computation with
  | error fault => exact failsFor_error (h fault)
  | ok a => exact failsFor_ok Q a

theorem FailsFor.mapM {f : α → Except ε β} (h : ∀ a, FailsFor P (f a)) (items : List α) :
    FailsFor P (items.mapM f) := by
  induction items with
  | nil => exact failsFor_ok P []
  | cons item items ih =>
    rw [List.mapM_cons]
    exact (h item).bind fun first _ => ih.bind fun others _ => failsFor_ok P _

theorem FailsFor.foldlM {f : β → α → Except ε β} (h : ∀ b a, FailsFor P (f b a)) (items : List α)
    (b : β) : FailsFor P (items.foldlM f b) := by
  induction items generalizing b with
  | nil => exact failsFor_ok P b
  | cons item items ih =>
    rw [List.foldlM_cons]
    exact (h b item).bind fun b' _ => ih b'

end

/-! ## What may fail and keeps a state -/

section

variable {σ ε α β : Type}

/-- Of two computations in a row the second one goes on where the first one ended well. -/
theorem run_bind (first : ExceptT ε (StateM σ) α) (next : α → ExceptT ε (StateM σ) β) (before : σ) :
    (ExceptT.run (first >>= next)).run before
      = match (ExceptT.run first).run before with
        | (.ok a, between) => (ExceptT.run (next a)).run between
        | (.error fault, between) => (.error fault, between) := by
  change (StateT.bind (ExceptT.run first) (ExceptT.bindCont next)).run before = _
  simp only [StateT.run, StateT.bind]
  change ExceptT.bindCont next ((ExceptT.run first) before).1 ((ExceptT.run first) before).2 = _
  cases ExceptT.run first before with
  | mk result between => cases result <;> rfl

/-- What looks at the state goes on with the state that there is. -/
theorem run_get_bind (next : σ → ExceptT ε (StateM σ) α) (before : σ) :
    (ExceptT.run (get >>= next)).run before = (ExceptT.run (next before)).run before := rfl

/-- What changes the state goes on with the changed one. -/
theorem run_modify_bind (change : σ → σ) (next : PUnit → ExceptT ε (StateM σ) α) (before : σ) :
    (ExceptT.run (modify change >>= next)).run before
      = (ExceptT.run (next ⟨⟩)).run (change before) := rfl

/-- However a computation ends, it leaves a state to which the one that it starts from is
related. -/
def Evolves (R : σ → σ → Prop) (before : σ) (computation : ExceptT ε (StateM σ) α) : Prop :=
  R before ((ExceptT.run computation).run before).2

variable {R : σ → σ → Prop} {before : σ}

theorem Evolves.bind (htrans : ∀ {a b c : σ}, R a b → R b c → R a c)
    {first : ExceptT ε (StateM σ) α} {next : α → ExceptT ε (StateM σ) β}
    (h : Evolves R before first)
    (h' : ∀ a between, Evolves R between (next a)) : Evolves R before (first >>= next) := by
  unfold Evolves at h ⊢
  rw [run_bind]
  cases hrun : (ExceptT.run first).run before with
  | mk result between =>
    rw [hrun] at h
    cases result with
    | ok a => exact htrans h (h' a between)
    | error fault => exact h

/-- Some of the faults are the only ones that a computation fails for, whatever state it finds. -/
def RunFailsFor (P : ε → Prop) (computation : ExceptT ε (StateM σ) α) : Prop :=
  ∀ before, FailsFor P ((ExceptT.run computation).run before).1

variable {P : ε → Prop}

theorem runFailsFor_pure (P : ε → Prop) (a : α) :
    RunFailsFor P (pure a : ExceptT ε (StateM σ) α) := fun _ => nofun

theorem runFailsFor_throw {fault : ε} (h : P fault) :
    RunFailsFor P (throw fault : ExceptT ε (StateM σ) α) := fun _ => failsFor_error h

theorem runFailsFor_set (P : ε → Prop) (after : σ) :
    RunFailsFor P (set after : ExceptT ε (StateM σ) PUnit) := fun _ => nofun

/-- What looks at the state fails for what it fails for with one state or another. -/
theorem runFailsFor_get_bind {next : σ → ExceptT ε (StateM σ) α}
    (h : ∀ state, RunFailsFor P (next state)) : RunFailsFor P (get >>= next) :=
  fun before => h before before

theorem RunFailsFor.bind {first : ExceptT ε (StateM σ) α} {next : α → ExceptT ε (StateM σ) β}
    (h : RunFailsFor P first) (h' : ∀ a, RunFailsFor P (next a)) :
    RunFailsFor P (first >>= next) := by
  intro before
  have hfirst := h before
  rw [run_bind]
  cases hrun : (ExceptT.run first).run before with
  | mk result between =>
    rw [hrun] at hfirst
    cases result with
    | ok a => exact h' a between
    | error fault => exact failsFor_error (hfirst fault rfl)

end

/-! ## What a computation with notes gives -/

namespace Noting

variable {α β : Type} {b : β}

/-- A computation gives a value, whatever it notes. -/
def Gives (computation : Noting α) (a : α) : Prop :=
  ∃ before after, (ExceptT.run computation).run before = (.ok a, after)

theorem gives_of_run {computation : Noting α} {a : α} (h : computation.run.1 = .ok a) :
    computation.Gives a :=
  ⟨[], computation.run.2, Prod.ext h rfl⟩

theorem Gives.of_pure {a a' : α} (h : Gives (pure a) a') : a' = a := by
  obtain ⟨before, after, h⟩ := h
  cases h
  rfl

/-- What two computations in a row give, the second one gives from what the first one gives. -/
theorem Gives.of_bind {first : Noting α} {next : α → Noting β} (h : Gives (first >>= next) b) :
    ∃ a, first.Gives a ∧ (next a).Gives b := by
  obtain ⟨before, after, h⟩ := h
  cases hfirst : (ExceptT.run first).run before with
  | mk result between =>
    rw [run_bind, hfirst] at h
    cases result with
    | ok a => exact ⟨a, ⟨before, between, hfirst⟩, between, after, h⟩
    | error cause => cases h

/-- What is computed of many items is computed of one each. -/
theorem Gives.of_mapM {f : α → Noting β} {items : List α} {results : List β}
    (h : (items.mapM f).Gives results) : ∀ result ∈ results, ∃ item, (f item).Gives result := by
  induction items generalizing results with
  | nil =>
    rw [List.mapM_nil] at h
    rw [h.of_pure]
    exact fun result hresult => absurd hresult List.not_mem_nil
  | cons item items ih =>
    rw [List.mapM_cons] at h
    obtain ⟨first, hfirst, h⟩ := h.of_bind
    obtain ⟨others, hothers, h⟩ := h.of_bind
    rw [h.of_pure]
    exact List.forall_mem_cons.2 ⟨⟨item, hfirst⟩, ih hothers⟩

/-- Two computations without notes in a row are taken one after the other. -/
theorem lift_bind (first : Except Cause α) (next : α → Except Cause β) :
    lift (first >>= next) = lift first >>= fun a => lift (next a) := by
  cases first with
  | error cause => rfl
  | ok a => rfl

/-! ## What a computation with notes fails for -/

section

variable {P : Cause → Prop}

/-- Some of the causes are the only ones that a computation fails for, whatever it notes. -/
def FailsFor (P : Cause → Prop) (computation : Noting α) : Prop :=
  ∀ before, DesktopMacro.FailsFor P ((ExceptT.run computation).run before).1

theorem failsFor_pure (P : Cause → Prop) (a : α) : FailsFor P (pure a : Noting α) := fun _ => nofun

theorem FailsFor.mono {Q : Cause → Prop} {computation : Noting α} (h : FailsFor P computation)
    (hmono : ∀ cause, P cause → Q cause) : FailsFor Q computation :=
  fun before => (h before).mono hmono

theorem failsFor_tell (P : Cause → Prop) (notes : List Note) : FailsFor P (tell notes) :=
  fun _ => nofun

theorem failsFor_lift {result : Except Cause α} (h : DesktopMacro.FailsFor P result) :
    FailsFor P (lift result) := fun _ => h

theorem FailsFor.bind {first : Noting α} {next : α → Noting β} (h : FailsFor P first)
    (h' : ∀ a, FailsFor P (next a)) : FailsFor P (first >>= next) := RunFailsFor.bind h h'

theorem FailsFor.mapM {f : α → Noting β} (h : ∀ a, FailsFor P (f a)) (items : List α) :
    FailsFor P (items.mapM f) := by
  induction items with
  | nil => exact failsFor_pure P []
  | cons item items ih =>
    rw [List.mapM_cons]
    exact (h item).bind fun first => ih.bind fun others => failsFor_pure P _

end

end Noting

end DesktopMacro
