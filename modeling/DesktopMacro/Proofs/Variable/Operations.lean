/-
What operations do to the variables of a sequence.

Eleven operations change a store, each at one name. Whatever document the store was read from and
whatever was done to it before, its variables are found under their names, no two have one name, and
each has a value of its type. An operation leaves the other variables in their places; it puts a
variable with the description that was there in the place of the one that it names, or a new one at
the end. Only three of the operations can be refused, and then nothing changes.
-/
import DesktopMacro.Proofs.Sequence.Documents

set_option autoImplicit false

namespace DesktopMacro

/-! ## Values of their types -/

namespace Variable

/-- **What a type holds**, as a document shows it. -/
def Kind.Holds : Kind → Json → Prop
  | .text, raw | .list, raw => ∃ s, raw = .text s
  | .number, raw => ∃ n, raw = .int n
  | .boolean, raw => ∃ b, raw = .bool b

/-- A value fits its type; only a number may fail to, if it is not a whole one. -/
def Value.Fits (value : Value) : Prop := value.kind.Holds value.toJson

namespace Value

theorem fits_text (s : String) : (text s).Fits := ⟨s, rfl⟩

theorem fits_list (s : String) : (list s).Fits := ⟨s, rfl⟩

theorem fits_boolean (b : Bool) : (boolean b).Fits := ⟨b, rfl⟩

theorem fits_whole (n : Int) : (number (.whole n)).Fits := ⟨n, rfl⟩

theorem Fits.whole {n : Quantity} (h : (number n).Fits) : ∃ m, n = .whole m := by
  obtain ⟨m, hm⟩ := h
  cases n with
  | whole n => exact ⟨n, rfl⟩
  | truth b => cases hm
  | real x => cases hm

theorem fits_blank (kind : Kind) : kind.blank.Fits := by
  cases kind with
  | text => exact fits_text ""
  | number => exact fits_whole 0
  | boolean => exact fits_boolean false
  | list => exact fits_list ""

/-- A text gives a value of the type that there is. -/
theorem Fits.ofText {value : Value} (h : value.Fits) (given : String) :
    (value.ofText given).1.Fits := by
  cases value with
  | text s => exact fits_text given
  | list s => exact fits_list given
  | number n =>
    unfold Value.ofText
    dsimp only
    split
    · exact fits_whole _
    · split
      · exact h
      · exact fits_whole 0
  | boolean b =>
    unfold Value.ofText
    dsimp only
    split
    · exact h
    · exact fits_boolean _

/-- Whatever a document gives to a type fits it. -/
theorem fits_of_ofJson {kind : Kind} {raw : Json} {value : Value}
    (h : (Value.ofJson kind raw).Gives value) : value.Fits := by
  unfold Value.ofJson at h
  split at h
  · rw [h.of_pure]
    exact fits_blank kind
  · rw [h.of_pure]
    exact fits_boolean _
  · rw [h.of_pure]
    exact fits_whole _
  · obtain ⟨given, -, h⟩ := h.of_bind
    obtain ⟨_, -, h⟩ := h.of_bind
    rw [h.of_pure]
    exact (fits_blank kind).ofText given

end Value

theorem fits_of_read {members : Members} {v : Variable} (h : (read members).Gives v) :
    v.value.Fits := by
  -- The description is read in two ways, and what comes after it is the same.
  have hrest {kind : Kind} {raw : Json} {name description : String}
      (h : (do return ⟨name, ← Value.ofJson kind raw, description⟩ : Noting Variable).Gives v) :
      v.value.Fits := by
    obtain ⟨value, hvalue, h⟩ := h.of_bind
    rw [h.of_pure]
    exact Value.fits_of_ofJson hvalue
  unfold read at h
  obtain ⟨name, -, h⟩ := h.of_bind
  dsimp only at h
  split at h
  · exact hrest h
  · obtain ⟨description, -, h⟩ := h.of_bind
    exact hrest h

/-- **A change of the value alone**, to one that fits. -/
def Revalues (change? : Variable → Option Variable) : Prop :=
  ∀ v w, change? v = some w → ∃ value : Value, value.Fits ∧ w = v.withValue value

/-- **A change of what a list variable holds**, and of no other variable. -/
def ChangesList (change? : Variable → Option Variable) : Prop :=
  ∀ v w, change? v = some w →
    ∃ before after, v.value = .list before ∧ w = v.withValue (.list after)

theorem ChangesList.revalues {change? : Variable → Option Variable} (h : ChangesList change?) :
    Revalues change? := by
  intro v w hchange
  obtain ⟨-, after, -, rfl⟩ := h v w hchange
  exact ⟨.list after, Value.fits_list after, rfl⟩

theorem changesList_extend? (joint addition : String) :
    ChangesList (fun v => v.extend? joint addition) := by
  intro v w h
  dsimp only [extend?] at h
  split at h
  · next before hvalue =>
    cases h
    exact ⟨before, _, hvalue, rfl⟩
  · cases h

theorem changesList_removeAt? (index : Int) : ChangesList (fun v => v.removeAt? index) := by
  intro v w h
  dsimp only [removeAt?] at h
  split at h
  · next before hvalue =>
    split at h
    · cases h
      exact ⟨before, _, hvalue, rfl⟩
    · cases h
  · cases h

theorem changesList_clearList? : ChangesList clearList? := by
  intro v w h
  unfold clearList? at h
  split at h
  · next before hvalue =>
    cases h
    exact ⟨before, "", hvalue, rfl⟩
  · cases h

theorem isSome_removeAt? (v : Variable) (index : Int) :
    (v.removeAt? index).isSome = (0 ≤ index && index < Int.ofNat v.items.length) := by
  unfold removeAt?
  split
  · split
    · next hplace => exact hplace.symm
    · next hplace => exact (Bool.not_eq_true _ ▸ hplace).symm
  · next hlist =>
    -- What is no list has no items, so no place is one of theirs.
    have hitems : v.items = [] := by
      unfold items
      split
      · next s hvalue => exact absurd hvalue (hlist s)
      · rfl
    have hplace : ¬(0 ≤ index ∧ index < Int.ofNat ([] : List String).length) := by
      rw [List.length_nil, Int.ofNat_eq_natCast]
      omega
    rw [hitems, ← Bool.decide_and, decide_eq_false hplace]
    rfl

theorem revalues_toggle? : Revalues toggle? := by
  intro v w h
  unfold toggle? at h
  split at h
  · cases h
    exact ⟨_, Value.fits_boolean _, rfl⟩
  · cases h

end Variable

namespace Store

variable {store : Store} {name : String} {v w : Variable}

/-! ## Places -/

theorem find?_eq_none_iff : store.find? name = none ↔ name ∉ store.names := by
  unfold find? names
  rw [List.find?_eq_none]
  simp

/-- The variable of a name is the first one that has it. -/
theorem find?_eq_some_iff : store.find? name = some v ↔ v.name = name
    ∧ ∃ front back, store.entries = front ++ v :: back ∧ name ∉ front.map Variable.name := by
  unfold find?
  rw [List.find?_eq_some_iff_append, beq_iff_eq]
  simp

/-- If no two variables have one name, each is found under its own. -/
theorem find?_eq_some_iff_mem (h : store.names.Nodup) :
    store.find? name = some v ↔ v ∈ store.entries ∧ v.name = name := by
  rw [find?_eq_some_iff]
  constructor
  · rintro ⟨hname, front, back, hentries, -⟩
    exact ⟨hentries ▸ List.mem_append_right front List.mem_cons_self, hname⟩
  · rintro ⟨hmem, hname⟩
    obtain ⟨front, back, hentries⟩ := List.append_of_mem hmem
    refine ⟨hname, front, back, hentries, fun hfront => ?_⟩
    unfold names at h
    rw [hentries, List.map_append, List.map_cons, hname] at h
    exact List.disjoint_of_nodup_append h hfront List.mem_cons_self

/-- A variable takes the place of the first one with its name. -/
theorem putInto_append {front back : List Variable} (hfront : w.name ∉ front.map Variable.name)
    (hv : v.name = w.name) : putInto (front ++ v :: back) w = front ++ w :: back := by
  induction front with
  | nil =>
    rw [List.nil_append]
    unfold putInto
    rw [if_pos (by simpa using hv)]
    rfl
  | cons u front ih =>
    rw [List.map_cons, List.mem_cons, not_or] at hfront
    rw [List.cons_append]
    unfold putInto
    rw [if_neg (by simpa using Ne.symm hfront.1), ih hfront.2]
    rfl

theorem put_of_find? (h : store.find? w.name = some v) : ∃ front back,
    store.entries = front ++ v :: back ∧ (store.put w).entries = front ++ w :: back := by
  obtain ⟨hname, front, back, hentries, hfront⟩ := find?_eq_some_iff.1 h
  refine ⟨front, back, hentries, ?_⟩
  unfold put
  rw [hentries]
  exact putInto_append hfront hname

theorem put_of_find?_eq_none (h : store.find? w.name = none) :
    (store.put w).entries = store.entries ++ [w] :=
  putInto_of_not_mem (find?_eq_none_iff.1 h)

/-! ## What holds of every store -/

/-- **A store in order**: its variables are found under their names, no two of them have one name,
and each has a value that fits its type. -/
structure Sound (store : Store) : Prop where
  keyed : ∀ name v, store.find? name = some v ↔ v ∈ store.entries ∧ v.name = name
  unique : store.names.Nodup
  fits : ∀ v ∈ store.entries, v.value.Fits

theorem sound_of (hunique : store.names.Nodup) (hfits : ∀ v ∈ store.entries, v.value.Fits) :
    store.Sound :=
  ⟨fun _ _ => find?_eq_some_iff_mem hunique, hunique, hfits⟩

theorem sound_empty : empty.Sound :=
  sound_of List.nodup_nil fun _ h => absurd h List.not_mem_nil

theorem Sound.put (h : store.Sound) (hw : w.value.Fits) : (store.put w).Sound := by
  cases hfind : store.find? w.name with
  | some v =>
    -- The new variable bears the name of the one whose place it takes, so the names stay the same.
    obtain ⟨front, back, hbefore, hafter⟩ := put_of_find? hfind
    have hname : v.name = w.name := (find?_eq_some_iff.1 hfind).1
    have hnames : (store.put w).names = store.names := by
      unfold names
      rw [hbefore, hafter, List.map_append, List.map_append, List.map_cons, List.map_cons, hname]
    refine sound_of (hnames ▸ h.unique) fun u hu => ?_
    rw [hafter, List.mem_append, List.mem_cons] at hu
    have hfits := h.fits
    rw [hbefore] at hfits
    obtain hu | rfl | hu := hu
    · exact hfits u (List.mem_append_left _ hu)
    · exact hw
    · exact hfits u (List.mem_append_right _ (List.mem_cons_of_mem v hu))
  | none =>
    have hafter := put_of_find?_eq_none hfind
    refine sound_of ?_ fun u hu => ?_
    · unfold names
      rw [hafter, List.map_append]
      exact h.unique.append (List.nodup_singleton w.name)
        (List.disjoint_singleton.2 (find?_eq_none_iff.1 hfind))
    · rw [hafter, List.mem_append, List.mem_singleton] at hu
      obtain hu | rfl := hu
      · exact h.fits u hu
      · exact hw

theorem Sound.filter (h : store.Sound) (keep : Variable → Bool) :
    (⟨store.entries.filter keep⟩ : Store).Sound :=
  sound_of (h.unique.sublist (List.filter_sublist.map Variable.name))
    fun v hv => h.fits v (List.mem_filter.1 hv).1

theorem Sound.foldl_put {given : List Variable} (hgiven : ∀ v ∈ given, v.value.Fits)
    (h : store.Sound) : (given.foldl Store.put store).Sound := by
  induction given generalizing store with
  | nil => exact h
  | cons v given ih =>
    obtain ⟨hv, hgiven⟩ := List.forall_mem_cons.1 hgiven
    exact ih hgiven (h.put hv)

theorem fits_of_readVariable {item : Json} (h : (readVariable item).Gives (some v)) :
    v.value.Fits := by
  unfold readVariable at h
  split at h
  · split at h
    · cases h.of_pure
    · obtain ⟨w, hw, h⟩ := h.of_bind
      cases h.of_pure
      exact Variable.fits_of_read hw
  · cases h.of_pure

/-- **Whatever a document holds**, the store that is read from it is in order. -/
theorem sound_of_read {raw : Json} (h : (Store.read raw).Gives store) : store.Sound := by
  unfold Store.read at h
  split at h
  · obtain ⟨given, hgiven, h⟩ := h.of_bind
    rw [h.of_pure]
    refine sound_empty.foldl_put fun v hv => ?_
    obtain ⟨result, hresult, rfl⟩ := List.mem_filterMap.1 hv
    obtain ⟨item, hitem⟩ := hgiven.of_mapM _ hresult
    exact fits_of_readVariable hitem
  · rw [h.of_pure]
    exact sound_empty

/-! ## Operations -/

/-- What can be done to the variable of a name. -/
inductive Operation where
  | set (text : String) (kind : Option Variable.Kind)
  | increment (delta : Int)
  | incrementOrCreate (delta : Int)
  | appendText (addition : String)
  | clear
  | appendItem (item : String)
  | appendRow (row : String)
  | removeAt (index : Int)
  | clearList
  | toggle
  | remove
deriving DecidableEq, Repr

/-- Whether an operation can be done with what there is under its name. One adds to a number, one
takes an item out of a list, one takes the variable out; all others make the variable if need be. -/
def Operation.applies (found : Option Variable) : Operation → Bool
  | increment _ => found.any (fun v => v.kind == .number)
  | removeAt index => found.any (fun v => 0 ≤ index && index < Int.ofNat v.items.length)
  | remove => found.isSome
  | _ => true

/-- The store after an operation, unless the operation is refused. -/
def outcome (store : Store) (name : String) : Operation → Except Cause (Option Store)
  | .set text kind => .ok (some (store.set name text kind).1)
  | .increment delta => do return (← store.increment? name (.whole delta)).map Prod.fst
  | .incrementOrCreate delta => do return some (← store.incrementOrCreate name (.whole delta)).1
  | .appendText addition => do return some (← store.appendText name addition).1
  | .clear => .ok (some (store.clear name).1)
  | .appendItem item => .ok (some (store.appendItem name item).1)
  | .appendRow row => .ok (some (store.appendRow name row).1)
  | .removeAt index => .ok (store.removeAt? name index)
  | .clearList => .ok (some (store.clearList name).1)
  | .toggle => .ok (some (store.toggle name).1)
  | .remove => .ok (store.remove? name)

/-- What an operation answers, and the store that there is from then on. -/
def perform (store : Store) (name : String) (operation : Operation) :
    Except Cause Bool × Store :=
  match store.outcome name operation with
  | .ok (some after) => (.ok true, after)
  | .ok none => (.ok false, store)
  | .error cause => (.error cause, store)

theorem perform_of_done {operation : Operation} {after : Store}
    (h : store.outcome name operation = .ok (some after)) :
    store.perform name operation = (.ok true, after) := by
  unfold perform
  rw [h]

theorem perform_of_failed {operation : Operation} {cause : Cause}
    (h : store.outcome name operation = .error cause) :
    store.perform name operation = (.error cause, store) := by
  unfold perform
  rw [h]

/-- **A variable that may be put under a name**: it has the name, the description of the variable
that is there, and a value that fits its type. -/
structure Succeeds (store : Store) (name : String) (v : Variable) : Prop where
  name_eq : v.name = name
  description_eq : v.description = ((store.find? name).map Variable.description).getD ""
  fits : v.value.Fits

theorem Succeeds.withValue (h : store.Succeeds name v) {value : Variable.Value}
    (hvalue : value.Fits) : store.Succeeds name (v.withValue value) :=
  ⟨h.name_eq, h.description_eq, hvalue⟩

theorem Sound.succeeds (h : store.Sound) (hfind : store.find? name = some v) :
    store.Succeeds name v where
  name_eq := ((h.keyed name v).1 hfind).2
  description_eq := by rw [hfind]; rfl
  fits := h.fits v ((h.keyed name v).1 hfind).1

theorem succeeds_blank (hfind : store.find? name = none) (kind : Variable.Kind) :
    store.Succeeds name (Variable.blank name kind) where
  name_eq := rfl
  description_eq := by rw [hfind]; rfl
  fits := Variable.Value.fits_blank kind

theorem Sound.succeeds_demand (h : store.Sound) (name : String) (kind : Variable.Kind) :
    store.Succeeds name (store.demand name kind) := by
  unfold demand
  cases hfind : store.find? name with
  | some v =>
    dsimp only [Variable.ensureKind]
    split
    · exact h.succeeds hfind
    · exact (h.succeeds hfind).withValue (Variable.Value.fits_blank kind)
  | none => exact succeeds_blank hfind kind

theorem Sound.succeeds_update (h : store.Sound) (name : String) (kind : Variable.Kind)
    {change? : Variable → Option Variable} (hchange : Variable.Revalues change?) :
    store.Succeeds name (store.update name kind change?).2 := by
  have hdemand := h.succeeds_demand name kind
  dsimp only [update]
  cases hw : change? (store.demand name kind) with
  | some w =>
    obtain ⟨value, hvalue, rfl⟩ := hchange _ _ hw
    exact hdemand.withValue hvalue
  | none => exact hdemand

/-- **What can come of an operation.** -/
inductive Comes (store : Store) (name : String) (operation : Operation) :
    Except Cause (Option Store) → Prop
  | put {v : Variable} (h : store.Succeeds name v)
      (happlies : operation.applies (store.find? name) = true) :
      Comes store name operation (.ok (some (store.put v)))
  | removed (hoperation : operation = .remove)
      (happlies : operation.applies (store.find? name) = true) :
      Comes store name operation (.ok (some ⟨store.entries.filter (fun v => v.name != name)⟩))
  | refused (happlies : operation.applies (store.find? name) = false) :
      Comes store name operation (.ok none)
  /-- The number that text is appended to cannot be written. -/
  | failed {addition : String} {v : Variable} {cause : Cause}
      (hoperation : operation = .appendText addition) (hfind : store.find? name = some v)
      (hshow : v.value.show? = .error cause) : Comes store name operation (.error cause)

/-- A whole number is added to a number variable if there is one, and that cannot fail. -/
theorem Sound.increment?_cases (h : store.Sound) (name : String) (delta : Int) :
    (∃ v, store.Succeeds name v
        ∧ (Operation.increment delta).applies (store.find? name) = true
        ∧ store.increment? name (.whole delta) = .ok (some (store.put v, v)))
      ∨ (Operation.increment delta).applies (store.find? name) = false
        ∧ store.increment? name (.whole delta) = .ok none := by
  unfold increment? Operation.applies
  cases hfind : store.find? name with
  | none => exact .inr ⟨rfl, rfl⟩
  | some v =>
    have hv := h.succeeds hfind
    dsimp only [Option.any_some, Variable.kind]
    cases hvalue : v.value with
    | text s | boolean b | list s => exact .inr ⟨rfl, rfl⟩
    | number n =>
      -- Only because the number is a whole one is the sum whole, too, and sure to exist.
      have hfits := hv.fits
      rw [hvalue] at hfits
      obtain ⟨m, rfl⟩ := hfits.whole
      exact .inl ⟨_, hv.withValue (Variable.Value.fits_whole (m + delta)), rfl, rfl⟩

theorem Sound.comes_of_increment (h : store.Sound) (name : String) (delta : Int) :
    Comes store name (.increment delta) (store.outcome name (.increment delta)) := by
  unfold outcome
  dsimp only
  obtain ⟨v, hv, happlies, hincrement⟩ | ⟨happlies, hincrement⟩ := h.increment?_cases name delta
  · rw [hincrement]
    exact .put hv happlies
  · rw [hincrement]
    exact .refused happlies

theorem Sound.comes_of_incrementOrCreate (h : store.Sound) (name : String) (delta : Int) :
    Comes store name (.incrementOrCreate delta)
      (store.outcome name (.incrementOrCreate delta)) := by
  unfold outcome incrementOrCreate
  dsimp only
  obtain ⟨v, hv, -, hincrement⟩ | ⟨-, hincrement⟩ := h.increment?_cases name delta
  · rw [hincrement]
    exact .put hv rfl
  · rw [hincrement]
    exact .put ((h.succeeds_demand name .number).withValue (Variable.Value.fits_whole delta)) rfl

theorem Sound.comes_of_appendText (h : store.Sound) (name addition : String) :
    Comes store name (.appendText addition) (store.outcome name (.appendText addition)) := by
  have hput (front : String) : Comes store name (.appendText addition) (.ok (some (store.put
      ((store.demand name .text).withValue (.text (front ++ addition)))))) :=
    .put ((h.succeeds_demand name .text).withValue (Variable.Value.fits_text _)) rfl
  unfold outcome appendText text
  dsimp only
  cases hfind : store.find? name with
  | none => exact hput ""
  | some v =>
    dsimp only
    cases hshow : v.value.show? with
    | ok front => exact hput front
    | error cause => exact .failed rfl hfind hshow

theorem Sound.comes_of_clear (h : store.Sound) (name : String) :
    Comes store name .clear (store.outcome name .clear) := by
  unfold outcome clear
  dsimp only
  cases hfind : store.find? name with
  | some v => exact .put ((h.succeeds hfind).withValue (Variable.Value.fits_blank v.kind)) rfl
  | none => exact .put (succeeds_blank hfind .text) rfl

theorem Sound.comes_of_removeAt (h : store.Sound) (name : String) (index : Int) :
    Comes store name (.removeAt index) (store.outcome name (.removeAt index)) := by
  unfold outcome removeAt?
  dsimp only
  cases hfind : store.find? name with
  | none => exact .refused (by rw [hfind]; rfl)
  | some v =>
    have happlies : (Operation.removeAt index).applies (store.find? name)
        = (v.removeAt? index).isSome := by
      rw [hfind, Variable.isSome_removeAt?]
      rfl
    dsimp only [Option.bind_eq_bind, Option.bind_some]
    cases hw : v.removeAt? index with
    | none => exact .refused (by rw [happlies, hw]; rfl)
    | some w =>
      obtain ⟨value, hvalue, rfl⟩ := (Variable.changesList_removeAt? index).revalues v w hw
      exact .put ((h.succeeds hfind).withValue hvalue) (by rw [happlies, hw]; rfl)

/-- **What an operation can do**: it puts one variable under its name, takes one out, is refused, or
cannot write a number as text. -/
theorem Sound.comes (h : store.Sound) (name : String) (operation : Operation) :
    Comes store name operation (store.outcome name operation) := by
  cases operation with
  | set text kind =>
    have hdemand := h.succeeds_demand name (kind.getD (Variable.inferKind text))
    exact .put (hdemand.withValue (hdemand.fits.ofText text)) rfl
  | increment delta => exact h.comes_of_increment name delta
  | incrementOrCreate delta => exact h.comes_of_incrementOrCreate name delta
  | appendText addition => exact h.comes_of_appendText name addition
  | clear => exact h.comes_of_clear name
  | appendItem item =>
    exact .put (h.succeeds_update name .list (Variable.changesList_extend? _ item).revalues) rfl
  | appendRow row =>
    exact .put (h.succeeds_update name .list (Variable.changesList_extend? _ row).revalues) rfl
  | removeAt index => exact h.comes_of_removeAt name index
  | clearList => exact .put (h.succeeds_update name .list Variable.changesList_clearList?.revalues) rfl
  | toggle => exact .put (h.succeeds_update name .boolean Variable.revalues_toggle?) rfl
  | remove =>
    unfold outcome remove?
    dsimp only
    split
    · next hthere => exact .removed rfl hthere
    · next hthere => exact .refused (Bool.not_eq_true _ ▸ hthere)

/-! ## Stores that are reached -/

/-- **A store that is reached** from what a document holds, by any operations. -/
inductive Reached : Store → Prop
  | read {raw : Json} {store : Store} (h : (Store.read raw).Gives store) : Reached store
  | perform {store : Store} (h : Reached store) (name : String) (operation : Operation) :
      Reached (store.perform name operation).2

theorem Sound.perform (h : store.Sound) (name : String) (operation : Operation) :
    (store.perform name operation).2.Sound := by
  have hcomes := h.comes name operation
  unfold Store.perform
  revert hcomes
  generalize store.outcome name operation = outcome
  rintro (⟨hv, -⟩ | _ | _ | _)
  · exact h.put hv.fits
  · exact h.filter _
  · exact h
  · exact h

theorem Reached.sound (h : Reached store) : store.Sound := by
  induction h with
  | read h => exact sound_of_read h
  | perform _ name operation ih => exact ih.perform name operation

/-- A store that is reached is read back from its document, if no name in it is empty. -/
theorem Reached.keepable (h : Reached store) (hnamed : "" ∉ store.names) : store.Keepable where
  names := h.sound.unique
  entries v hv :=
    { named := fun hblank => hnamed (List.mem_map.2 ⟨v, hv, hblank⟩)
      typed := fun n hn => by
        have hfits := h.sound.fits v hv
        rw [hn] at hfits
        exact hfits.whole }

/-- **What an operation at a name does to the variables**: it changes, adds or takes out one, and
everything else stays in its place. -/
inductive Framed (name : String) (operation : Operation) : List Variable → List Variable → Prop
  | changed (front back : List Variable) {v w : Variable} (hv : v.name = name) (hw : w.name = name)
      (hdescription : w.description = v.description) :
      Framed name operation (front ++ v :: back) (front ++ w :: back)
  | added (vs : List Variable) {w : Variable} (happlies : operation.applies none = true)
      (hnew : name ∉ vs.map Variable.name) (hw : w.name = name)
      (hdescription : w.description = "") :
      Framed name operation vs (vs ++ [w])
  | removed (front back : List Variable) {v : Variable} (hoperation : operation = .remove)
      (hv : v.name = name) : Framed name operation (front ++ v :: back) (front ++ back)

theorem framed_put {operation : Operation} (h : store.Succeeds name v)
    (happlies : operation.applies (store.find? name) = true) :
    Framed name operation store.entries (store.put v).entries := by
  have hname : v.name = name := h.name_eq
  subst hname
  cases hfind : store.find? v.name with
  | some w =>
    obtain ⟨front, back, hbefore, hafter⟩ := put_of_find? hfind
    have hdescription : v.description = w.description := by
      have h := h.description_eq
      rwa [hfind] at h
    rw [hbefore, hafter]
    exact .changed front back (find?_eq_some_iff.1 hfind).1 rfl hdescription
  | none =>
    have hdescription : v.description = "" := by
      have h := h.description_eq
      rwa [hfind] at h
    rw [put_of_find?_eq_none hfind]
    rw [hfind] at happlies
    exact .added store.entries happlies (find?_eq_none_iff.1 hfind) rfl hdescription

/-- What stays when the variables of a name are taken out, if there is only one. -/
theorem Sound.filter_eq (h : store.Sound) {front back : List Variable}
    (hentries : store.entries = front ++ v :: back) :
    store.entries.filter (fun w => w.name != v.name) = front ++ back := by
  have hunique := h.unique
  unfold names at hunique
  rw [hentries, List.map_append, List.map_cons, List.nodup_middle, List.nodup_cons] at hunique
  have hother (w : Variable) (hw : w ∈ front ++ back) : (w.name != v.name) = true := by
    refine bne_iff_ne.2 fun hname => hunique.1 ?_
    rw [← List.map_append, ← hname]
    exact List.mem_map_of_mem hw
  have hv : (v :: back).filter (fun w => w.name != v.name)
      = back.filter (fun w => w.name != v.name) := List.filter_cons_of_neg (by simp)
  rw [hentries, List.filter_append, hv, ← List.filter_append, List.filter_eq_self.2 hother]

theorem Sound.framed_filter (h : store.Sound) (hthere : (store.find? name).isSome = true) :
    Framed name .remove store.entries (store.entries.filter (fun v => v.name != name)) := by
  obtain ⟨v, hfind⟩ := Option.isSome_iff_exists.1 hthere
  obtain ⟨hname, front, back, hentries, -⟩ := find?_eq_some_iff.1 hfind
  subst hname
  rw [h.filter_eq hentries, hentries]
  exact .removed front back rfl rfl

/-- **Operations are confined to the variable that they name.** A store that is reached from any
document by any operations is in order. The next operation, if it is done, changes the variable that
it names, which keeps its place and its description, or puts a new one at the end, or takes it out;
if it is not done, the store stays as it is. It is refused just if it cannot be done with what there
is, and it fails only where a text is appended to a number that cannot be written. -/
theorem operations_confined (h : Reached store) (name : String) (operation : Operation) :
    store.Sound
      ∧ ((store.perform name operation).1 = .ok true →
          Framed name operation store.entries (store.perform name operation).2.entries)
      ∧ ((store.perform name operation).1 ≠ .ok true → (store.perform name operation).2 = store)
      ∧ ((store.perform name operation).1 = .ok false ↔
          operation.applies (store.find? name) = false)
      ∧ ∀ cause, (store.perform name operation).1 = .error cause → ∃ addition v,
          operation = .appendText addition ∧ store.find? name = some v
            ∧ v.value.show? = .error cause := by
  refine ⟨h.sound, ?_⟩
  have hcomes := h.sound.comes name operation
  unfold Store.perform
  -- What comes of the operation is all that the answer and the store afterwards depend on.
  revert hcomes
  generalize store.outcome name operation = outcome
  rintro (⟨hv, happlies⟩ | ⟨rfl, happlies⟩ | happlies | ⟨hoperation, hfind, hshow⟩)
  · exact ⟨fun _ => framed_put hv happlies, fun hnot => absurd rfl hnot,
      iff_of_false nofun (by simp [happlies]), nofun⟩
  · exact ⟨fun _ => h.sound.framed_filter happlies, fun hnot => absurd rfl hnot,
      iff_of_false nofun (by simp [happlies]), nofun⟩
  · exact ⟨nofun, fun _ => rfl, iff_of_true rfl happlies, nofun⟩
  · have happlies : operation.applies (store.find? name) = true := by
      rw [hoperation]
      rfl
    refine ⟨nofun, fun _ => rfl, iff_of_false nofun (by simp [happlies]), fun cause hcause => ?_⟩
    cases hcause
    exact ⟨_, _, hoperation, hfind, hshow⟩

/-- Variables as a document may hold them: texts where numbers are due, and what is no variable. -/
def sampleDocument : Json :=
  .list [
    .object [("name", .text "count"), ("type", .text "Number"), ("value", .text " 7 "),
      ("description", .text "how many")],
    .object [("name", .text "done"), ("type", .text "boolean"), ("value", .bool true)],
    .int 3]

/-- After the document was read and text was appended to a truth value: a number goes up in its
place, a new list comes last, and nothing is taken out of a number. -/
theorem operations_confined_sample :
    let before : Store :=
      ⟨[⟨"count", .number (.whole 7), "how many"⟩, ⟨"done", .text "True!", ""⟩]⟩
    before.Sound
      ∧ Framed "count" (.increment 5) before.entries
          [⟨"count", .number (.whole 12), "how many"⟩, ⟨"done", .text "True!", ""⟩]
      ∧ Framed "log" (.appendItem "a") before.entries
          (before.entries ++ [⟨"log", .list "a", ""⟩])
      ∧ (before.perform "count" (.removeAt 0)).2 = before := by
  intro before
  have hread : (Store.read sampleDocument).Gives
      ⟨[⟨"count", .number (.whole 7), "how many"⟩, ⟨"done", .boolean true, ""⟩]⟩ :=
    Noting.gives_of_run rfl
  have hreached : Reached before := (Reached.read hread).perform "done" (.appendText "!")
  exact ⟨(operations_confined hreached "count" .clear).1,
    (operations_confined hreached "count" (.increment 5)).2.1 rfl,
    (operations_confined hreached "log" (.appendItem "a")).2.1 rfl,
    (operations_confined hreached "count" (.removeAt 0)).2.2.1 nofun⟩

end Store
end DesktopMacro
