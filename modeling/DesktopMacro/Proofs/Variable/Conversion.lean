/-
What a conversion forgets.

Most operations work on one type. On a variable of another type they start over from the blank value
of theirs, so two stores that differ in the value of that variable alone are one store afterwards.
Appending a text is the one operation that takes something along, and that is what the variable
showed: two stores are one afterwards just if the variable showed the same in both. Where no text is
given to an operation, it is given the empty one.
-/
import DesktopMacro.Proofs.Variable.Composition

set_option autoImplicit false

namespace DesktopMacro

namespace Variable

/-- The type of a value stays when a text is read into it. -/
theorem kind_ofText (value : Value) (given : String) : (value.ofText given).1.kind = value.kind := by
  cases value with
  | text s | list s => rfl
  | number n =>
    unfold Value.ofText
    dsimp only
    split
    · rfl
    · split <;> rfl
  | boolean b =>
    unfold Value.ofText
    dsimp only
    split <;> simp only [Value.kind]

/-- **A change that keeps the type**, and everything but the value. -/
def KeepsKind (change? : Variable → Option Variable) : Prop :=
  ∀ v w, change? v = some w → w.name = v.name ∧ w.kind = v.kind

theorem ChangesList.keepsKind {change? : Variable → Option Variable} (h : ChangesList change?) :
    KeepsKind change? := by
  intro v w hchange
  obtain ⟨before, after, hvalue, rfl⟩ := h v w hchange
  exact ⟨rfl, (congrArg Value.kind hvalue).symm⟩

theorem keepsKind_toggle? : KeepsKind toggle? := by
  intro v w h
  unfold toggle? at h
  split at h
  · next hvalue =>
    cases h
    exact ⟨rfl, (congrArg Value.kind hvalue).symm⟩
  · cases h

/-- The same for a change that is skipped where it is refused. -/
theorem KeepsKind.getD {change? : Variable → Option Variable} (h : KeepsKind change?)
    (v : Variable) : ((change? v).getD v).name = v.name ∧ ((change? v).getD v).kind = v.kind := by
  cases hchange : change? v with
  | none => exact ⟨rfl, rfl⟩
  | some w => exact h v w hchange

end Variable

namespace Store

variable {store other : Store} {name : String} {v : Variable} {operation : Operation}

/-! ## The types that operations work on -/

/-- **The type that an operation works on**, if it does not work on every type. -/
def Operation.target? : Operation → Option Variable.Kind
  | set text kind => some (kind.getD (Variable.inferKind text))
  | incrementOrCreate _ => some .number
  | appendText _ => some .text
  | appendItem _ | appendRow _ | clearList => some .list
  | toggle => some .boolean
  | increment _ | clear | removeAt _ | remove => none

/-- A variable of another type is demanded: there is nothing left of its value. -/
theorem demand_of_kind_ne (hfind : store.find? name = some v) {kind : Variable.Kind}
    (hkind : v.kind ≠ kind) : store.demand name kind = v.convert kind := by
  unfold demand
  rw [hfind]
  exact if_neg hkind

theorem increment?_of_kind_ne (hfind : store.find? name = some v) (hkind : v.kind ≠ .number)
    (delta : Quantity) : store.increment? name delta = .ok none := by
  unfold increment?
  rw [hfind]
  dsimp only
  split
  · next hvalue => exact absurd (congrArg Variable.Value.kind hvalue) hkind
  · rfl

/-- **What an operation makes of a variable that it converts**: it starts from the variable with the
blank value of the type. -/
def Makes (operation : Operation) (kind : Variable.Kind) (make : Variable → Variable) : Prop :=
  (∀ v, (make v).name = v.name) ∧
    ∀ {store : Store} {name : String} {v : Variable}, store.find? name = some v → v.kind ≠ kind →
      store.outcome name operation = .ok (some (store.put (make (v.convert kind))))

/-- Lists and truth values are changed by one pattern. -/
theorem makes_update {kind : Variable.Kind} {change? : Variable → Option Variable}
    (hchange : Variable.KeepsKind change?)
    (hoperation : ∀ (store : Store) (name : String),
      store.outcome name operation = .ok (some (store.update name kind change?).1)) :
    Makes operation kind (fun v => (change? v).getD v) := by
  refine ⟨fun v => (hchange.getD v).1, ?_⟩
  intro store name v hfind hkind
  rw [hoperation]
  unfold update
  rw [demand_of_kind_ne hfind hkind]

/-- **An operation that converts starts over.** -/
theorem exists_makes {kind : Variable.Kind} (htarget : operation.target? = some kind)
    (happend : ∀ addition, operation ≠ .appendText addition) :
    ∃ make, Makes operation kind make := by
  cases operation with
  | set text given =>
    cases htarget
    refine ⟨fun v => (v.assign text).1, fun v => rfl, ?_⟩
    intro store name v hfind hkind
    unfold outcome set
    dsimp only
    rw [demand_of_kind_ne hfind hkind]
  | incrementOrCreate delta =>
    cases htarget
    refine ⟨fun v => v.withValue (.number (.whole delta)), fun v => rfl, ?_⟩
    intro store name v hfind hkind
    unfold outcome incrementOrCreate
    dsimp only
    rw [increment?_of_kind_ne hfind hkind, demand_of_kind_ne hfind hkind]
    rfl
  | appendText addition => exact absurd rfl (happend addition)
  | appendItem item =>
    cases htarget
    exact ⟨_, makes_update (Variable.changesList_extend? _ item).keepsKind fun _ _ => rfl⟩
  | appendRow row =>
    cases htarget
    exact ⟨_, makes_update (Variable.changesList_extend? _ row).keepsKind fun _ _ => rfl⟩
  | clearList =>
    cases htarget
    exact ⟨_, makes_update Variable.changesList_clearList?.keepsKind fun _ _ => rfl⟩
  | toggle =>
    cases htarget
    exact ⟨_, makes_update Variable.keepsKind_toggle? fun _ _ => rfl⟩
  | increment delta | clear | removeAt index | remove => cases htarget

/-- What comes of adding to a variable: it is refused, it fails, or a number variable has a number
again. -/
theorem increment?_cases (hfind : store.find? name = some v) (delta : Quantity) :
    store.increment? name delta = .ok none
      ∨ (∃ cause, store.increment? name delta = .error cause)
      ∨ ∃ sum, v.kind = .number ∧ store.increment? name delta
        = .ok (some (store.put (v.withValue (.number sum)), v.withValue (.number sum))) := by
  unfold increment?
  rw [hfind]
  dsimp only
  split
  · next n hvalue =>
    cases hadd : n.add delta with
    | error cause => exact .inr (.inl ⟨cause, rfl⟩)
    | ok sum => exact .inr (.inr ⟨sum, congrArg Variable.Value.kind hvalue, rfl⟩)
  · exact .inl rfl

/-- **An operation that need not convert keeps the type** of the variable, unless it takes the
variable out. -/
theorem kind_perform (hfind : store.find? name = some v) (hremove : operation ≠ .remove)
    (htarget : ∀ kind, operation.target? = some kind → v.kind = kind) :
    ((store.perform name operation).2.find? name).map Variable.kind = some v.kind := by
  have hsame : (store.find? name).map Variable.kind = some v.kind := by rw [hfind]; rfl
  have hput {w : Variable} (hname : w.name = name) (hkind : w.kind = v.kind) :
      ((store.put w).find? name).map Variable.kind = some v.kind := by
    rw [← hname, find?_put_self]
    exact congrArg some hkind
  have hname : v.name = name := (find?_eq_some_iff.1 hfind).1
  have hupdate {kind : Variable.Kind} {change? : Variable → Option Variable} (hkind : v.kind = kind)
      (hchange : Variable.KeepsKind change?) :
      ((store.update name kind change?).1.find? name).map Variable.kind = some v.kind := by
    obtain ⟨hgivenName, hgivenKind⟩ := hchange.getD (store.demand name kind)
    exact hput (hgivenName.trans (store.name_demand name kind))
      (hgivenKind.trans ((store.kind_demand name kind).trans hkind.symm))
  cases operation with
  | set text given =>
    have hkind := store.kind_demand name (given.getD (Variable.inferKind text))
    exact hput (store.name_demand name _)
      ((Variable.kind_ofText _ text).trans (hkind.trans (htarget _ rfl).symm))
  | increment delta =>
    unfold perform outcome
    dsimp only
    obtain hincrement | ⟨cause, hincrement⟩ | ⟨sum, hkind, hincrement⟩ :=
      increment?_cases hfind (.whole delta) <;> rw [hincrement]
    · exact hsame
    · exact hsame
    · exact hput hname hkind.symm
  | incrementOrCreate delta =>
    unfold perform outcome incrementOrCreate
    dsimp only
    obtain hincrement | ⟨cause, hincrement⟩ | ⟨sum, hkind, hincrement⟩ :=
      increment?_cases hfind (.whole delta) <;> rw [hincrement]
    · exact hput (store.name_demand name .number) (htarget _ rfl).symm
    · exact hsame
    · exact hput hname hkind.symm
  | appendText addition =>
    unfold perform outcome appendText
    dsimp only
    cases store.text name "" with
    | error cause => exact hsame
    | ok front => exact hput (store.name_demand name .text) (htarget _ rfl).symm
  | clear =>
    have hblank : v.kind.blank.kind = v.kind := by cases v.kind <;> rfl
    unfold perform outcome clear
    dsimp only
    rw [hfind]
    exact hput hname hblank
  | appendItem item => exact hupdate (htarget _ rfl) (Variable.changesList_extend? _ item).keepsKind
  | appendRow row => exact hupdate (htarget _ rfl) (Variable.changesList_extend? _ row).keepsKind
  | removeAt index =>
    unfold perform outcome removeAt?
    dsimp only
    rw [hfind]
    dsimp only [Option.bind_eq_bind, Option.bind_some]
    cases hw : v.removeAt? index with
    | none => exact hsame
    | some w =>
      obtain ⟨hwName, hwKind⟩ := (Variable.changesList_removeAt? index).keepsKind v w hw
      exact hput (hwName.trans hname) hwKind
  | clearList => exact hupdate (htarget _ rfl) Variable.changesList_clearList?.keepsKind
  | toggle => exact hupdate (htarget _ rfl) Variable.keepsKind_toggle?
  | remove => exact absurd rfl hremove

/-! ## Two stores -/

/-- **Two stores that differ in the value of one variable** at most: its name, its type, its
description and its place are the same, and so is every other variable. -/
inductive DiffersAt (name : String) : Store → Store → Prop
  | intro (front back : List Variable) {v : Variable} {value : Variable.Value}
      (hname : v.name = name) (hkind : value.kind = v.kind)
      (hfront : name ∉ front.map Variable.name) :
      DiffersAt name ⟨front ++ v :: back⟩ ⟨front ++ v.withValue value :: back⟩

/-- Both stores have the variable, and whatever is put in its place makes them one. -/
theorem DiffersAt.finds (h : DiffersAt name store other) : ∃ v value,
    value.kind = v.kind ∧ store.find? name = some v
      ∧ other.find? name = some (v.withValue value)
      ∧ ∀ w : Variable, w.name = name → store.put w = other.put w := by
  obtain @⟨front, back, v, value, hname, hkind, hfront⟩ := h
  refine ⟨v, value, hkind, find?_eq_some_iff.2 ⟨hname, front, back, rfl, hfront⟩,
    find?_eq_some_iff.2 ⟨hname, front, back, rfl, hfront⟩, ?_⟩
  rintro w rfl
  have hplace {u : Variable} (hu : u.name = w.name) :
      putInto (front ++ u :: back) w = front ++ w :: back := putInto_append hfront hu
  have hother : (v.withValue value).name = w.name := hname
  exact congrArg Store.mk ((hplace hname).trans (hplace hother).symm)

/-- Without the variable the stores are one. -/
theorem DiffersAt.perform_remove (h : DiffersAt name store other) :
    store.perform name .remove = other.perform name .remove := by
  have hrest : store.entries.filter (fun v => v.name != name)
      = other.entries.filter (fun v => v.name != name) := by
    obtain ⟨front, back, hname, -, -⟩ := h
    simp [hname, Variable.withValue]
  have hremove {store : Store} {v : Variable} (hfind : store.find? name = some v) :
      store.perform name .remove
        = (.ok true, ⟨store.entries.filter (fun v => v.name != name)⟩) := by
    have hcontains : store.contains name = true := by
      unfold contains
      rw [hfind]
      rfl
    refine perform_of_done ?_
    unfold outcome remove?
    dsimp only
    rw [if_pos hcontains]
  obtain ⟨v, value, -, hfind, hother, -⟩ := h.finds
  rw [hremove hfind, hremove hother, hrest]

/-- **A conversion goes the same way in both stores**, if no text is appended. -/
theorem DiffersAt.perform_eq (h : DiffersAt name store other) {kind : Variable.Kind}
    (htarget : operation.target? = some kind)
    (hkind : ∀ v, store.find? name = some v → v.kind ≠ kind)
    (happend : ∀ addition, operation ≠ .appendText addition) :
    store.perform name operation = other.perform name operation := by
  obtain ⟨v, value, hvalue, hfind, hother, hput⟩ := h.finds
  obtain ⟨make, hname, hmake⟩ := exists_makes htarget happend
  have hne : v.kind ≠ kind := hkind v hfind
  have hne' : (v.withValue value).kind ≠ kind := fun heq => hne (hvalue.symm.trans heq)
  have hmade : (make (v.convert kind)).name = name :=
    (hname _).trans (find?_eq_some_iff.1 hfind).1
  -- Both conversions end with the blank value, so the same is made of it.
  have hsecond := hmake hother hne'
  rw [perform_of_done (hmake hfind hne), hput _ hmade, perform_of_done hsecond]
  rfl

/-- Text that is appended goes behind what the variable shows, so the stores are one afterwards just
if it shows the same. -/
theorem DiffersAt.perform_appendText_iff (h : DiffersAt name store other)
    (hkind : ∀ v, store.find? name = some v → v.kind ≠ .text) {shown : String}
    (hshown : store.text name "" = .ok shown) (addition : String) :
    (store.perform name (.appendText addition)).2 = (other.perform name (.appendText addition)).2
      ↔ store.text name "" = other.text name "" := by
  have hafter := text_perform_appendText hshown addition
  constructor
  · -- What is shown afterwards tells what was shown before.
    intro hsame
    rw [hsame] at hafter
    cases hother : other.text name "" with
    | error cause =>
      rw [perform_appendText_error hother, hother] at hafter
      cases hafter
    | ok shown' =>
      rw [text_perform_appendText hother] at hafter
      have hends : shown' ++ addition = shown ++ addition := by injection hafter
      rw [hshown, (String.append_left_inj addition).1 hends]
  · intro htext
    obtain ⟨v, value, hvalue, hfind, hother, hput⟩ := h.finds
    have hne : v.kind ≠ .text := hkind v hfind
    have hne' : (v.withValue value).kind ≠ .text := fun heq => hne (hvalue.symm.trans heq)
    rw [perform_appendText hshown, perform_appendText (htext ▸ hshown),
      demand_of_kind_ne hfind hne, demand_of_kind_ne hother hne']
    exact hput _ (find?_eq_some_iff.1 hfind).1

/-- **A conversion forgets.** If an operation changes the type of a variable, two stores that differ
in the value of that variable alone are one store afterwards. Appending a text is the only operation
for which they may differ, and then they are one store just if the variable showed the same. -/
theorem conversion_forgets (operation : Operation) (h : DiffersAt name store other)
    (hchange : ((store.perform name operation).2.find? name).map Variable.kind
      ≠ (store.find? name).map Variable.kind) :
    ((∀ addition, operation ≠ .appendText addition) →
        store.perform name operation = other.perform name operation)
      ∧ ∀ addition, operation = .appendText addition →
        ((store.perform name operation).2 = (other.perform name operation).2
          ↔ store.text name "" = other.text name "") := by
  obtain ⟨v, value, -, hfind, -, -⟩ := h.finds
  rw [hfind, Option.map_some] at hchange
  by_cases hremove : operation = .remove
  · subst hremove
    exact ⟨fun _ => h.perform_remove, nofun⟩
  · -- The operation works on a type that the variable has not.
    obtain ⟨kind, htarget, hkind⟩ : ∃ kind, operation.target? = some kind ∧ v.kind ≠ kind := by
      by_contra hnone
      refine hchange (kind_perform hfind hremove fun kind htarget => ?_)
      by_contra hne
      exact hnone ⟨kind, htarget, hne⟩
    have hother : ∀ w, store.find? name = some w → w.kind ≠ kind := by
      intro w hw
      rw [hfind] at hw
      cases hw
      exact hkind
    refine ⟨h.perform_eq htarget hother, ?_⟩
    rintro addition rfl
    cases htarget
    cases htext : store.text name "" with
    | ok shown => exact htext ▸ h.perform_appendText_iff hother htext addition
    | error cause =>
      rw [perform_appendText_error htext, hfind] at hchange
      exact absurd rfl hchange

/-- Two numbers: an empty text read as a truth value does not tell them apart, though it leaves a
truth value as it is, and a text behind them does. -/
theorem conversion_forgets_number :
    let store (n : Int) : Store :=
      ⟨[⟨"a", .text "", ""⟩, ⟨"x", .number (.whole n), "kept"⟩, ⟨"b", .list "", ""⟩]⟩
    DiffersAt "x" (store 1) (store 2)
      ∧ (store 1).perform "x" (.set "" (some .boolean))
        = (store 2).perform "x" (.set "" (some .boolean))
      ∧ ((store 1).perform "x" (.appendText "!")).2
        ≠ ((store 2).perform "x" (.appendText "!")).2 := by
  intro store
  have hdiffers : DiffersAt "x" (store 1) (store 2) :=
    .intro [⟨"a", .text "", ""⟩] [⟨"b", .list "", ""⟩] rfl rfl (by decide)
  have hset := (conversion_forgets (.set "" (some .boolean)) hdiffers (by decide)).1
  have happend := (conversion_forgets (.appendText "!") hdiffers (by decide)).2
  refine ⟨hdiffers, hset nofun, fun hsame => ?_⟩
  have htext : (.ok "1" : Except Cause String) = .ok "2" := (happend "!" rfl).1 hsame
  injection htext with htext
  exact absurd htext (by decide)

end Store
end DesktopMacro
