/-
What is in a variable once it has been set to a text.

A variable is set in a type that is asked for, or else in the type that the text suggests. Either
way the text decides alone: what the variable held before does not show in its value. In a text
variable the text is then as it was. In one whose type was inferred, a truth word and a number are
in their usual spelling, and any other text, a list among them, is as it was.
-/
import DesktopMacro.Proofs.Number.Writable
import DesktopMacro.Proofs.Variable.Operations

set_option autoImplicit false

namespace DesktopMacro

namespace Variable

/-! ## Values -/

/-- The value that a text suggests. -/
def Value.suggested (text : String) : Value :=
  match inferKind text with
  | .boolean => .boolean (Text.lower (Text.trim text) == "true")
  | .number => .number (.whole ((numberOf? text).getD 0))
  | .list => .list text
  | .text => .text text

/-- **A text as a variable hands it on**: a truth word and a number in their usual spelling, and
anything else as it is. -/
def handedOn (text : String) : String :=
  match inferKind text with
  | .boolean => if Text.lower (Text.trim text) == "true" then "True" else "False"
  | .number => Integer.toText ((numberOf? text).getD 0)
  | .list | .text => text

theorem isTruthWord_of_inferKind {text : String} (h : inferKind text = .boolean) :
    isTruthWord (Text.lower (Text.trim text)) = true := by
  by_contra hword
  simp only [inferKind, if_neg hword] at h
  split at h
  · cases h
  · split at h <;> cases h

theorem numberOf?_of_inferKind {text : String} (h : inferKind text = .number) :
    ∃ n, numberOf? text = some n := by
  refine Option.isSome_iff_exists.1 (by_contra fun hnumber => ?_)
  simp only [inferKind, if_neg hnumber] at h
  split at h
  · cases h
  · split at h <;> cases h

/-- A text that is neither a truth word nor a number is handed on as it is. -/
theorem handedOn_of_plain {text : String}
    (hword : isTruthWord (Text.lower (Text.trim text)) = false) (hnumber : numberOf? text = none) :
    handedOn text = text := by
  have hkind : inferKind text = if text.toList.contains separator then .list else .text := by
    simp [inferKind, hword, hnumber]
  unfold handedOn
  rw [hkind]
  by_cases hlist : text.toList.contains separator = true
  · rw [if_pos hlist]
  · rw [if_neg hlist]

/-- A number that a text stands for can be written. -/
theorem isWritable_of_numberOf? {text : String} {n : Int} (h : numberOf? text = some n) :
    Integer.IsWritable n := by
  unfold numberOf? at h
  cases hread : Integer.read (Text.trim text) with
  | ok m =>
    rw [hread] at h
    cases h
    exact Integer.isWritable_of_read hread
  | error fault =>
    rw [hread] at h
    cases h

/-- A whole number is shown if it can be written. -/
theorem show?_whole (n : Int) : (Value.number (.whole n)).show?
    = if Integer.IsWritable n then .ok (Integer.toText n) else .error .numberUnwritable := by
  have hdisplay : (Json.int n).display = Integer.toText n := by
    simp [Json.display, Json.quoted, Json.quotedChars]
  show (Json.int n).asText = _
  unfold Json.asText Json.isWritable
  rw [hdisplay]
  by_cases hwritable : Integer.IsWritable n
  · rw [if_pos hwritable, if_pos (decide_eq_true hwritable)]
  · rw [if_neg hwritable, if_neg (by simpa using hwritable)]

/-- **What a text suggests is shown as the text is handed on.** -/
theorem show?_suggested (text : String) :
    (Value.suggested text).show? = .ok (handedOn text) := by
  unfold Value.suggested handedOn
  cases hkind : inferKind text with
  | text | list | boolean => rfl
  | number =>
    obtain ⟨n, hn⟩ := numberOf?_of_inferKind hkind
    simp only [hn, Option.getD_some]
    rw [show?_whole, if_pos (isWritable_of_numberOf? hn)]

@[simp] theorem name_withValue (v : Variable) (value : Value) :
    (v.withValue value).name = v.name := rfl

@[simp] theorem value_withValue (v : Variable) (value : Value) :
    (v.withValue value).value = value := rfl

@[simp] theorem kind_withValue (v : Variable) (value : Value) :
    (v.withValue value).kind = value.kind := rfl

@[simp] theorem withValue_self (v : Variable) : v.withValue v.value = v := rfl

theorem value_assign (v : Variable) (text : String) :
    (v.assign text).1.value = (v.value.ofText text).1 := rfl

/-- **The text decides alone**: the value that it takes the place of leaves no trace, and nothing
has to be noted. -/
theorem ofText_of_kind {current : Value} {text : String} (h : current.kind = inferKind text) :
    current.ofText text = (Value.suggested text, []) := by
  unfold Value.suggested
  rw [← h]
  cases current with
  | text s | list s => rfl
  | number n =>
    obtain ⟨m, hm⟩ := numberOf?_of_inferKind h.symm
    simp only [Value.ofText, Value.kind, hm, Option.getD_some]
  | boolean b =>
    have hword := isTruthWord_of_inferKind h.symm
    have hsome : text.isEmpty = false := by
      refine Bool.eq_false_iff.2 fun hempty => ?_
      rw [String.isEmpty_iff.1 hempty] at hword
      exact absurd hword (by decide)
    simp only [Value.ofText, Value.kind, hsome]
    -- A truth word is none of the other words that count as a yes.
    simp only [isTruthWord, Bool.or_eq_true, beq_iff_eq] at hword
    obtain hword | hword := hword <;> rw [hword] <;> rfl

end Variable

namespace Store

variable {store : Store} {name : String}

/-! ## Looking up what was put -/

theorem find?_put_self (store : Store) (v : Variable) : (store.put v).find? v.name = some v := by
  rw [find?_eq_some_iff]
  refine ⟨rfl, ?_⟩
  cases hfind : store.find? v.name with
  | some w =>
    obtain ⟨hname, front, back, hentries, hfront⟩ := find?_eq_some_iff.1 hfind
    refine ⟨front, back, ?_, hfront⟩
    unfold put
    rw [hentries]
    exact putInto_append hfront hname
  | none => exact ⟨store.entries, [], put_of_find?_eq_none hfind, find?_eq_none_iff.1 hfind⟩

/-- Of two variables of one name, the one that is put last stays. -/
theorem put_put (store : Store) {v w : Variable} (h : v.name = w.name) :
    (store.put v).put w = store.put w := by
  cases hfind : store.find? v.name with
  | some u =>
    obtain ⟨hname, front, back, hentries, hfront⟩ := find?_eq_some_iff.1 hfind
    have hfront' : w.name ∉ front.map Variable.name := h ▸ hfront
    unfold put
    rw [hentries, putInto_append hfront hname, putInto_append hfront' h,
      putInto_append hfront' (hname.trans h)]
  | none =>
    have hnew : w.name ∉ store.entries.map Variable.name := find?_eq_none_iff.1 (h ▸ hfind)
    have hlast : putInto (store.put v).entries w = store.entries ++ [w] := by
      rw [put_of_find?_eq_none hfind]
      exact putInto_append hnew h
    exact congrArg Store.mk (hlast.trans (put_of_find?_eq_none (h ▸ hfind)).symm)

theorem find?_put_of_ne (store : Store) {v : Variable} (h : name ≠ v.name) :
    (store.put v).find? name = store.find? name := by
  have hne : (v.name == name) = false := by simpa using h.symm
  unfold find?
  cases hfind : store.find? v.name with
  | some w =>
    obtain ⟨front, back, hbefore, hafter⟩ := put_of_find? hfind
    have hw : (w.name == name) = false := by rw [(find?_eq_some_iff.1 hfind).1, hne]
    simp only [hbefore, hafter, List.find?_append, List.find?_cons, hne, hw]
  | none => simp [put_of_find?_eq_none hfind, List.find?_append, hne]

/-! ## Setting -/

variable {kind : Option Variable.Kind}

theorem name_demand (store : Store) (name : String) (kind : Variable.Kind) :
    (store.demand name kind).name = name := by
  unfold demand
  cases hfind : store.find? name with
  | none => rfl
  | some v =>
    have hname : v.name = name := (find?_eq_some_iff.1 hfind).1
    dsimp only [Variable.ensureKind]
    split <;> exact hname

theorem kind_demand (store : Store) (name : String) (kind : Variable.Kind) :
    (store.demand name kind).kind = kind := by
  have hblank : kind.blank.kind = kind := by cases kind <;> rfl
  unfold demand
  cases store.find? name with
  | none => exact hblank
  | some v =>
    dsimp only [Variable.ensureKind]
    split
    · assumption
    · exact hblank

/-- A variable that was put is what its own type is demanded with. -/
theorem demand_put_self (store : Store) (v : Variable) :
    (store.put v).demand v.name v.kind = v := by
  unfold demand
  rw [find?_put_self]
  exact if_pos rfl

/-- What is found under the name that was set. -/
theorem find?_set_self (store : Store) (name text : String) (kind : Option Variable.Kind) :
    (store.set name text kind).1.find? name
      = some ((store.demand name (kind.getD (Variable.inferKind text))).assign text).1 := by
  have hname := store.name_demand name (kind.getD (Variable.inferKind text))
  have hput := find?_put_self store
    ((store.demand name (kind.getD (Variable.inferKind text))).assign text).1
  exact (congrArg _ hname).symm.trans hput

/-- Setting one variable leaves every other one as it is. -/
theorem find?_set_of_ne (store : Store) {other : String} (h : other ≠ name) (text : String)
    (kind : Option Variable.Kind) :
    (store.set name text kind).1.find? other = store.find? other := by
  refine find?_put_of_ne store ?_
  show other ≠ (store.demand name _).name
  rwa [name_demand]

/-- A variable that was set as a text holds the text. -/
theorem find?_set_text (store : Store) (name text : String) :
    ∃ v : Variable, (store.set name text (some .text)).1.find? name = some v
      ∧ v.value = .text text := by
  refine ⟨_, store.find?_set_self name text (some .text), ?_⟩
  show ((store.demand name .text).value.ofText text).1 = .text text
  have hkind := store.kind_demand name .text
  unfold Variable.kind at hkind
  cases hdemanded : (store.demand name .text).value with
  | text s => rfl
  | number n | boolean b | list s =>
    rw [hdemanded] at hkind
    cases hkind

/-- **A variable whose type was inferred shows the text as it is handed on.** -/
theorem text_set (store : Store) (name text fallback : String) :
    (store.set name text none).1.text name fallback = .ok (Variable.handedOn text) := by
  have hkind : (store.demand name (Variable.inferKind text)).value.kind
      = Variable.inferKind text := store.kind_demand name _
  unfold Store.text
  rw [store.find?_set_self name text none]
  dsimp only [Option.getD_none]
  rw [Variable.value_assign, Variable.ofText_of_kind hkind, Variable.show?_suggested]

end Store
end DesktopMacro
