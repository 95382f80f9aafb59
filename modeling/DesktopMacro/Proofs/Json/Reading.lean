/-
What is read of a document.

A document has no number with more digits than can be written, because the reader counts the digits
of every whole number. So whatever is read can be written, and shown as text, again. And a value
that is no whole number has one of a few causes for it; only an infinite double has the cause that
nobody who takes values for numbers puts up with.
-/
import DesktopMacro.Proofs.Json.Spelling
import DesktopMacro.Proofs.Number.Writable

set_option autoImplicit false

namespace DesktopMacro

namespace Json

/-! ## What can be written -/

theorem areWritable_iff {items : List Json} :
    areWritable items = true ↔ ∀ item ∈ items, item.isWritable = true := by
  induction items with
  | nil => simp [areWritable]
  | cons item items ih => simp [areWritable, ih]

theorem membersWritable_iff {members : Members} :
    membersWritable members = true ↔ ∀ entry ∈ members, entry.2.isWritable = true := by
  induction members with
  | nil => simp [membersWritable]
  | cons entry members ih => simp [membersWritable, ih]

/-- What is under a name of an object is in it. -/
theorem mem_of_get? {members : Members} {name : String} {raw : Json}
    (h : Members.get? members name = some raw) : ∃ entry ∈ members, entry.2 = raw := by
  obtain ⟨entry, hentry, rfl⟩ := Option.map_eq_some_iff.1 h
  exact ⟨entry, List.mem_of_find?_eq_some hentry, rfl⟩

/-- A value that is put into an object is in it, and otherwise only what was there before. -/
theorem mem_put {members : Members} {name : String} {value : Json} {entry : String × Json}
    (h : entry ∈ members.put name value) : entry = (name, value) ∨ entry ∈ members := by
  induction members with
  | nil => exact .inl (List.mem_singleton.1 h)
  | cons first rest ih =>
    unfold Members.put at h
    split at h
    · exact (List.mem_cons.1 h).imp_right (List.mem_cons_of_mem first)
    · rcases List.mem_cons.1 h with rfl | hrest
      · exact .inr List.mem_cons_self
      · exact (ih hrest).imp_right (List.mem_cons_of_mem first)

/-- A value that is put into an object makes no difference to other names. -/
theorem get?_put_of_ne {members : Members} {name other : String} (h : name ≠ other)
    (value : Json) : (members.put name value).get? other = members.get? other := by
  induction members with
  | nil => simp [Members.put, Members.get?, h]
  | cons first rest ih =>
    unfold Members.get? at ih ⊢
    unfold Members.put
    split
    · next hfirst =>
      have hother : first.1 ≠ other := by
        rw [eq_of_beq hfirst]
        exact h
      simp [h, hother]
    · by_cases hother : first.1 = other
      · simp [hother]
      · simpa [hother] using ih

theorem isDigit_of_wholePart {cs whole rest : List Char}
    (h : wholePart cs = some (whole, rest)) : ∀ c ∈ whole, c.isDigit = true := by
  unfold wholePart at h
  split at h
  · cases h
  · next c cs =>
    split at h
    · next hzero =>
      cases h
      rw [eq_of_beq hzero]
      exact List.forall_mem_singleton.2 rfl
    · split at h
      · cases h
        exact fun d hd => List.mem_takeWhile_imp hd
      · cases h

/-- A whole number with no more digits than the limit can be written. -/
theorem isWritable_valueOf {whole : List Char} (hdigits : ∀ c ∈ whole, c.isDigit = true)
    (hlimit : whole.length ≤ Integer.digitLimit) {n : Int}
    (hn : n.natAbs = Integer.valueOf whole) : Integer.IsWritable n := by
  have hvalue := Integer.foldl_valueOf_lt whole (fun c hc => .inl (hdigits c hc)) 0 0 (by decide)
  rw [Integer.isWritable_iff, hn]
  calc Integer.valueOf whole < 10 ^ (0 + whole.countP Char.isDigit) := hvalue
    _ ≤ 10 ^ Integer.digitLimit := Nat.pow_le_pow_right (by decide) (by
      have hcount : whole.countP Char.isDigit ≤ whole.length := List.countP_le_length
      omega)

theorem isWritable_of_readNumber {cs rest : List Char} {value : Json}
    (h : readNumber .usual cs = .ok (value, rest)) : value.isWritable = true := by
  have hunsigned : unsigned .usual (signOf cs).1 (signOf cs).2 = some (value, rest) := by
    rw [← toOption_readNumber, h]
    rfl
  unfold unsigned at hunsigned
  split at hunsigned
  · cases hunsigned
  · next whole behind hwhole =>
    dsimp only at hunsigned
    split at hunsigned
    · split at hunsigned
      · cases hunsigned
      · next hlimit =>
        cases hunsigned
        have hlength : whole.length ≤ Integer.digitLimit := by
          simpa [Limits.usual] using hlimit
        unfold isWritable
        refine decide_eq_true (isWritable_valueOf (isDigit_of_wholePart hwhole) hlength ?_)
        split
        · exact Int.natAbs_neg _
        · rfl
    · cases hunsigned
      rfl

theorem isWritable_of_readScalar {cs rest : List Char} {value : Json}
    (h : readScalar .usual cs = .ok (value, rest)) : value.isWritable = true := by
  have hconstants : constants.all (fun entry => entry.2.isWritable) = true := by decide
  unfold readScalar at h
  split at h
  · next hfound =>
    cases h
    exact List.all_eq_true.1 hconstants _ (List.mem_of_find?_eq_some hfound)
  · exact isWritable_of_readNumber h

/-- What stands before in a part can be written. -/
def Part.IsWritable : Part → Prop
  | .value _ => True
  | .items _ done => ∀ item ∈ done, item.isWritable = true
  | .members _ done => ∀ entry ∈ done, entry.2.isWritable = true

/-- What a part spells can be written, if what stands before can. -/
theorem Spells.isWritable {part : Part} {value : Json} {cs rest : List Char}
    (h : Spells .usual part value cs rest) (hpart : part.IsWritable) : value.isWritable = true := by
  induction h with
  | scalar _ hread => exact isWritable_of_readScalar hread
  | text => rfl
  | emptyObject => rfl
  | object _ _ _ ih => exact ih nofun
  | emptyList => rfl
  | list _ _ _ ih => exact ih nofun
  | @lastItem _ done item _ _ _ _ _ ih =>
    unfold Json.isWritable
    refine areWritable_iff.2 fun other hother => ?_
    rcases List.mem_cons.1 (List.mem_reverse.1 hother) with rfl | hdone
    · exact ih trivial
    · exact hpart other hdone
  | item _ _ _ _ ih ih' => exact ih' (List.forall_mem_cons.2 ⟨ih trivial, hpart⟩)
  | lastMember _ _ _ _ _ ih =>
    unfold Json.isWritable
    refine membersWritable_iff.2 fun entry hentry => ?_
    rcases mem_put hentry with rfl | hdone
    · exact ih trivial
    · exact hpart entry hdone
  | member _ _ _ _ _ _ _ ih ih' =>
    refine ih' fun entry hentry => ?_
    rcases mem_put hentry with rfl | hdone
    · exact ih trivial
    · exact hpart entry hdone

/-- **What is read can be written.** -/
theorem isWritable_of_read {document : String} {value : Json} (h : read document = .ok value) :
    value.isWritable = true := by
  obtain ⟨_, _, _, hspells, _⟩ := spells_of_read h
  exact hspells.isWritable trivial

/-! ## Whole numbers -/

/-- An infinite double. -/
def IsInfinite (raw : Json) : Prop := ∃ x : Binary64, raw = .float x ∧ x.isInfinite = true

theorem of_truncate_infinite {x : Binary64} (h : x.truncate = .error .infinite) :
    x.isInfinite = true := by
  unfold Binary64.truncate at h
  split at h
  · cases h
  · split at h
    · next hinfinite => exact hinfinite
    · cases h

theorem truncate_of_isInfinite {x : Binary64} (h : x.isInfinite = true) :
    x.truncate = .error .infinite := by
  have hnumber : ¬x.isNaN = true := by
    have hmagnitude : x.magnitude = Binary64.infiniteMagnitude := by
      simpa [Binary64.isInfinite] using h
    simp [Binary64.isNaN, hmagnitude]
  unfold Binary64.truncate
  rw [if_neg hnumber, if_pos h]

/-- **Only an infinite double is too much for a whole number.** -/
theorem whole_infinite_iff {raw : Json} : raw.whole = .error .infinityToWhole ↔ raw.IsInfinite := by
  constructor
  · intro h
    cases raw with
    | float x =>
      cases htruncate : x.truncate with
      | ok n =>
        rw [whole, htruncate] at h
        cases h
      | error fault =>
        rw [whole, htruncate] at h
        cases fault with
        | infinite => exact ⟨x, rfl, of_truncate_infinite htruncate⟩
        | notANumber => cases h
    | text s =>
      cases hread : Integer.read s with
      | ok n =>
        rw [whole, hread] at h
        cases h
      | error fault =>
        rw [whole, hread] at h
        cases fault <;> cases h
    | null | bool | int | list | object => cases h
  · rintro ⟨x, rfl, hinfinite⟩
    rw [whole, truncate_of_isInfinite hinfinite]
    rfl

/-! ## Where values stand -/

/-- A value stands in a document, so many steps down. -/
inductive StandsIn (raw : Json) : Json → Nat → Prop
  | self : StandsIn raw raw 0
  | item {items : List Json} {item : Json} {n : Nat} (hitem : item ∈ items)
      (h : StandsIn raw item n) : StandsIn raw (.list items) (n + 1)
  | member {members : Members} {entry : String × Json} {n : Nat} (hentry : entry ∈ members)
      (h : StandsIn raw entry.2 n) : StandsIn raw (.object members) (n + 1)

/-- An infinite double stands in a document. -/
def HoldsInfinite (document : Json) : Prop :=
  ∃ (raw : Json) (n : Nat), raw.StandsIn document n ∧ raw.IsInfinite

end Json
end DesktopMacro
