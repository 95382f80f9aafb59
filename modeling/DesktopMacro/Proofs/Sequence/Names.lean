/-
The names of the sequences in a library.

A sequence is added only when none that is there answers to its name, and this is what every library
has in common: no sequence answers to the name of a later one. The name that is asked for is trimmed
and folded, a stored one is only folded, so a stored name answers to itself exactly when it has no
blanks at its ends. Such names are unique and found, and what is removed by one is its sequence; a
name with blanks at its ends can be there twice, and is never found by itself.
-/
import DesktopMacro.Proofs.Computation
import DesktopMacro.Proofs.Text.Folding
import DesktopMacro.Sequence.Library

set_option autoImplicit false

namespace DesktopMacro

namespace Library

variable {library : Library}

/-! ## What adding and removing does -/

/-- A sequence can be added when none that is there answers to its name. -/
theorem add_of_unanswered {sequence : Sequence}
    (h : library.sequences.all (fun other => !answersTo sequence.name other) = true) :
    library.add sequence = .ok ⟨library.sequences ++ [sequence]⟩ := by
  have hnone : library.find? sequence.name = none := by
    rw [find?, List.find?_eq_none]
    simpa using h
  rw [add, hnone, Option.isSome_none, if_neg Bool.false_ne_true]

theorem of_add {sequence : Sequence} {larger : Library} (h : library.add sequence = .ok larger) :
    library.find? sequence.name = none ∧ larger = ⟨library.sequences ++ [sequence]⟩ := by
  unfold add at h
  by_cases htaken : (library.find? sequence.name).isSome
  · rw [if_pos htaken] at h
    cases h
  · rw [if_neg htaken] at h
    cases h
    exact ⟨by simpa using htaken, rfl⟩

theorem of_remove {name : String} {smaller : Library} (h : library.remove? name = some smaller) :
    ∃ index, library.indexOf? name = some index ∧ smaller = ⟨library.sequences.eraseIdx index⟩ := by
  obtain ⟨index, hindex, rfl⟩ := Option.map_eq_some_iff.1 h
  exact ⟨index, hindex, rfl⟩

/-- A sequence that has a name and nothing else. -/
def named (name : String) : Sequence :=
  { name, description := "", actions := [], store := ⟨[]⟩, id := "" }

/-! ## The libraries that there are -/

/-- A library that was read from a document, or that adding and removing made of another one. -/
inductive Built : Library → Prop
  | empty : Built empty
  | read {supply : Action.Supply} {document : Json} {library : Library}
      (h : (Library.read supply document).run.1 = .ok library) : Built library
  | add {library larger : Library} {sequence : Sequence} (hbuilt : Built library)
      (h : library.add sequence = .ok larger) : Built larger
  | remove {library smaller : Library} {name : String} (hbuilt : Built library)
      (h : library.remove? name = some smaller) : Built smaller

/-- No sequence answers to the name of a later one. -/
def Unmasked (library : Library) : Prop :=
  library.sequences.Pairwise fun earlier later => answersTo later.name earlier = false

theorem Unmasked.add (hunmasked : library.Unmasked) {sequence : Sequence} {larger : Library}
    (h : library.add sequence = .ok larger) : larger.Unmasked := by
  obtain ⟨hfree, rfl⟩ := of_add h
  rw [find?, List.find?_eq_none] at hfree
  refine List.pairwise_append.2 ⟨hunmasked, List.pairwise_singleton _ _, ?_⟩
  intro earlier hearlier later hlater
  rw [List.mem_singleton.1 hlater, ← Bool.not_eq_true]
  exact hfree earlier hearlier

theorem Unmasked.remove (hunmasked : library.Unmasked) {name : String} {smaller : Library}
    (h : library.remove? name = some smaller) : smaller.Unmasked := by
  obtain ⟨index, -, rfl⟩ := of_remove h
  exact List.Pairwise.sublist (List.eraseIdx_sublist _ _) hunmasked

/-- Reading adds to the library, one sequence at a time. -/
theorem Unmasked.readFrom {supply : Action.Supply} {items : List Json} {index : Nat}
    {larger : Library} (hunmasked : library.Unmasked)
    (h : (Library.readFrom supply library index items).Gives larger) : larger.Unmasked := by
  induction items generalizing library index with
  | nil =>
    unfold Library.readFrom at h
    rw [h.of_pure]
    exact hunmasked
  | cons item more ih =>
    cases item with
    | object members =>
      unfold Library.readFrom at h
      obtain ⟨sequence, -, h⟩ := h.of_bind
      cases hadd : library.add sequence with
      | ok with_ =>
        rw [hadd] at h
        exact ih (hunmasked.add hadd) h
      | error cause =>
        rw [hadd] at h
        obtain ⟨_, -, h⟩ := h.of_bind
        exact ih hunmasked h
    | null | bool | int | float | text | list =>
      unfold Library.readFrom at h
      exact ih hunmasked h

/-- **In every library, no sequence answers to the name of a later one.** -/
theorem Built.unmasked (h : Built library) : library.Unmasked := by
  induction h with
  | empty => exact List.Pairwise.nil
  | read h =>
    obtain ⟨items, -, hitems⟩ := (Noting.gives_of_run h).of_bind
    exact Unmasked.readFrom List.Pairwise.nil hitems
  | add _ h ih => exact ih.add h
  | remove _ h ih => exact ih.remove h

/-! ## Names and their sequences -/

/-- The sequence at the index of a name is the one that is found by it. -/
theorem find?_of_indexOf? {name : String} {slot : Nat} {sequence : Sequence}
    (hslot : library.indexOf? name = some slot)
    (hsequence : library.sequences[slot]? = some sequence) :
    library.find? name = some sequence := by
  obtain ⟨hlt, hanswers, hbefore⟩ := List.findIdx?_eq_some_iff_getElem.1 hslot
  rw [List.getElem?_eq_getElem hlt, Option.some.injEq] at hsequence
  subst hsequence
  refine List.find?_eq_some_iff_getElem.2 ⟨hanswers, slot, hlt, rfl, fun other hother => ?_⟩
  simpa using hbefore other hother

theorem answersTo_iff {wanted : String} {sequence : Sequence} :
    answersTo wanted sequence = true ↔ Text.fold sequence.name = Text.fold (Text.trim wanted) := by
  unfold answersTo
  rw [beq_iff_eq]

/-- **A sequence answers to its own name exactly when the name has no blanks at its ends.** -/
theorem answersTo_self {sequence : Sequence} :
    answersTo sequence.name sequence = true ↔ Text.trim sequence.name = sequence.name := by
  rw [answersTo_iff]
  constructor
  · intro h
    exact Text.trim_eq_of_fold h.symm
  · intro h
    rw [h]

/-- Two names that fold alike have blanks at their ends, or neither has. -/
theorem trim_of_fold {name other : String} (hfold : Text.fold name = Text.fold other)
    (h : Text.trim name = name) : Text.trim other = other := by
  refine Text.trim_eq_of_fold ?_
  rw [← Text.trim_fold, ← hfold, Text.trim_fold, h]

/-- Of two names that fold alike the earlier sequence answers to the later one, unless they have
blanks at their ends. -/
theorem fold_ne_of_answersTo {earlier later : Sequence}
    (h : answersTo later.name earlier = false)
    (htrim : Text.trim earlier.name = earlier.name ∨ Text.trim later.name = later.name) :
    Text.fold earlier.name ≠ Text.fold later.name := by
  intro hfold
  have hlater : Text.trim later.name = later.name := htrim.elim (trim_of_fold hfold) id
  rw [← Bool.not_eq_true, answersTo_iff, hlater] at h
  exact h hfold

/-- The sequence at an index is the first one to answer to its name, unless the name has blanks at
its ends. -/
theorem indexOf?_self (h : library.Unmasked) {index : Nat}
    (hindex : index < library.sequences.length) :
    library.indexOf? library.sequences[index].name = some index
      ↔ Text.trim library.sequences[index].name = library.sequences[index].name := by
  rw [← answersTo_self, indexOf?, List.findIdx?_eq_some_iff_getElem]
  constructor
  · rintro ⟨_, hanswers, _⟩
    exact hanswers
  · intro hanswers
    refine ⟨hindex, hanswers, fun other hother => ?_⟩
    rw [List.pairwise_iff_getElem.1 h other index (hother.trans hindex) hindex hother]
    exact Bool.false_ne_true

/-- A sequence is found by its name, unless the name has blanks at its ends. -/
theorem find?_self (h : library.Unmasked) {sequence : Sequence}
    (hmem : sequence ∈ library.sequences) :
    library.find? sequence.name = some sequence ↔ Text.trim sequence.name = sequence.name := by
  constructor
  · intro hfound
    exact answersTo_self.1 (List.find?_some hfound)
  · intro htrim
    obtain ⟨index, hindex, rfl⟩ := List.getElem_of_mem hmem
    exact find?_of_indexOf? ((indexOf?_self h hindex).2 htrim) (List.getElem?_eq_getElem hindex)

/-- **Names without blanks at their ends are unique and findable**: none of them folds like another
name of the library; a sequence is found by its name exactly when the name is one of them; and what
is removed by such a name is the sequence of that name alone. -/
theorem trimmed_names_findable (h : Built library) :
    library.sequences.Pairwise (fun earlier later =>
        Text.trim earlier.name = earlier.name ∨ Text.trim later.name = later.name →
          Text.fold earlier.name ≠ Text.fold later.name)
      ∧ (∀ sequence ∈ library.sequences,
          library.find? sequence.name = some sequence ↔ Text.trim sequence.name = sequence.name)
      ∧ ∀ (index : Nat) (hindex : index < library.sequences.length),
          Text.trim library.sequences[index].name = library.sequences[index].name →
            library.remove? library.sequences[index].name
              = some ⟨library.sequences.eraseIdx index⟩ := by
  have hunmasked := h.unmasked
  refine ⟨List.Pairwise.imp fold_ne_of_answersTo hunmasked,
    fun sequence hmem => find?_self hunmasked hmem, ?_⟩
  intro index hindex htrim
  rw [remove?, (indexOf?_self hunmasked hindex).2 htrim, Option.map_some]

/-- In a library of two sequences the one without blanks in its name is found and removed. -/
theorem trimmed_names_findable_two :
    Built ⟨[named " a", named "A"]⟩
      ∧ find? ⟨[named " a", named "A"]⟩ "A" = some (named "A")
      ∧ remove? ⟨[named " a", named "A"]⟩ "A" = some ⟨[named " a"]⟩ := by
  have hbuilt : Built ⟨[named " a", named "A"]⟩ :=
    (Built.empty.add (add_of_unanswered (by rfl))).add (add_of_unanswered (by decide +kernel))
  obtain ⟨-, hfind, hremove⟩ := trimmed_names_findable hbuilt
  refine ⟨hbuilt, (hfind (named "A") (by simp)).2 (by decide +kernel), ?_⟩
  exact hremove 1 (by decide) (by decide +kernel)

/-- **A name with a blank at its end can be there twice, and is not found.** -/
theorem blank_name_twice :
    Built ⟨[named " a", named " a"]⟩ ∧ find? ⟨[named " a", named " a"]⟩ " a" = none := by
  refine ⟨(Built.empty.add (add_of_unanswered (by rfl))).add
    (add_of_unanswered (by decide +kernel)), ?_⟩
  rw [find?, List.find?_eq_none]
  simp only [List.forall_mem_cons, List.not_mem_nil, false_implies, implies_true, and_true]
  decide +kernel

end Library
end DesktopMacro
