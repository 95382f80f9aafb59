/-
What is loaded can be saved and loaded again.

Whatever a document holds, the sequences that are read from it have a name and an identity: what is
missing or empty is replaced, and any other value is taken as text, which is not empty. Their
actions are settled, and their variables have names, no two the same one. So the library that is
loaded from a file is the library that is loaded again once it has been saved, and it stays so when
settled actions are added to its sequences.
-/
import DesktopMacro.Proofs.Json.Showing
import DesktopMacro.Proofs.Sequence.Persistence
import DesktopMacro.Proofs.Variable.Operations

set_option autoImplicit false

namespace DesktopMacro

theorem Noting.Gives.of_lift {α : Type} {result : Except Cause α} {a : α}
    (h : (Noting.lift result).Gives a) : result = .ok a := by
  obtain ⟨before, after, h⟩ := h
  cases result with
  | ok b => cases h; rfl
  | error cause => cases h

/-- A value that is not empty gives a text that is not empty. -/
theorem Json.asText_ne_empty {raw : Json} {s : String} (hraw : raw.isEmpty = false)
    (h : raw.asText = .ok s) : s ≠ "" := by
  unfold Json.asText at h
  split at h
  · cases h
    exact Json.display_ne_empty hraw
  · cases h

/-! ## Variables -/

/-- The name of a variable that is read is that of its document. -/
theorem Variable.name_of_read {members : Members} {v : Variable}
    (h : (Variable.read members).Gives v) :
    ((Members.get? members "name").getD (.text "")).asText = .ok v.name := by
  -- The description is read in two ways, and what comes after it is the same.
  have hrest {kind : Kind} {raw : Json} {name description : String}
      (h : (do return ⟨name, ← Value.ofJson kind raw, description⟩ : Noting Variable).Gives v) :
      v.name = name := by
    obtain ⟨value, -, h⟩ := h.of_bind
    rw [h.of_pure]
  unfold Variable.read at h
  obtain ⟨name, hname, h⟩ := h.of_bind
  rw [hname.of_lift]
  dsimp only at h
  split at h
  · rw [hrest h]
  · obtain ⟨description, -, h⟩ := h.of_bind
    rw [hrest h]

namespace Store

/-- A variable that is read into a store has a name. -/
theorem named_of_readVariable {item : Json} {v : Variable}
    (h : (readVariable item).Gives (some v)) : v.name ≠ "" := by
  unfold readVariable at h
  split at h
  · next members =>
    split at h
    · cases h.of_pure
    · next hempty =>
      obtain ⟨w, hw, h⟩ := h.of_bind
      cases h.of_pure
      have hname := Variable.name_of_read hw
      cases hget : Members.get? members "name" with
      | none =>
        rw [hget] at hempty
        exact absurd rfl hempty
      | some raw =>
        rw [hget] at hempty hname
        exact Json.asText_ne_empty (Bool.eq_false_iff.2 hempty) hname
  · cases h.of_pure

/-- What there is after a variable was put was there before, or is the variable. -/
theorem mem_put {store : Store} {v w : Variable} (h : w ∈ (store.put v).entries) :
    w = v ∨ w ∈ store.entries := by
  cases hfind : store.find? v.name with
  | some old =>
    obtain ⟨front, back, hbefore, hafter⟩ := put_of_find? hfind
    rw [hafter, List.mem_append, List.mem_cons] at h
    rw [hbefore, List.mem_append, List.mem_cons]
    tauto
  | none =>
    rw [put_of_find?_eq_none hfind, List.mem_append, List.mem_singleton] at h
    exact h.symm

/-- Variables with names are put into a store. -/
theorem named_foldl_put {given : List Variable} {store : Store}
    (hgiven : ∀ v ∈ given, v.name ≠ "") (hstore : ∀ v ∈ store.entries, v.name ≠ "") :
    ∀ v ∈ (given.foldl put store).entries, v.name ≠ "" := by
  induction given generalizing store with
  | nil => exact hstore
  | cons v given ih =>
    obtain ⟨hv, hgiven⟩ := List.forall_mem_cons.1 hgiven
    apply ih hgiven
    intro w hw
    rcases mem_put hw with rfl | hold
    · exact hv
    · exact hstore w hold

/-- **A store that is read can be kept.** -/
theorem keepable_of_read {raw : Json} {store : Store} (h : (Store.read raw).Gives store) :
    store.Keepable := by
  apply (Reached.read h).keepable
  unfold Store.read at h
  split at h
  · obtain ⟨given, hgiven, h⟩ := h.of_bind
    rw [h.of_pure]
    intro hblank
    obtain ⟨v, hv, hname⟩ := List.mem_map.1 hblank
    refine named_foldl_put (fun w hw => ?_) (fun w hw => absurd hw List.not_mem_nil) v hv hname
    obtain ⟨result, hresult, rfl⟩ := List.mem_filterMap.1 hw
    obtain ⟨item, hitem⟩ := hgiven.of_mapM _ hresult
    exact named_of_readVariable hitem
  · rw [h.of_pure]
    exact List.not_mem_nil

end Store

/-! ## Sequences -/

namespace Sequence

/-- A text that is read, or the text to go by, is not empty if that one is not. -/
theorem textOr_ne_empty {fallback s : String} {raw : Option Json} (hfallback : fallback ≠ "")
    (h : (textOr fallback raw).Gives s) : s ≠ "" := by
  unfold textOr at h
  split at h
  · rw [h.of_pure]
    exact hfallback
  · next raw =>
    by_cases hraw : raw.isEmpty = true
    · rw [if_pos hraw] at h
      rw [h.of_pure]
      exact hfallback
    · rw [if_neg hraw] at h
      exact Json.asText_ne_empty (Bool.eq_false_iff.2 hraw) h.of_lift

/-- **A sequence that is read can be kept**, if no identity that is given out is empty. -/
theorem keepable_of_read {supply : Action.Supply} {place : List Nat} {members : Members}
    {sequence : Sequence} (hsupply : ∀ place, supply place ≠ "")
    (h : (Sequence.read supply place members).Gives sequence) : sequence.Keepable := by
  unfold Sequence.read at h
  obtain ⟨name, hname, h⟩ := h.of_bind
  obtain ⟨actions, hactions, h⟩ := h.of_bind
  obtain ⟨description, -, h⟩ := h.of_bind
  obtain ⟨store, hstore, h⟩ := h.of_bind
  obtain ⟨id, hid, h⟩ := h.of_bind
  rw [h.of_pure]
  have hunnamed : unnamed ≠ "" := by decide
  exact ⟨textOr_ne_empty hunnamed hname, textOr_ne_empty (hsupply place) hid,
    Action.allSettled_of_readAll hactions.of_lift, Store.keepable_of_read hstore⟩

end Sequence

/-! ## Libraries -/

namespace Library

/-- **A library that lasts**: no sequence answers to the name of a later one, and each can be kept.
Once it has been saved, it is loaded as it is. -/
structure Lasting (library : Library) : Prop where
  unmasked : library.Unmasked
  keepable : ∀ sequence ∈ library.sequences, sequence.Keepable

theorem Lasting.empty : Lasting .empty :=
  ⟨List.Pairwise.nil, fun _ h => absurd h List.not_mem_nil⟩

/-- Reading adds sequences that can be kept. -/
theorem keepable_of_readFrom {supply : Action.Supply} (hsupply : ∀ place, supply place ≠ "")
    {items : List Json} {index : Nat} {library larger : Library}
    (hkeepable : ∀ sequence ∈ library.sequences, sequence.Keepable)
    (h : (Library.readFrom supply library index items).Gives larger) :
    ∀ sequence ∈ larger.sequences, sequence.Keepable := by
  induction items generalizing library index with
  | nil =>
    unfold Library.readFrom at h
    rw [h.of_pure]
    exact hkeepable
  | cons item more ih =>
    cases item with
    | object members =>
      unfold Library.readFrom at h
      obtain ⟨sequence, hsequence, h⟩ := h.of_bind
      cases hadd : library.add sequence with
      | ok with_ =>
        rw [hadd] at h
        obtain ⟨-, rfl⟩ := of_add hadd
        refine ih (List.forall_mem_append.2 ⟨hkeepable, ?_⟩) h
        exact List.forall_mem_singleton.2 (Sequence.keepable_of_read hsupply hsequence)
      | error cause =>
        rw [hadd] at h
        obtain ⟨_, -, h⟩ := h.of_bind
        exact ih hkeepable h
    | null | bool | int | float | text | list =>
      unfold Library.readFrom at h
      exact ih hkeepable h

/-- **A library that is loaded lasts.** -/
theorem lasting_of_load {supply : Action.Supply} (hsupply : ∀ place, supply place ≠ "")
    {tree : FileTree} {path : String} {library : Library}
    (h : (Library.load supply tree path).run.1 = .ok library) : library.Lasting := by
  obtain ⟨text, -, h⟩ := (Noting.gives_of_run h).of_bind
  obtain ⟨document, -, h⟩ := h.of_bind
  obtain ⟨items, -, h⟩ := h.of_bind
  exact ⟨Unmasked.readFrom List.Pairwise.nil h,
    keepable_of_readFrom hsupply (fun _ hnone => absurd hnone List.not_mem_nil) h⟩

end Library
end DesktopMacro
