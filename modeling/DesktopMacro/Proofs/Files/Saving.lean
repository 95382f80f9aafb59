/-
Saving by way of a draft.

A draft is written beside the file and moved into its place. Before the draft is moved nothing at
the path has changed: the draft has another name, and what was made on the way are directories. So
what was there is either untouched or replaced as a whole.
-/
import DesktopMacro.Proofs.Files.Keeping
import DesktopMacro.Sequence.Library

set_option autoImplicit false

namespace DesktopMacro

namespace FileTree

/-- The file at a place is the draft for a path. -/
def IsDraft (tree : FileTree) (path : Path) (place : List String) : Prop :=
  ∃ bytes, tree.locate (path.toText ++ ".tmp") = .ok (.taken place (.file bytes))

/-- **What is at a path is left as it is**: the path leads where it led, a file that it leads to was
there before, nothing is taken away or changed anywhere but for the draft, and only directories are
made beside it. -/
structure Spares (before after : FileTree) (path : Path) : Prop where
  leads : ∀ place node, before.locate path.toText = .ok (.taken place node) →
    after.locate path.toText = .ok (.taken place node)
  files : ∀ place bytes, after.locate path.toText = .ok (.taken place (.file bytes)) →
    before.node? place = some (.file bytes)
  kept : ∀ place node, before.node? place = some node →
    after.node? place = some node ∨ after.IsDraft path place
  fresh : ∀ place node, after.node? place = some node →
    before.node? place = some node ∨ node = .directory ∨ after.IsDraft path place

section

variable {before tree written after : FileTree} {path : Path} {bytes : List UInt8}

/-- A file that is spared is read as before. -/
theorem Spares.read (h : before.Spares after path) (hread : before.read path.toText = .ok bytes) :
    after.read path.toText = .ok bytes := by
  unfold FileTree.read at hread ⊢
  obtain ⟨spot, hlocate, hread⟩ := of_bind hread
  split at hread
  · cases hread
    rw [h.leads _ _ hlocate]
    rfl
  · cases hread
  · cases hread

/-- Making directories leaves everything as it is. -/
theorem Grown.spares (h : before.Grown after) (path : Path) : before.Spares after path where
  leads place node hlocate := h.directed.locate (h.kept place node) hlocate
  files place bytes hlocate := by
    obtain ⟨-, -, -, hnode⟩ := of_locateFile hlocate
    exact (h.fresh place _ hnode).resolve_right nofun
  kept place node hnode := .inl (h.kept place node hnode)
  fresh place node hnode := (h.fresh place node hnode).imp_right .inl

end

end FileTree

/-! ## Libraries -/

namespace Library

open FileTree

end Library
end DesktopMacro
