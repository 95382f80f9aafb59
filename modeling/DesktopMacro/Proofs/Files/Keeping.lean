/-
What changes to the tree keep.

A path leads where it led as long as the directories on its way are there. Making directories takes
nothing away, a file is written only where no directory is, and a file that is moved takes the place
of a file or a free one. So whatever a path leads to can be told after each of these.
-/
import DesktopMacro.Proofs.Files.Paths

set_option autoImplicit false

namespace DesktopMacro

namespace FileTree

/-! ## Nodes -/

theorem find?_putInto (entries : List (List String × Node)) (place other : List String)
    (node : Node) :
    ((putInto entries place node).find? (fun entry => entry.1 == other)).map Prod.snd
      = if place = other then some node
        else (entries.find? (fun entry => entry.1 == other)).map Prod.snd := by
  induction entries with
  | nil => by_cases h : place = other <;> simp [putInto, h]
  | cons entry entries ih =>
    unfold putInto
    by_cases hentry : entry.1 = place
    · by_cases h : place = other <;> simp [hentry, h]
    · rw [if_neg (by simpa using hentry)]
      by_cases hother : entry.1 = other
      · have hne : place ≠ other := fun h => hentry (hother.trans h.symm)
        simp [hother, hne]
      · simp only [beq_iff_eq, hother, not_false_eq_true, List.find?_cons_of_neg]
        exact ih

/-- A node is at the place that it was put to, and everything else is where it was. -/
theorem node?_put (tree : FileTree) (place : List String) (node : Node) {other : List String}
    (h : other ≠ []) :
    (tree.put place node).node? other = if place = other then some node else tree.node? other := by
  have hother : ¬other.isEmpty = true := by simpa using h
  unfold node? put
  rw [if_neg hother, if_neg hother, find?_putInto]

theorem node?_put_self (tree : FileTree) {place : List String} (node : Node) (h : place ≠ []) :
    (tree.put place node).node? place = some node := by
  rw [node?_put tree place node h, if_pos rfl]

theorem node?_put_of_ne (tree : FileTree) {place other : List String} (node : Node)
    (h : place ≠ other) : (tree.put place node).node? other = tree.node? other := by
  by_cases hother : other = []
  · rw [hother]
    rfl
  · rw [node?_put tree place node hother, if_neg h]

section Steps

variable {tree before after : FileTree} {here place : List String} {name : String} {spot : Spot}

/-- What there is at a place. -/
def spotAt (tree : FileTree) (place : List String) : Spot :=
  match tree.node? place with
  | some node => .taken place node
  | none => .free place

theorem step_name (tree : FileTree) (here : List String) (hdot : name ≠ ".") (hdots : name ≠ "..") :
    tree.step here name = if nameLimit < name.utf8ByteSize then .error .nameTooLong
      else .ok (tree.spotAt (here ++ [name])) := by
  unfold step spotAt
  rw [if_neg (by simpa using hdot), if_neg (by simpa using hdots)]
  cases tree.node? (here ++ [name]) <;> rfl

/-- **A step by a name** leads to what is there. -/
theorem of_step (hdot : name ≠ ".") (hdots : name ≠ "..") (h : tree.step here name = .ok spot) :
    ¬nameLimit < name.utf8ByteSize ∧ spot = tree.spotAt (here ++ [name]) := by
  rw [step_name tree here hdot hdots] at h
  split at h
  · cases h
  · next hfits =>
    cases h
    exact ⟨hfits, rfl⟩

/-- A step to what is there leads there as long as it is there. -/
theorem step_taken {node : Node}
    (hkept : before.node? place = some node → after.node? place = some node)
    (h : before.step here name = .ok (.taken place node)) :
    after.step here name = .ok (.taken place node) := by
  by_cases hdot : name = "."
  · subst hdot
    exact h
  by_cases hdots : name = ".."
  · subst hdots
    exact h
  obtain ⟨hfits, hspot⟩ := of_step hdot hdots h
  unfold spotAt at hspot
  split at hspot
  · next hnode =>
    cases hspot
    rw [step_name after here hdot hdots, if_neg hfits]
    unfold spotAt
    rw [hkept hnode]
  · cases hspot

/-- Nothing is where a step leads to a free place. -/
theorem node?_of_free (h : tree.step here name = .ok (.free place)) : tree.node? place = none := by
  unfold step at h
  split at h
  · cases h
  split at h
  · cases h
  split at h
  · cases h
  split at h
  · cases h
  · next hnone =>
    cases h
    exact hnone

/-- **The directories of one tree are directories of another one.** -/
def Directed (before after : FileTree) : Prop :=
  ∀ place, before.node? place = some .directory → after.node? place = some .directory

theorem Directed.trans {between : FileTree} (h : before.Directed between)
    (h' : between.Directed after) : before.Directed after :=
  fun place hplace => h' place (h place hplace)

/-- A step to a directory is possible in every tree that has the directory. -/
theorem Directed.enter (h : before.Directed after) {there : List String}
    (henter : before.enter here name = .ok there) : after.enter here name = .ok there := by
  unfold FileTree.enter at henter ⊢
  obtain ⟨spot, hspot, henter⟩ := of_bind henter
  split at henter
  · cases henter
    rw [step_taken (h _) hspot]
    rfl
  · cases henter
  · cases henter

theorem Directed.enterAll (h : before.Directed after) {names here there : List String}
    (henter : names.foldlM before.enter here = .ok there) :
    names.foldlM after.enter here = .ok there := by
  induction names generalizing here with
  | nil => exact henter
  | cons name names ih =>
    rw [List.foldlM_cons] at henter ⊢
    obtain ⟨next, hnext, henter⟩ := of_bind henter
    rw [h.enter hnext]
    exact ih henter

/-- **A path is followed in every tree that has the directories on its way.** -/
theorem Directed.approach (h : before.Directed after) {path : String} {approach : Approach}
    (happroach : before.approach path = .ok approach) : after.approach path = .ok approach := by
  unfold FileTree.approach at happroach ⊢
  split at happroach
  · cases happroach
  · next hzero =>
    rw [if_neg hzero]
    dsimp only at happroach ⊢
    split at happroach
    · cases happroach
    split at happroach
    · cases happroach
    next hempty hlong =>
    rw [if_neg hempty, if_neg hlong]
    generalize ((Text.splitOn path (· == '/')).filter fun name => !name.isEmpty) = names
      at happroach ⊢
    cases hhere : names.dropLast.foldlM before.enter
        (if Text.startsWith path "/" then [] else home) with
    | error fault =>
      rw [hhere] at happroach
      cases happroach
    | ok here =>
      rw [hhere] at happroach
      rw [h.enterAll hhere]
      exact happroach

/-- **Where a path leads**: its last step leads there, and if a slash behind it asks for a directory,
it is one. -/
theorem locate_taken_iff {path : String} {node : Node} :
    tree.locate path = .ok (.taken place node) ↔ ∃ approach, tree.approach path = .ok approach
      ∧ tree.step approach.here approach.last = .ok (.taken place node)
      ∧ (approach.asksDirectory = true → node = .directory) := by
  constructor
  · intro h
    unfold locate at h
    obtain ⟨approach, happroach, h⟩ := of_bind h
    obtain ⟨spot, hspot, h⟩ := of_bind h
    have hstep := ok_of_mapError hspot
    split at h
    · split at h
      · cases h
      · next hplain =>
        cases h
        exact ⟨approach, happroach, hstep, fun hasks => absurd hasks hplain⟩
    · next hfile =>
      cases h
      cases node with
      | directory => exact ⟨approach, happroach, hstep, fun _ => rfl⟩
      | file bytes => exact (hfile place bytes rfl).elim
  · rintro ⟨approach, happroach, hstep, hasks⟩
    have hspot : tree.stepFor path approach = .ok (.taken place node) := by
      unfold stepFor
      rw [hstep]
      rfl
    unfold locate
    rw [happroach]
    change (tree.stepFor path approach >>= _) = _
    rw [hspot]
    cases node with
    | directory => rfl
    | file bytes =>
      change (if approach.asksDirectory then _ else _) = _
      rw [if_neg fun hdirectory => nomatch hasks hdirectory]
      rfl

/-- Where a path led, it leads as long as what it led to is there. -/
theorem Directed.locate (hdirected : before.Directed after) {path : String} {node : Node}
    (hkept : before.node? place = some node → after.node? place = some node)
    (h : before.locate path = .ok (.taken place node)) :
    after.locate path = .ok (.taken place node) := by
  rw [locate_taken_iff] at h ⊢
  obtain ⟨approach, happroach, hstep, hasks⟩ := h
  exact ⟨approach, hdirected.approach happroach, step_taken hkept hstep, hasks⟩

end Steps

/-! ## Making directories -/

/-- **Nothing is taken away, and only directories are added.** -/
structure Grown (before after : FileTree) : Prop where
  kept : ∀ place node, before.node? place = some node → after.node? place = some node
  fresh : ∀ place node, after.node? place = some node →
    before.node? place = some node ∨ node = .directory

namespace Grown

variable {before between after : FileTree}

theorem refl (tree : FileTree) : tree.Grown tree := ⟨fun _ _ h => h, fun _ _ h => .inl h⟩

theorem trans (h : before.Grown between) (h' : between.Grown after) : before.Grown after where
  kept place node hnode := h'.kept place node (h.kept place node hnode)
  fresh place node hnode := (h'.fresh place node hnode).elim (h.fresh place node) .inr

theorem directed (h : before.Grown after) : before.Directed after :=
  fun place => h.kept place .directory

/-- A directory at a free place. -/
theorem put {tree : FileTree} {place : List String} (h : tree.node? place = none) :
    tree.Grown (tree.put place .directory) where
  kept other node hnode := by
    have hne : place ≠ other := by
      rintro rfl
      rw [h] at hnode
      cases hnode
    rw [node?_put_of_ne tree .directory hne]
    exact hnode
  fresh other node hnode := by
    by_cases heq : place = other
    · subst heq
      have hplace : place ≠ [] := by
        rintro rfl
        cases h
      rw [node?_put_self tree .directory hplace] at hnode
      exact .inr (Option.some.inj hnode).symm
    · rw [node?_put_of_ne tree .directory heq] at hnode
      exact .inl hnode

theorem makeDirectory {tree : FileTree} {path : String} (h : tree.makeDirectory path = .ok after) :
    tree.Grown after := by
  unfold FileTree.makeDirectory at h
  obtain ⟨approach, -, h⟩ := of_bind h
  dsimp only at h
  split at h
  · cases h
  obtain ⟨spot, hspot, h⟩ := of_bind h
  split at h
  · cases h
  · cases h
    exact put (node?_of_free (ok_of_mapError hspot))

end Grown

namespace Filing

end Filing

/-! ## Writing and moving files -/

/-- The place that an approach ends before, if its last step is a name. -/
def Approach.place (approach : Approach) : List String := approach.here ++ [approach.last]

section Files

variable {tree after : FileTree} {place : List String} {bytes : List UInt8}

/-- A path that leads to a file ends where the file is. -/
theorem of_locateFile {path : String} (h : tree.locate path = .ok (.taken place (.file bytes))) :
    ∃ approach, tree.approach path = .ok approach ∧ place = approach.place
      ∧ tree.node? place = some (.file bytes) := by
  obtain ⟨approach, happroach, hstep, -⟩ := locate_taken_iff.1 h
  by_cases hdot : approach.last = "."
  · rw [hdot] at hstep
    cases hstep
  by_cases hdots : approach.last = ".."
  · rw [hdots] at hstep
    cases hstep
  obtain ⟨-, hspot⟩ := of_step hdot hdots hstep
  unfold spotAt at hspot
  split at hspot
  · next hnode =>
    cases hspot
    exact ⟨approach, happroach, rfl, hnode⟩
  · cases hspot

end Files

end FileTree
end DesktopMacro
