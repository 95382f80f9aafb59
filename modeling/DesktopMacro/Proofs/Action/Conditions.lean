/-
A condition is read back from its members.

A condition is read member by member: each sets one field, and one with an unknown name sets none. So
the order of the members does not matter, and neither does what else there is: once every field has
been set, all of them are as in the condition that was written. That covers a condition whose members
lie among those of its action.
-/
import DesktopMacro.Proofs.Action.Rereading

set_option autoImplicit false

namespace DesktopMacro.Condition

/-- The members of a condition. -/
def members (condition : Condition) : Members :=
  [("left_source", .text (Vocabulary.word condition.left.source)),
    ("left_variable", .text condition.left.variableName),
    ("left_text", .text condition.left.literal),
    ("operator", .text (Vocabulary.word condition.comparison)),
    ("right_source", .text (Vocabulary.word condition.right.source)),
    ("right_variable", .text condition.right.variableName),
    ("right_text", .text condition.right.literal)]

theorem toJson_eq (condition : Condition) : condition.toJson = .object condition.members := rfl

/-- The names of the fields of a condition. -/
def names : List String :=
  ["left_source", "left_variable", "left_text", "operator", "right_source", "right_variable",
    "right_text"]

theorem names_members (condition : Condition) : condition.members.names = names := rfl

/-- The present name of a field, from its normalised spelling. -/
def present (name : String) : String := FieldName.renamed renamings name

theorem present_of_mem_names : ∀ name ∈ names, present name = name := by decide

/-! ## One member -/

/-- **A condition has taken fields** from another one. -/
structure Takes (target current : Condition) (done : String → Prop) : Prop where
  leftSource : done "left_source" → current.left.source = target.left.source
  leftVariable : done "left_variable" → current.left.variableName = target.left.variableName
  leftText : done "left_text" → current.left.literal = target.left.literal
  operator : done "operator" → current.comparison = target.comparison
  rightSource : done "right_source" → current.right.source = target.right.source
  rightVariable : done "right_variable" → current.right.variableName = target.right.variableName
  rightText : done "right_text" → current.right.literal = target.right.literal

variable {target current : Condition} {done : String → Prop}

theorem Takes.mono (h : Takes target current done) {fewer : String → Prop}
    (hfewer : ∀ name ∈ names, fewer name → done name) : Takes target current fewer where
  leftSource hdone := h.leftSource (hfewer _ (by decide) hdone)
  leftVariable hdone := h.leftVariable (hfewer _ (by decide) hdone)
  leftText hdone := h.leftText (hfewer _ (by decide) hdone)
  operator hdone := h.operator (hfewer _ (by decide) hdone)
  rightSource hdone := h.rightSource (hfewer _ (by decide) hdone)
  rightVariable hdone := h.rightVariable (hfewer _ (by decide) hdone)
  rightText hdone := h.rightText (hfewer _ (by decide) hdone)

/-- A condition that has taken every field is the other one. -/
theorem Takes.eq (h : Takes target current done) (hall : ∀ name ∈ names, done name) :
    current = target := by
  obtain ⟨hls, hlv, hlt, hop, hrs, hrv, hrt⟩ := h
  obtain ⟨⟨_, _, _⟩, _, ⟨_, _, _⟩⟩ := current
  obtain ⟨⟨_, _, _⟩, _, ⟨_, _, _⟩⟩ := target
  rw [Condition.mk.injEq, Operand.mk.injEq, Operand.mk.injEq]
  exact ⟨⟨hls (hall _ (by decide)), hlv (hall _ (by decide)), hlt (hall _ (by decide))⟩,
    hop (hall _ (by decide)), hrs (hall _ (by decide)), hrv (hall _ (by decide)),
    hrt (hall _ (by decide))⟩

/-- **A member sets its field.** -/
theorem readField_of_mem (h : Takes target current done) {spelling name : String} {raw : Json}
    (hname : FieldName.normalize spelling = name) (hmember : (name, raw) ∈ target.members) :
    ∃ next, readField current spelling raw = .ok next
      ∧ Takes target next fun other => done other ∨ other = name := by
  have hmem : name ∈ names := names_members target ▸ List.mem_map_of_mem (f := Prod.fst) hmember
  have hpresent : FieldName.renamed renamings name = name := present_of_mem_names name hmem
  obtain ⟨hls, hlv, hlt, hop, hrs, hrv, hrt⟩ := h
  unfold readField
  rw [hname, hpresent]
  simp only [members, List.mem_cons, Prod.mk.injEq, List.not_mem_nil, or_false] at hmember
  rcases hmember with ⟨rfl, rfl⟩ | ⟨rfl, rfl⟩ | ⟨rfl, rfl⟩ | ⟨rfl, rfl⟩ | ⟨rfl, rfl⟩ | ⟨rfl, rfl⟩
    | ⟨rfl, rfl⟩
  · refine ⟨_, bind_pure_ok _ (Vocabulary.read_word (Vocabulary.allFindWords.operandSource _)), ?_⟩
    exact ⟨fun _ => rfl, by simpa using hlv, by simpa using hlt, by simpa using hop,
      by simpa using hrs, by simpa using hrv, by simpa using hrt⟩
  · refine ⟨_, rfl, ?_⟩
    exact ⟨by simpa using hls, fun _ => rfl, by simpa using hlt, by simpa using hop,
      by simpa using hrs, by simpa using hrv, by simpa using hrt⟩
  · refine ⟨_, rfl, ?_⟩
    exact ⟨by simpa using hls, by simpa using hlv, fun _ => rfl, by simpa using hop,
      by simpa using hrs, by simpa using hrv, by simpa using hrt⟩
  · refine ⟨_, bind_pure_ok _ (Vocabulary.read_word (Vocabulary.allFindWords.comparison _)), ?_⟩
    exact ⟨by simpa using hls, by simpa using hlv, by simpa using hlt, fun _ => rfl,
      by simpa using hrs, by simpa using hrv, by simpa using hrt⟩
  · refine ⟨_, bind_pure_ok _ (Vocabulary.read_word (Vocabulary.allFindWords.operandSource _)), ?_⟩
    exact ⟨by simpa using hls, by simpa using hlv, by simpa using hlt, by simpa using hop,
      fun _ => rfl, by simpa using hrv, by simpa using hrt⟩
  · refine ⟨_, rfl, ?_⟩
    exact ⟨by simpa using hls, by simpa using hlv, by simpa using hlt, by simpa using hop,
      by simpa using hrs, fun _ => rfl, by simpa using hrt⟩
  · refine ⟨_, rfl, ?_⟩
    exact ⟨by simpa using hls, by simpa using hlv, by simpa using hlt, by simpa using hop,
      by simpa using hrs, by simpa using hrv, fun _ => rfl⟩

/-- A member with an unknown name sets nothing. -/
theorem readField_of_unknown (current : Condition) {spelling : String} (raw : Json)
    (h : present (FieldName.normalize spelling) ∉ names) :
    readField current spelling raw = .ok current := by
  change FieldName.renamed renamings (FieldName.normalize spelling) ∉ names at h
  unfold readField
  generalize FieldName.renamed renamings (FieldName.normalize spelling) = name at h ⊢
  split
  all_goals first
    | rfl
    | exact absurd (by decide) h

/-! ## All members -/

/-- **Members set their fields**, in any order and with other members among them. -/
theorem foldlM_readField {others : Members} (hothers : ∀ other ∈ others, present other.1 ∉ names)
    {given : Members} (hgiven : ∀ member ∈ Members.normalize given,
      member ∈ target.members ++ others) (h : Takes target current done) :
    ∃ last, given.foldlM (fun condition entry => readField condition entry.1 entry.2) current
        = .ok last
      ∧ Takes target last fun name => done name ∨ name ∈ (Members.normalize given).names := by
  induction given generalizing current done with
  | nil =>
    refine ⟨current, rfl, h.mono fun name _ hname => ?_⟩
    exact hname.resolve_right List.not_mem_nil
  | cons member given ih =>
    obtain ⟨spelling, raw⟩ := member
    obtain ⟨name, hname⟩ : ∃ name, FieldName.normalize spelling = name := ⟨_, rfl⟩
    rw [Members.normalize_cons, hname, List.forall_mem_cons, List.mem_append] at hgiven
    obtain ⟨hfirst, hrest⟩ := hgiven
    rw [List.foldlM_cons, Members.normalize_cons, hname]
    rcases hfirst with hfield | hother
    · obtain ⟨next, hread, hnext⟩ := readField_of_mem h hname hfield
      obtain ⟨last, hlast, htakes⟩ := ih hrest hnext
      rw [hread]
      refine ⟨last, hlast, htakes.mono fun other _ hother => ?_⟩
      rcases hother with hdone | hmem
      · exact .inl (.inl hdone)
      · rcases List.mem_cons.1 hmem with hfirst | hlater
        · exact .inl (.inr hfirst)
        · exact .inr hlater
    · have hunknown := hothers (name, raw) hother
      obtain ⟨last, hlast, htakes⟩ := ih hrest h
      rw [readField_of_unknown current raw (hname ▸ hunknown)]
      refine ⟨last, hlast, htakes.mono fun field hfield hdone => ?_⟩
      rcases hdone with hdone | hmem
      · exact .inl hdone
      · rcases List.mem_cons.1 hmem with rfl | hlater
        · -- The name of a field is not the name of what sets nothing.
          rw [present_of_mem_names _ hfield] at hunknown
          exact absurd hfield hunknown
        · exact .inr hlater

/-- **A condition is read back** from its members under any spelling, in any order, and with other
members among them that are none of its own. -/
theorem read_of_perm {condition : Condition} (others : Members) {given : Members}
    (hothers : ∀ other ∈ others, present other.1 ∉ names)
    (hperm : (Members.normalize given).Perm (condition.members ++ others)) :
    read given = .ok condition := by
  have hstart : Takes condition initial fun _ => False :=
    ⟨nofun, nofun, nofun, nofun, nofun, nofun, nofun⟩
  obtain ⟨last, hread, htakes⟩ :=
    foldlM_readField hothers (fun member hmember => hperm.mem_iff.1 hmember) hstart
  have hlast : last = condition := by
    refine htakes.eq fun name hname => .inr ?_
    have hnames := (hperm.map Prod.fst).mem_iff (a := name)
    rw [List.map_append, List.mem_append] at hnames
    exact hnames.2 (.inl hname)
  unfold read
  rw [hread, hlast]

/-- The condition in a field is what its object gives. -/
theorem field_of_some {source : Source} {name : String} {given : Members} {condition : Condition}
    (h : source name = some (.object given)) (hread : read given = .ok condition)
    (current : Condition) : field source name current = .ok condition :=
  (Field.orElse_of_some h _ _).trans hread

end DesktopMacro.Condition
