/-
The documents of an action, and reading any of them.

`toJson` writes one document of an action. There are others, and all of them are read alike: the
members can come under any spelling of their names and in any order, the type can be left out, since
the other names give the kind away, and the fields of a condition can lie among those of the action.
That can differ from action to action in a tree.

An action whose keys have their own names is put in order by whoever reads one of its documents, and
that fails only if something lies too deep. A settled action is in order and not too deep, so it is
read back from all of its documents.
-/
import DesktopMacro.Proofs.Action.Conditions
import DesktopMacro.Proofs.Action.Settled

set_option autoImplicit false

namespace DesktopMacro

/-! ## Documents -/

/-- **The forms of a condition**: an object of its own, or members among those of the action. -/
inductive Condition.Form (condition : Condition) : Members → Prop
  | nested {spelt : Members} (h : Members.Spelt condition.members spelt) :
    Form condition [("condition", .object spelt)]
  | flat : Form condition condition.members

/-- The fields of a loop, with a form of its condition and documents of the actions inside. -/
def LoopSpec.membersWith (spec : LoopSpec) (condition : Members) (items : List Json) : Members :=
  [("max_iterations", .int spec.maxIterations), ("use_condition", .bool spec.useCondition)]
    ++ condition ++ ("actions", .list items) :: spec.membersAfter

/-- The fields of a choice, with a form of its condition and documents of the actions inside. -/
def ChoiceSpec.membersWith (spec : ChoiceSpec) (condition : Members)
    (thenItems elseItems : List Json) : Members :=
  condition ++ ("then_actions", .list thenItems) :: ("else_actions", .list elseItems)
    :: spec.membersAfter

namespace Action

/-- An object with the members of an action of a kind, which may come without its type. -/
def IsObject (kind : Kind) (members : Members) (raw : Json) : Prop :=
  ∃ spelt, raw = .object spelt
    ∧ (Members.Spelt (("type", .text kind.word) :: members) spelt ∨ Members.Spelt members spelt)

mutual

/-- **The documents of an action.** -/
def WrittenAs : Action → Json → Prop
  | task header spec, raw => IsObject spec.kind (header.members ++ spec.members) raw
  | loop header spec actions, raw =>
    ∃ condition items, Condition.Form spec.condition condition ∧ AllWrittenAs actions items
      ∧ IsObject .loop (header.members ++ spec.membersWith condition items) raw
  | choice header spec thenActions elseActions, raw =>
    ∃ condition thenItems elseItems, Condition.Form spec.condition condition
      ∧ AllWrittenAs thenActions thenItems ∧ AllWrittenAs elseActions elseItems
      ∧ IsObject .choice (header.members ++ spec.membersWith condition thenItems elseItems) raw

/-- The documents of actions that stand side by side. -/
def AllWrittenAs : List Action → List Json → Prop
  | [], items => items = []
  | action :: actions, items =>
    ∃ item more, items = item :: more ∧ WrittenAs action item ∧ AllWrittenAs actions more

end

mutual

/-- **An action writes one of its documents.** -/
theorem writtenAs_toJson (action : Action) : action.WrittenAs action.toJson := by
  match action with
  | .task header spec =>
    unfold WrittenAs toJson
    exact ⟨_, rfl, .inl (.refl _)⟩
  | .loop header spec actions =>
    unfold WrittenAs toJson
    refine ⟨_, _, .nested (.refl _), allWrittenAs_toJsons actions, _, rfl, .inl ?_⟩
    rw [List.append_assoc]
    exact .refl _
  | .choice header spec thenActions elseActions =>
    unfold WrittenAs toJson
    refine ⟨_, _, _, .nested (.refl _), allWrittenAs_toJsons thenActions,
      allWrittenAs_toJsons elseActions, _, rfl, .inl ?_⟩
    rw [List.append_assoc]
    exact .refl _

theorem allWrittenAs_toJsons (actions : List Action) : AllWrittenAs actions (toJsons actions) := by
  match actions with
  | [] =>
    unfold AllWrittenAs toJsons
    rfl
  | action :: actions =>
    unfold AllWrittenAs toJsons
    exact ⟨_, _, rfl, writtenAs_toJson action, allWrittenAs_toJsons actions⟩

end

/-! ## Names -/

/-- The kind that names give away. -/
def Kind.guess? (names : List String) : Option Kind :=
  (signatures.find? fun entry => entry.2.any fun group => group.all names.contains).map Prod.fst

theorem Kind.guess_eq {names : List String} {kind : Kind} (h : Kind.guess? names = some kind) :
    Kind.guess names = .ok kind := by
  obtain ⟨entry, hentry, rfl⟩ := Option.map_eq_some_iff.1 h
  unfold Kind.guess
  rw [hentry]

/-- The names of the fields of a header. -/
def Header.names : List String := (Header.initial "").members.names

/-- The names of all fields. -/
def fieldNames : List String :=
  "type" :: (Header.names ++ Kind.all.flatMap fun kind =>
    ((Task.initial? kind).map fun initial => initial.members.names).getD [])
  ++ ["max_iterations", "use_condition", "condition", "actions", "list_variable_name",
    "item_variable_name", "then_actions", "else_actions", "use_else_branch"]
  ++ Condition.names

/-- **The names of fields can be told from their spellings.** -/
theorem isPlain_of_mem_fieldNames : ∀ name ∈ fieldNames, FieldName.IsPlain name.toList := by
  have hchars : ∀ cs ∈ fieldNames.map String.toList, FieldName.IsPlain cs := by decide +kernel
  exact fun name hname => hchars _ (List.mem_map_of_mem hname)

/-- **The names in a document** of a kind, that of the type left aside: each comes once, none is a
former name, and they give the kind away. -/
structure Kind.Names (kind : Kind) (names : List String) : Prop where
  nodup : ("type" :: names).Nodup
  known : ∀ name ∈ names, name ∈ fieldNames
  former : ∀ pair ∈ renamings kind, pair.1 ∉ names
  guess : Kind.guess? names = some kind

instance (kind : Kind) (names : List String) : Decidable (kind.Names names) :=
  decidable_of_iff (("type" :: names).Nodup ∧ (∀ name ∈ names, name ∈ fieldNames)
      ∧ (∀ pair ∈ renamings kind, pair.1 ∉ names) ∧ Kind.guess? names = some kind)
    ⟨fun ⟨hnodup, hknown, hformer, hguess⟩ => ⟨hnodup, hknown, hformer, hguess⟩,
      fun ⟨hnodup, hknown, hformer, hguess⟩ => ⟨hnodup, hknown, hformer, hguess⟩⟩

theorem names_of_initial : ∀ kind ∈ Kind.all, ∀ initial ∈ Task.initial? kind,
    kind.Names (Header.names ++ initial.members.names) := by
  decide +kernel

/-- The names of the two forms of a condition. -/
def conditionNames : List (List String) := [["condition"], Condition.names]

theorem names_of_loop : ∀ condition ∈ conditionNames,
    Kind.loop.Names (Header.names ++ (["max_iterations", "use_condition"] ++ condition
      ++ ["actions", "list_variable_name", "item_variable_name"])) := by
  decide +kernel

theorem names_of_choice : ∀ condition ∈ conditionNames,
    Kind.choice.Names (Header.names
      ++ (condition ++ ["then_actions", "else_actions", "use_else_branch"])) := by
  decide +kernel

/-! ## The kind of an object -/

theorem Kind.ofType?_word : ∀ kind : Kind, Kind.ofType? kind.word = some kind := by
  rintro (_ | _) <;> decide +kernel

theorem Kind.mem_all (kind : Kind) : kind ∈ Kind.all := by cases kind <;> decide

/-- A kind is known by its word. -/
theorem Kind.of_word (kind : Kind) (names : List String) :
    Kind.of (.text kind.word) names = .ok kind := by
  have hempty : (Json.text kind.word).isEmpty = false := by cases kind <;> decide
  have hwritable : (Json.text kind.word).isWritable = true := rfl
  unfold Kind.of Json.display
  rw [hempty, hwritable]
  dsimp only
  rw [Kind.ofType?_word kind]
  rfl

/-- The order of names does not matter to the kind. -/
theorem Kind.guess?_of_perm {names others : List String} (h : names.Perm others) :
    Kind.guess? names = Kind.guess? others := by
  have hcontains : names.contains = others.contains := funext fun name => h.contains_eq
  unfold Kind.guess?
  rw [hcontains]

/-- Builds an action of a kind from its fields. -/
def build (id : String) (kind : Kind) (fields : List Entry) : Except Cause Action := do
  let initial := Header.initial id
  match Task.initial? kind with
  | some spec =>
    let header ← initial.read (Entry.source fields)
    return task header (← spec.read (Entry.source fields))
  | none =>
    let fields := Entry.gatherCondition fields
    let header ← initial.read (Entry.source fields)
    if kind = .loop then
      let (spec, actions) ← LoopSpec.initial.read (Entry.source fields) (Entry.inside fields)
      return loop header spec actions
    else
      let (spec, thenActions, elseActions) ←
        ChoiceSpec.initial.read (Entry.source fields) (Entry.inside fields)
      return choice header spec thenActions elseActions

/-- The kind of the entries comes first, and what it makes of their fields after that. -/
theorem ofEntries_eq (id : String) (entries : List Entry) : ofEntries id entries =
    (Kind.of (((Entry.find? (Entry.normalizeAll entries) "type").map Entry.raw).getD .null)
      (((Entry.normalizeAll entries).filter fun entry => entry.name != "type").map Entry.name)
    >>= fun kind => build id kind ((renamings kind).foldl
      (fun done pair => Entry.rename done pair.1 pair.2)
      ((Entry.normalizeAll entries).filter fun entry => entry.name != "type"))) := rfl

/-- **The entries of an object are read as fields of its kind**, with the type or without it. -/
theorem ofEntries_of_object (id : String) {kind : Kind} {members spelt : Members}
    {entries : List Entry} (hentries : entries.map Entry.member = spelt)
    (hspelt : Members.Spelt (("type", .text kind.word) :: members) spelt
      ∨ Members.Spelt members spelt)
    (hnames : kind.Names members.names)
    {P : Json → Except Cause (List Action) → Prop} (hall : Entry.All P entries) :
    ∃ fields, Entry.Carry fields members ∧ Entry.All P fields
      ∧ ofEntries id entries = build id kind fields := by
  obtain ⟨htype, hnodup⟩ := List.nodup_cons.1 hnames.nodup
  have hplain : ∀ name ∈ "type" :: members.names, FieldName.IsPlain name.toList := by
    refine fun name hname => isPlain_of_mem_fieldNames name ?_
    rcases List.mem_cons.1 hname with rfl | hmem
    · exact List.mem_cons_self
    · exact hnames.known name hmem
  -- With or without a type, the other fields carry the members, and the kind is known.
  have hfields : Entry.Carry
        ((Entry.normalizeAll entries).filter fun entry => entry.name != "type") members
      ∧ ∀ names : List String, names.Perm members.names →
        Kind.of (((Entry.find? (Entry.normalizeAll entries) "type").map Entry.raw).getD .null) names
          = .ok kind := by
    rcases hspelt with hkept | hdropped
    · have hcarry := Entry.carry_normalizeAll hentries hkept hplain hnames.nodup
      obtain ⟨entry, -, hentry, hraw⟩ := hcarry.find? hnames.nodup List.mem_cons_self
      refine ⟨hcarry.without htype, fun names _ => ?_⟩
      rw [hentry, Option.map_some, Option.getD_some, hraw, Kind.of_word]
    · have hcarry := Entry.carry_normalizeAll hentries hdropped
        (fun name hname => hplain name (List.mem_cons_of_mem _ hname)) hnodup
      rw [hcarry.without_eq_self htype, hcarry.find?_none htype]
      refine ⟨hcarry, fun names hperm => ?_⟩
      exact Kind.guess_eq ((Kind.guess?_of_perm hperm).trans hnames.guess)
  obtain ⟨hcarry, hkind⟩ := hfields
  refine ⟨_, hcarry, hall.normalizeAll.filter _, ?_⟩
  rw [ofEntries_eq, hkind _ hcarry.names]
  change build id kind _ = _
  rw [Entry.foldl_rename fun pair hpair hmem =>
    hnames.former pair hpair (hcarry.names.mem_iff.1 hmem)]

/-! ## The fields of a kind -/

theorem Task.names_members (header : Header) (spec : Task) :
    spec.kind.Names (header.members ++ spec.members).names := by
  have hinitial : ∃ initial ∈ Task.initial? spec.kind, (header.members ++ spec.members).names
      = Header.names ++ initial.members.names := by
    cases spec <;> exact ⟨_, rfl, rfl⟩
  obtain ⟨initial, hkind, hnames⟩ := hinitial
  rw [hnames]
  exact names_of_initial spec.kind spec.kind.mem_all initial hkind

/-- No member of a task or its header is null. -/
theorem Task.members_ne_null (header : Header) (spec : Task) :
    ∀ member ∈ header.members ++ spec.members, member.2 ≠ .null := by
  cases spec <;> simp [Header.members, Task.members, MouseTask.members, KeyboardTask.members,
    WaitTask.members, VariableTask.members, ClipboardTask.members, PayloadTask.members,
    BrowserTask.members, FileTask.members]

/-- **A task is built from its fields.** -/
theorem build_task {id : String} {header : Header} {spec : Task} {fields : List Entry}
    (hcarry : Entry.Carry fields (header.members ++ spec.members)) (hspec : spec.Settled) :
    build id spec.kind fields = .ok (.task header.ordered spec) := by
  have hnodup := (List.nodup_cons.1 (Task.names_members header spec).nodup).2
  have hholds := hcarry.holds hnodup (Task.members_ne_null header spec)
  have hheader : (Header.initial id).read (Entry.source fields) = .ok header.ordered :=
    Header.read_of_holds (fun member hmember => hholds member (List.mem_append_left _ hmember)) _
  obtain ⟨initial, hinitial⟩ : ∃ initial, Task.initial? spec.kind = some initial := by
    cases spec <;> exact ⟨_, rfl⟩
  have htask : initial.read (Entry.source fields) = .ok spec :=
    hspec.read (fun member hmember => hholds member (List.mem_append_right _ hmember)) hinitial
  unfold build
  dsimp only
  rw [hinitial]
  dsimp only
  rw [hheader]
  exact bind_pure_ok (Action.task header.ordered) htask

/-! ## The actions inside -/

/-- An entry with a list gives what the list is read as. -/
def Reads (supply : Supply) (place : List Nat) (raw : Json)
    (actions : Except Cause (List Action)) : Prop :=
  ∀ items, raw = .list items → ∃ index, actions = readAll supply (index :: place) 0 items

theorem reads_readMembers (supply : Supply) (place : List Nat) (index : Nat) (members : Members) :
    Entry.All (Reads supply place) (readMembers supply place index members) := by
  induction members generalizing index with
  | nil =>
    unfold readMembers
    exact fun entry hentry => absurd hentry List.not_mem_nil
  | cons member members ih =>
    obtain ⟨name, raw⟩ := member
    cases raw with
    | list items =>
      unfold readMembers
      refine List.forall_mem_cons.2 ⟨?_, ih (index + 1)⟩
      rintro _ ⟨⟩
      exact ⟨index, rfl⟩
    | _ =>
      unfold readMembers
      exact List.forall_mem_cons.2 ⟨nofun, ih (index + 1)⟩

/-- The actions inside are what the list is read as. -/
theorem inside_of_carry {fields : List Entry} {members : Members} {supply : Supply}
    {place : List Nat} (hcarry : Entry.Carry fields members) (hnodup : members.names.Nodup)
    (hreads : Entry.All (Reads supply place) fields) {name : String} {items : List Json}
    (hmem : (name, .list items) ∈ members) :
    ∃ index, Entry.inside fields name = readAll supply (index :: place) 0 items := by
  obtain ⟨⟨name', raw, given⟩, hentry, hfind, rfl⟩ := hcarry.find? hnodup hmem
  obtain ⟨index, hgiven⟩ := hreads _ hentry items rfl
  refine ⟨index, ?_⟩
  unfold Entry.inside
  rw [hfind]
  exact hgiven

/-! ## Conditions -/

/-- The names of the fields of a loop or a choice, those of the condition left aside. -/
def flowNames : List String :=
  Header.names ++ ["max_iterations", "use_condition", "actions", "list_variable_name",
    "item_variable_name", "then_actions", "else_actions", "use_else_branch"]

theorem conditionNames_known : ∀ name ∈ Condition.names, name ∈ fieldNames := by decide

/-- No other field is taken for one of a condition. -/
theorem present_of_mem_flowNames : ∀ name ∈ flowNames,
    name ≠ "condition" ∧ Condition.present name ∉ Condition.names := by
  decide

/-- Members whose names are those of fields are normalised already. -/
theorem normalize_perm {members : Members} (h : ∀ name ∈ members.names, name ∈ fieldNames) :
    (Members.normalize members).Perm members :=
  (Members.Spelt.refl members).normalize fun name hname =>
    isPlain_of_mem_fieldNames name (h name hname)

/-- **A condition is gathered** from the fields, unless it is there already. -/
theorem carry_gatherCondition {condition : Condition} {form others : Members} {fields : List Entry}
    (hform : Condition.Form condition form) (hcarry : Entry.Carry fields (form ++ others))
    (hnodup : (form ++ others).names.Nodup)
    (hknown : ∀ name ∈ (form ++ others).names, name ∈ fieldNames)
    (hothers : ∀ name ∈ others.names, name ∈ flowNames) :
    ∃ given rest : Members, Condition.read given = .ok condition
      ∧ Entry.Carry (Entry.gatherCondition fields) (("condition", .object given) :: rest)
      ∧ ("condition" :: rest.names).Nodup ∧ ∀ other ∈ others, other ∈ rest := by
  cases hform with
  | @nested spelt hspelt =>
    obtain ⟨entry, -, hentry, -⟩ := hcarry.find? hnodup List.mem_cons_self
    have hgather : Entry.gatherCondition fields = fields := by
      unfold Entry.gatherCondition
      rw [hentry]
      rfl
    have hread : Condition.read spelt = .ok condition := by
      refine Condition.read_of_perm [] (by simp) ?_
      rw [List.append_nil]
      exact hspelt.normalize fun name hname =>
        isPlain_of_mem_fieldNames name (conditionNames_known name hname)
    refine ⟨spelt, others, hread, ?_, hnodup, fun other hother => hother⟩
    rw [hgather]
    exact hcarry
  | flat =>
    have hnames : "condition" ∉ (condition.members ++ others).names := by
      rw [Members.names_append, List.mem_append, not_or, Condition.names_members]
      exact ⟨by decide, fun hmem => (present_of_mem_flowNames _ (hothers _ hmem)).1 rfl⟩
    have hfind := hcarry.find?_none hnames
    have hany : fields.any (fun entry => Entry.isOfCondition entry.name) = true := by
      have hoperator : ("operator", .text (Vocabulary.word condition.comparison))
          ∈ condition.members ++ others := by simp [Condition.members]
      obtain ⟨entry, hentry, hfound, -⟩ := hcarry.find? hnodup hoperator
      refine List.any_eq_true.2 ⟨entry, hentry, ?_⟩
      rw [Entry.name_of_find? hfound]
      decide
    have hgather : Entry.gatherCondition fields = fields
        ++ [⟨"condition", .object (fields.map Entry.member),
          .error (.action (.notActions "condition"))⟩] := by
      unfold Entry.gatherCondition
      rw [hfind, hany]
      rfl
    have hread : Condition.read (fields.map Entry.member) = .ok condition := by
      refine Condition.read_of_perm others (fun other hother => ?_) ?_
      · exact (present_of_mem_flowNames _ (hothers _ (List.mem_map_of_mem hother))).2
      · -- The fields are gathered under their present names.
        refine (normalize_perm fun name hname => hknown name ?_).trans hcarry
        exact (hcarry.map Prod.fst).mem_iff.1 hname
    refine ⟨fields.map Entry.member, condition.members ++ others, hread, ?_,
      List.nodup_cons.2 ⟨hnames, hnodup⟩, fun other hother => List.mem_append_right _ hother⟩
    rw [hgather]
    unfold Entry.Carry
    rw [List.map_append, List.map_singleton]
    exact List.perm_append_comm.trans (hcarry.cons _)

/-- **Gathered fields**: they have the condition, the other members, and the actions inside. -/
structure Gathered (supply : Supply) (place : List Nat) (condition : Condition) (others : Members)
    (fields : List Entry) : Prop where
  condition : ∃ given, Entry.source fields "condition" = some (.object given)
    ∧ Condition.read given = .ok condition
  holds : (Entry.source fields).Holds others
  inside : ∀ name items, (name, .list items) ∈ others →
    ∃ index, Entry.inside fields name = readAll supply (index :: place) 0 items

/-- **Fields are gathered** whatever the form of the condition is. -/
theorem gathered_gatherCondition {kind : Kind} {condition : Condition}
    {form others members : Members} {fields : List Entry} {supply : Supply} {place : List Nat}
    (hform : Condition.Form condition form) (hcarry : Entry.Carry fields members)
    (hreads : Entry.All (Reads supply place) fields) (hnames : kind.Names members.names)
    (hperm : members.Perm (form ++ others)) (hothers : ∀ name ∈ others.names, name ∈ flowNames)
    (hnull : ∀ other ∈ others, other.2 ≠ .null) :
    Gathered supply place condition others (Entry.gatherCondition fields) := by
  have hsame : ∀ name, name ∈ (form ++ others).names ↔ name ∈ members.names := fun name =>
    (hperm.map Prod.fst).mem_iff.symm
  obtain ⟨given, rest, hread, hgathered, hnodup, hrest⟩ :=
    carry_gatherCondition hform (hcarry.trans hperm)
      ((hperm.map Prod.fst).nodup_iff.1 (List.nodup_cons.1 hnames.nodup).2)
      (fun name hname => hnames.known name ((hsame name).1 hname)) hothers
  refine ⟨⟨given, hgathered.source_of_mem hnodup List.mem_cons_self nofun, hread⟩,
    fun other hother => ?_, fun name items hmem => ?_⟩
  · exact hgathered.source_of_mem hnodup (List.mem_cons_of_mem _ (hrest other hother))
      (hnull other hother)
  · exact inside_of_carry hgathered hnodup (hreads.gatherCondition nofun)
      (List.mem_cons_of_mem _ (hrest _ hmem))

/-! ## Loops and choices -/

theorem names_of_form {condition : Condition} {form : Members}
    (h : Condition.Form condition form) : form.names ∈ conditionNames := by
  cases h with
  | nested h => exact List.mem_cons_self
  | flat => exact List.mem_cons_of_mem _ List.mem_cons_self

/-- **A loop is read back** from its fields, with whatever the actions inside are read as. -/
theorem readLoop_of_holds {spec : LoopSpec} {given : Members} {items : List Json}
    {source : Source} (hcondition : source "condition" = some (.object given))
    (hread : Condition.read given = .ok spec.condition)
    (h : source.Holds (spec.membersWith [] items))
    (inside : String → Except Cause (List Action)) (initial : LoopSpec) :
    initial.read source inside = (spec, ·) <$> inside "actions" := by
  unfold LoopSpec.membersWith LoopSpec.membersAfter Source.Holds at h
  simp only [List.append_nil, List.cons_append, List.nil_append, List.forall_mem_cons] at h
  obtain ⟨hmax, huse, -, hlist, hitem, -⟩ := h
  unfold LoopSpec.read
  rw [Field.integer_of_some hmax, Field.bool_of_some huse,
    Condition.field_of_some hcondition hread, Field.text_of_some hlist, Field.text_of_some hitem]
  cases inside "actions" <;> rfl

/-- **A choice is read back** from its fields, with whatever the actions inside are read as. -/
theorem readChoice_of_holds {spec : ChoiceSpec} {given : Members} {thenItems elseItems : List Json}
    {source : Source} (hcondition : source "condition" = some (.object given))
    (hread : Condition.read given = .ok spec.condition)
    (h : source.Holds (spec.membersWith [] thenItems elseItems))
    (inside : String → Except Cause (List Action)) (initial : ChoiceSpec) :
    initial.read source inside
      = (do return (spec, ← inside "then_actions", ← inside "else_actions")) := by
  unfold ChoiceSpec.membersWith ChoiceSpec.membersAfter Source.Holds at h
  simp only [List.nil_append, List.forall_mem_cons] at h
  obtain ⟨-, -, huse, -⟩ := h
  unfold ChoiceSpec.read
  rw [Condition.field_of_some hcondition hread, Field.bool_of_some huse]
  cases inside "then_actions" with
  | error cause => rfl
  | ok thenActions => cases inside "else_actions" <;> rfl

theorem names_membersWith_loop (header : Header) {spec : LoopSpec} {form : Members}
    (hform : Condition.Form spec.condition form) (items : List Json) :
    Kind.loop.Names (header.members ++ spec.membersWith form items).names := by
  have hall := names_of_loop form.names (names_of_form hform)
  unfold LoopSpec.membersWith
  rw [Members.names_append, Members.names_append, Members.names_append]
  exact hall

theorem names_membersWith_choice (header : Header) {spec : ChoiceSpec} {form : Members}
    (hform : Condition.Form spec.condition form) (thenItems elseItems : List Json) :
    Kind.choice.Names (header.members ++ spec.membersWith form thenItems elseItems).names := by
  have hall := names_of_choice form.names (names_of_form hform)
  unfold ChoiceSpec.membersWith
  rw [Members.names_append, Members.names_append]
  exact hall

section Flow

variable {supply : Supply} {place : List Nat} {fields : List Entry} {id : String} {header : Header}

/-- **A loop is built** from its fields, with whatever the actions inside are read as. -/
theorem build_loop {spec : LoopSpec} {form : Members} {items : List Json}
    (hform : Condition.Form spec.condition form)
    (hcarry : Entry.Carry fields (header.members ++ spec.membersWith form items))
    (hreads : Entry.All (Reads supply place) fields) :
    ∃ index, build id .loop fields
      = .loop header.ordered spec <$> readAll supply (index :: place) 0 items := by
  have hnames := names_membersWith_loop header hform items
  have hperm : (header.members ++ spec.membersWith form items).Perm
      (form ++ (header.members ++ spec.membersWith [] items)) := by
    unfold LoopSpec.membersWith
    simp only [List.append_nil, ← List.append_assoc]
    rw [List.append_assoc form header.members]
    exact List.perm_append_comm.append_right _
  have hothers : ∀ name ∈ (header.members ++ spec.membersWith [] items).names,
      name ∈ flowNames := by
    have hall : ∀ name ∈ Header.names ++ ["max_iterations", "use_condition", "actions",
      "list_variable_name", "item_variable_name"], name ∈ flowNames := by decide
    exact hall
  have hnull : ∀ other ∈ header.members ++ spec.membersWith [] items, other.2 ≠ .null := by
    simp [Header.members, LoopSpec.membersWith, LoopSpec.membersAfter]
  obtain ⟨⟨given, hcondition, hread⟩, hholds, hinside⟩ :=
    gathered_gatherCondition hform hcarry hreads hnames hperm hothers hnull
  obtain ⟨index, hitems⟩ := hinside "actions" items (by simp [LoopSpec.membersWith])
  have hheader := Header.read_of_holds
    (fun member hmember => hholds member (List.mem_append_left _ hmember)) (Header.initial id)
  have hspec := readLoop_of_holds hcondition hread
    (fun member hmember => hholds member (List.mem_append_right _ hmember))
    (Entry.inside (Entry.gatherCondition fields)) LoopSpec.initial
  refine ⟨index, ?_⟩
  unfold build
  dsimp only [Task.initial?]
  rw [hheader, hspec, hitems]
  cases readAll supply (index :: place) 0 items <;> rfl

/-- **A choice is built** from its fields, with whatever the actions inside are read as. -/
theorem build_choice {spec : ChoiceSpec} {form : Members} {thenItems elseItems : List Json}
    (hform : Condition.Form spec.condition form)
    (hcarry : Entry.Carry fields (header.members ++ spec.membersWith form thenItems elseItems))
    (hreads : Entry.All (Reads supply place) fields) :
    ∃ first second, build id .choice fields = (do
      let thenActions ← readAll supply (first :: place) 0 thenItems
      let elseActions ← readAll supply (second :: place) 0 elseItems
      return .choice header.ordered spec thenActions elseActions) := by
  have hnames := names_membersWith_choice header hform thenItems elseItems
  have hperm : (header.members ++ spec.membersWith form thenItems elseItems).Perm
      (form ++ (header.members ++ spec.membersWith [] thenItems elseItems)) := by
    unfold ChoiceSpec.membersWith
    rw [List.nil_append, ← List.append_assoc, ← List.append_assoc]
    exact List.perm_append_comm.append_right _
  have hothers : ∀ name ∈ (header.members ++ spec.membersWith [] thenItems elseItems).names,
      name ∈ flowNames := by
    have hall : ∀ name ∈ Header.names ++ ["then_actions", "else_actions", "use_else_branch"],
        name ∈ flowNames := by decide
    exact hall
  have hnull : ∀ other ∈ header.members ++ spec.membersWith [] thenItems elseItems,
      other.2 ≠ .null := by
    simp [Header.members, ChoiceSpec.membersWith, ChoiceSpec.membersAfter]
  obtain ⟨⟨given, hcondition, hread⟩, hholds, hinside⟩ :=
    gathered_gatherCondition hform hcarry hreads hnames hperm hothers hnull
  obtain ⟨first, hthen⟩ := hinside "then_actions" thenItems (by simp [ChoiceSpec.membersWith])
  obtain ⟨second, helse⟩ := hinside "else_actions" elseItems (by simp [ChoiceSpec.membersWith])
  have hheader := Header.read_of_holds
    (fun member hmember => hholds member (List.mem_append_left _ hmember)) (Header.initial id)
  have hspec := readChoice_of_holds hcondition hread
    (fun member hmember => hholds member (List.mem_append_right _ hmember))
    (Entry.inside (Entry.gatherCondition fields)) ChoiceSpec.initial
  refine ⟨first, second, ?_⟩
  unfold build
  dsimp only [Task.initial?]
  rw [hheader, hspec, hthen, helse]
  cases readAll supply (first :: place) 0 thenItems with
  | error cause => rfl
  | ok thenActions => cases readAll supply (second :: place) 0 elseItems <;> rfl

end Flow

/-! ## Reading documents -/

/-- **A value, unless something lies too deep** to be read. -/
def unlessDeep {α : Type} (shallow : Bool) (value : α) : Except Cause α :=
  if shallow then .ok value else .error (.tooDeep none)

section UnlessDeep

variable {α β γ : Type} (shallow : Bool) (value : α)

theorem map_unlessDeep (f : α → β) :
    f <$> unlessDeep shallow value = unlessDeep shallow (f value) := by
  cases shallow <;> rfl

theorem unlessDeep_bind_unlessDeep (shallow' : Bool) (value' : β) (f : α → β → γ) :
    (do
      let a ← unlessDeep shallow value
      let b ← unlessDeep shallow' value'
      return f a b) = unlessDeep (shallow && shallow') (f value value') := by
  cases shallow <;> cases shallow' <;> rfl

theorem eq_of_unlessDeep {shallow : Bool} {value result : α}
    (h : unlessDeep shallow value = .ok result) : value = result := by
  cases shallow with
  | true => exact Except.ok.inj h
  | false => cases h

end UnlessDeep

/-- **An object of a kind is read** by building the action from its fields, unless it lies too deep
itself. -/
theorem read_of_isObject {kind : Kind} {members : Members} {raw : Json} {supply : Supply}
    {place : List Nat} {shallow : Bool} {action : Action} (hnames : kind.Names members.names)
    (hobject : IsObject kind members raw)
    (hbuild : ∀ fields, Entry.Carry fields members → Entry.All (Reads supply place) fields →
      build (supply place) kind fields = unlessDeep shallow action) :
    read supply place raw = unlessDeep (decide (place.length < 2 * deepest) && shallow) action := by
  obtain ⟨spelt, rfl, hspelt⟩ := hobject
  unfold read
  by_cases hdepth : place.length < 2 * deepest
  · obtain ⟨fields, hcarry, hreads, hfields⟩ := ofEntries_of_object (supply place)
      (Entry.map_readMembers supply place 0 spelt) hspelt hnames
      (reads_readMembers supply place 0 spelt)
    rw [if_neg (Nat.not_le_of_lt hdepth), hfields, hbuild fields hcarry hreads]
    simp [hdepth]
  · rw [if_pos (Nat.le_of_not_lt hdepth)]
    simp [hdepth, unlessDeep]

mutual

/-- **An action whose keys have their own names is read in order from all of its documents**, unless
it goes too deep. -/
theorem KeysNamed.read {action : Action} (h : action.KeysNamed) (supply : Supply)
    (place : List Nat) {raw : Json} (hwritten : action.WrittenAs raw) :
    read supply place raw = unlessDeep (action.isShallow place.length) action.ordered := by
  match action with
  | .task header spec =>
    unfold WrittenAs at hwritten
    unfold isShallow ordered
    -- Nothing lies inside, so only the task itself can lie too deep.
    rw [← Bool.and_true (decide _)]
    apply read_of_isObject (Task.names_members header spec) hwritten
    intro fields hcarry _
    exact build_task hcarry (keysNamed_task.1 h)
  | .loop header spec actions =>
    unfold WrittenAs at hwritten
    obtain ⟨form, items, hform, hitems, hobject⟩ := hwritten
    unfold isShallow ordered
    apply read_of_isObject (names_membersWith_loop header hform items) hobject
    intro fields hcarry hreads
    -- The place of the actions inside depends on where their member stands in the document.
    obtain ⟨index, hbuild⟩ := build_loop hform hcarry hreads
    rw [hbuild, (keysNamed_loop.1 h).readAll supply (index :: place) hitems 0, map_unlessDeep]
    rfl
  | .choice header spec thenActions elseActions =>
    unfold WrittenAs at hwritten
    obtain ⟨form, thenItems, elseItems, hform, hthenItems, helseItems, hobject⟩ := hwritten
    unfold isShallow ordered
    apply read_of_isObject (names_membersWith_choice header hform thenItems elseItems) hobject
    intro fields hcarry hreads
    obtain ⟨first, second, hbuild⟩ := build_choice hform hcarry hreads
    obtain ⟨hthen, helse⟩ := keysNamed_choice.1 h
    rw [hbuild, hthen.readAll supply (first :: place) hthenItems 0,
      helse.readAll supply (second :: place) helseItems 0]
    exact unlessDeep_bind_unlessDeep _ _ _ _ (choice header.ordered spec)

theorem AllKeysNamed.readAll {actions : List Action} (h : AllKeysNamed actions) (supply : Supply)
    (place : List Nat) {items : List Json} (hwritten : AllWrittenAs actions items) (index : Nat) :
    readAll supply place index items
      = unlessDeep (areShallow (place.length + 1) actions) (allOrdered actions) := by
  match actions with
  | [] =>
    unfold AllWrittenAs at hwritten
    subst hwritten
    unfold Action.readAll
    rfl
  | action :: actions =>
    unfold AllWrittenAs at hwritten
    obtain ⟨item, more, rfl, hitem, hmore⟩ := hwritten
    obtain ⟨haction, hactions⟩ := allKeysNamed_cons.1 h
    unfold Action.readAll
    rw [haction.read supply (index :: place) hitem, hactions.readAll supply place hmore]
    exact unlessDeep_bind_unlessDeep _ _ _ _ List.cons

end

/-- **A settled action is read back from all of its documents.** -/
theorem Settled.read {action : Action} (supply : Supply) (place : List Nat) {raw : Json}
    (h : action.Settled place.length) (hwritten : action.WrittenAs raw) :
    read supply place raw = .ok action := by
  obtain ⟨hshallow, hnamed, hordered⟩ := h.parts
  rw [hnamed.read supply place hwritten, hshallow, hordered]
  rfl

theorem AllSettled.readAll {actions : List Action} (supply : Supply) (place : List Nat)
    {items : List Json} (h : AllSettled (place.length + 1) actions)
    (hwritten : AllWrittenAs actions items) (index : Nat) :
    readAll supply place index items = .ok actions := by
  obtain ⟨hshallow, hnamed, hordered⟩ := h.parts
  rw [hnamed.readAll supply place hwritten, hshallow, hordered]
  rfl

/-- **Every document of an action that was read is read as that action.** -/
theorem read_of_writtenAs {supply other : Supply} {place outer : List Nat} {raw document : Json}
    {action : Action} (hread : read supply place raw = .ok action)
    (houter : outer.length ≤ place.length) (hdocument : action.WrittenAs document) :
    read other outer document = .ok action :=
  ((settled_of_read hread).mono houter).read other outer hdocument

/-! A choice with a loop inside and a pause in the loop, each written in its own way. -/

def pausingHeader (name id : String) : Header := { Header.initial id with name }

def pausingLoopSpec : LoopSpec := ⟨3, true, .initial, "rows", "row"⟩

def pausingWait : Action := .task (pausingHeader "" "w") (.wait ⟨250⟩)

def pausingLoop : Action := .loop (pausingHeader "" "l") pausingLoopSpec [pausingWait]

def pausingChoice : Action :=
  .choice (pausingHeader "Ready?" "c") ⟨.initial, true⟩ [pausingLoop] []

/-- No type, and capitals inside the names. -/
def pausingWaitDocument : Json :=
  .object (Members.camel ((pausingHeader "" "w").members ++ (Task.wait ⟨250⟩).members))

/-- Capitals in front of all names, those of the condition too. -/
def pausingLoopDocument : Json :=
  .object (Members.pascal (("type", .text Kind.loop.word) :: ((pausingHeader "" "l").members
    ++ pausingLoopSpec.membersWith [("condition", .object Condition.initial.members.pascal)]
      [pausingWaitDocument])))

/-- No type, and the fields of the condition among those of the choice. -/
def pausingChoiceDocument : Json :=
  .object (Members.camel ((pausingHeader "Ready?" "c").members
    ++ ChoiceSpec.membersWith ⟨.initial, true⟩ Condition.initial.members [pausingLoopDocument] []))

theorem writtenAs_pausingChoiceDocument : pausingChoice.WrittenAs pausingChoiceDocument := by
  have hwait : pausingWait.WrittenAs pausingWaitDocument :=
    ⟨_, rfl, .inr (Members.spelt_camel _)⟩
  have hloop : pausingLoop.WrittenAs pausingLoopDocument :=
    ⟨_, _, .nested (Members.spelt_pascal _), ⟨_, _, rfl, hwait, rfl⟩,
      _, rfl, .inl (Members.spelt_pascal _)⟩
  exact ⟨_, _, _, .flat, ⟨_, _, rfl, hloop, rfl⟩, rfl, _, rfl, .inr (Members.spelt_camel _)⟩

theorem settled_pausingChoice : pausingChoice.Settled 0 := by
  simp [pausingChoice, pausingLoop, pausingWait, pausingHeader, Header.initial, Settled,
    AllSettled, Task.Settled, deepest]

theorem read_of_writtenAs_pausing :
    read (fun _ => "") [] pausingChoice.toJson = .ok pausingChoice
      ∧ ([] : List Nat).length ≤ ([] : List Nat).length
      ∧ pausingChoice.WrittenAs pausingChoiceDocument
      ∧ read (fun _ => "") [] pausingChoiceDocument = .ok pausingChoice := by
  have hread : read (fun _ => "") [] pausingChoice.toJson = .ok pausingChoice :=
    settled_pausingChoice.read _ [] (writtenAs_toJson _)
  exact ⟨hread, Nat.le_refl _, writtenAs_pausingChoiceDocument,
    read_of_writtenAs hread (Nat.le_refl _) writtenAs_pausingChoiceDocument⟩

end Action
end DesktopMacro
