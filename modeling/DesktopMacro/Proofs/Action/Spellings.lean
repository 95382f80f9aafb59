/-
Members under other spellings of their names, in any order.

A name of several words is written with underscores between them, or with capitals where they start.
`Spelt` says that an object has some members, each under one of the spellings of its name and in any
order. The entries that are made of such an object get their present names back, and then they carry
the members: they are the same up to order. Names are different, so an order does not matter to
whoever looks one up.
-/
import Mathlib.Data.List.Nodup
import Mathlib.Data.List.Perm.Basic
import DesktopMacro.Action.Reading

set_option autoImplicit false

namespace DesktopMacro

/-! ## Names -/

namespace FieldName

/-- A word with a capital in front. -/
def capitalized : List Char → List Char
  | [] => []
  | c :: cs => c.toUpper :: cs

/-- The characters of a name with a capital where a word starts. -/
def pascalChars (cs : List Char) : List Char :=
  (Text.splitAt (· == '_') cs).flatMap capitalized

/-- The characters of a name with a capital where a word starts, apart from the first one. -/
def camelChars (cs : List Char) : List Char :=
  match Text.splitAt (· == '_') cs with
  | [] => []
  | first :: more => first ++ more.flatMap capitalized

/-- **A spelling of a name**: with underscores, or with capitals where words start. -/
def IsSpelling (name spelling : String) : Prop :=
  spelling = name ∨ spelling = String.ofList (camelChars name.toList)
    ∨ spelling = String.ofList (pascalChars name.toList)

instance (name spelling : String) : Decidable (IsSpelling name spelling) :=
  inferInstanceAs (Decidable (_ ∨ _ ∨ _))

/-- What normalising does to the characters. -/
def normalizeChars (cs : List Char) : List Char :=
  Text.lowerAfter [] (markCapitals (markWords false cs))

theorem normalize_ofList (cs : List Char) :
    normalize (String.ofList cs) = String.ofList (normalizeChars cs) := by
  unfold normalize Text.lower normalizeChars
  rw [String.toList_ofList, String.toList_ofList]

/-- A name, given by its characters, that can be told from its spellings. -/
def IsPlain (cs : List Char) : Prop :=
  normalizeChars cs = cs ∧ normalizeChars (camelChars cs) = cs
    ∧ normalizeChars (pascalChars cs) = cs

instance (cs : List Char) : Decidable (IsPlain cs) := inferInstanceAs (Decidable (_ ∧ _ ∧ _))

/-- A spelling is normalised to the name. -/
theorem IsSpelling.normalize {name spelling : String} (h : IsSpelling name spelling)
    (hplain : IsPlain name.toList) : FieldName.normalize spelling = name := by
  obtain ⟨hsnake, hcamel, hpascal⟩ := hplain
  have hname : String.ofList name.toList = name := String.ofList_toList
  rcases h with rfl | rfl | rfl
  · rw [← hname, normalize_ofList, hsnake]
  · rw [normalize_ofList, hcamel, hname]
  · rw [normalize_ofList, hpascal, hname]

end FieldName

/-! ## Members -/

namespace Members

/-- The names of members. -/
def names (members : Members) : List String := members.map Prod.fst

theorem names_append (members others : Members) :
    (members ++ others : Members).names = members.names ++ others.names := List.map_append

/-- Each member under a spelling of its name. -/
def EachSpelt (members spelt : Members) : Prop :=
  List.Forall₂ (fun member other => FieldName.IsSpelling member.1 other.1 ∧ other.2 = member.2)
    members spelt

/-- **Members under spellings of their names**, in any order. -/
def Spelt (members spelt : Members) : Prop :=
  ∃ ordered, members.Perm ordered ∧ EachSpelt ordered spelt

/-- The members under the present spelling of their names. -/
def normalize (members : Members) : Members :=
  members.map fun member => (FieldName.normalize member.1, member.2)

theorem normalize_cons (member : String × Json) (members : Members) :
    normalize (member :: members) = (FieldName.normalize member.1, member.2) :: normalize members :=
  rfl

/-- Members that are spelt as they are. -/
theorem EachSpelt.refl (members : Members) : EachSpelt members members := by
  induction members with
  | nil => exact .nil
  | cons member members ih => exact .cons ⟨.inl rfl, rfl⟩ ih

theorem Spelt.refl (members : Members) : Spelt members members :=
  ⟨members, .refl members, .refl members⟩

/-- Members with a capital where a word of a name starts. -/
def pascal (members : Members) : Members :=
  members.map fun member => (String.ofList (FieldName.pascalChars member.1.toList), member.2)

/-- Members with a capital where a word of a name starts, apart from the first one. -/
def camel (members : Members) : Members :=
  members.map fun member => (String.ofList (FieldName.camelChars member.1.toList), member.2)

theorem spelt_pascal (members : Members) : Spelt members members.pascal := by
  refine ⟨members, .refl members, ?_⟩
  unfold pascal EachSpelt
  rw [List.forall₂_map_right_iff, List.forall₂_same]
  exact fun member _ => ⟨.inr (.inr rfl), rfl⟩

theorem spelt_camel (members : Members) : Spelt members members.camel := by
  refine ⟨members, .refl members, ?_⟩
  unfold camel EachSpelt
  rw [List.forall₂_map_right_iff, List.forall₂_same]
  exact fun member _ => ⟨.inr (.inl rfl), rfl⟩

/-- **Spelt members are normalised to the members.** -/
theorem Spelt.normalize {members spelt : Members} (h : Spelt members spelt)
    (hplain : ∀ name ∈ members.names, FieldName.IsPlain name.toList) :
    (Members.normalize spelt).Perm members := by
  obtain ⟨ordered, hperm, hspelt⟩ := h
  have hordered : Members.normalize spelt = ordered := by
    have hnames : ∀ member ∈ ordered, FieldName.IsPlain member.1.toList := fun member hmember =>
      hplain _ (List.mem_map_of_mem (hperm.mem_iff.2 hmember))
    clear hperm
    induction hspelt with
    | nil => rfl
    | @cons member other ordered spelt hother _ ih =>
      obtain ⟨hname, hvalue⟩ := hother
      have hhead : (FieldName.normalize other.1, other.2) = member := by
        rw [hname.normalize (hnames member List.mem_cons_self), hvalue]
      unfold Members.normalize at ih ⊢
      rw [List.map_cons, hhead, ih fun m hm => hnames m (List.mem_cons_of_mem _ hm)]
  rw [hordered]
  exact hperm.symm

end Members

/-- **A source holds members**: it has something for each of their names, and that is it. -/
def Source.Holds (source : Source) (members : Members) : Prop :=
  ∀ entry ∈ members, source entry.1 = some entry.2

/-! ## Entries -/

namespace Action.Entry

/-- What an entry holds, as a member. -/
def member (entry : Entry) : String × Json := (entry.name, entry.raw)

/-- **Entries carry members**: they hold them, in any order. -/
def Carry (entries : List Entry) (members : Members) : Prop := (entries.map member).Perm members

/-- Entries hold what the members hold. -/
theorem map_readMembers (supply : Supply) (place : List Nat) (index : Nat) (members : Members) :
    (readMembers supply place index members).map member = members := by
  induction members generalizing index with
  | nil => simp [readMembers]
  | cons entry members ih =>
    obtain ⟨name, raw⟩ := entry
    cases raw <;> simp [readMembers, ih, member]

theorem Carry.names {entries : List Entry} {members : Members} (h : Carry entries members) :
    (entries.map Entry.name).Perm members.names := by
  have hnames := h.map Prod.fst
  rw [List.map_map] at hnames
  exact hnames

/-! ### Present names -/

/-- An entry whose name is new is put at the end. -/
theorem putInto_of_not_mem {entries : List Entry} {entry : Entry}
    (h : entry.name ∉ entries.map Entry.name) : putInto entries entry = entries ++ [entry] := by
  induction entries with
  | nil => rfl
  | cons other others ih =>
    rw [List.map_cons, List.mem_cons, not_or] at h
    have hother : (other.name == entry.name) = false := beq_eq_false_iff_ne.2 (Ne.symm h.1)
    unfold putInto
    rw [hother, ih h.2]
    rfl

/-- Entries whose present names are different only change their names. -/
theorem normalizeAll_of_nodup {entries : List Entry}
    (hnodup : (entries.map fun entry => FieldName.normalize entry.name).Nodup) :
    normalizeAll entries
      = entries.map fun entry => { entry with name := FieldName.normalize entry.name } := by
  -- The entries that have been passed are generalised; they have other names.
  have hfold : ∀ done : List Entry,
      (done.map Entry.name ++ entries.map fun entry => FieldName.normalize entry.name).Nodup →
      entries.foldl (fun done entry =>
        putInto done { entry with name := FieldName.normalize entry.name }) done
          = done ++ entries.map fun entry =>
            { entry with name := FieldName.normalize entry.name } := by
    clear hnodup
    induction entries with
    | nil => simp
    | cons entry entries ih =>
      intro done hdone
      have hnew : FieldName.normalize entry.name ∉ done.map Entry.name := by
        rw [List.map_cons] at hdone
        exact fun hmem => List.disjoint_of_nodup_append hdone hmem List.mem_cons_self
      have hput : putInto done { entry with name := FieldName.normalize entry.name }
          = done ++ [{ entry with name := FieldName.normalize entry.name }] :=
        putInto_of_not_mem hnew
      have hnext : ((done ++ [{ entry with name := FieldName.normalize entry.name }]).map Entry.name
          ++ entries.map fun entry => FieldName.normalize entry.name).Nodup := by
        rw [List.map_append, List.map_singleton, List.append_assoc, List.singleton_append]
        exact hdone
      rw [List.foldl_cons, hput, ih _ hnext, List.map_cons, List.append_assoc,
        List.singleton_append]
  exact hfold [] hnodup

/-- **Entries of spelt members carry the members** once they have their present names. -/
theorem carry_normalizeAll {entries : List Entry} {members spelt : Members}
    (hentries : entries.map member = spelt) (hspelt : Members.Spelt members spelt)
    (hplain : ∀ name ∈ members.names, FieldName.IsPlain name.toList) (hnodup : members.names.Nodup) :
    Carry (normalizeAll entries) members := by
  have hnormal := hspelt.normalize hplain
  subst hentries
  have hpresent : (entries.map fun entry => FieldName.normalize entry.name).Nodup := by
    have hnames := hnormal.map Prod.fst
    unfold Members.normalize at hnames
    rw [List.map_map, List.map_map] at hnames
    exact hnames.nodup_iff.2 hnodup
  unfold Carry
  rw [normalizeAll_of_nodup hpresent]
  unfold Members.normalize at hnormal
  rw [List.map_map] at hnormal ⊢
  exact hnormal

/-! ### Looking up -/

section Lookup

variable {entries : List Entry} {members : Members} {name : String}

/-- Among different names, an entry is found by its name. -/
theorem find?_of_mem (hnodup : (entries.map Entry.name).Nodup) {entry : Entry}
    (h : entry ∈ entries) : find? entries entry.name = some entry := by
  unfold find?
  induction entries with
  | nil => cases h
  | cons other others ih =>
    rw [List.map_cons, List.nodup_cons] at hnodup
    rcases List.mem_cons.1 h with rfl | hmem
    · exact List.find?_cons_of_pos (beq_self_eq_true _)
    · have hne : other.name ≠ entry.name := fun heq =>
        hnodup.1 (heq ▸ List.mem_map_of_mem hmem)
      rw [List.find?_cons_of_neg (by simpa using hne), ih hnodup.2 hmem]

theorem name_of_find? {entry : Entry} (h : find? entries name = some entry) : entry.name = name := by
  unfold find? at h
  have hname := List.find?_some h
  exact eq_of_beq hname

/-- A name that is not there is not found. -/
theorem find?_of_not_mem (h : name ∉ entries.map Entry.name) : find? entries name = none := by
  unfold find?
  rw [List.find?_eq_none]
  rintro entry hentry heq
  exact h (eq_of_beq heq ▸ List.mem_map_of_mem hentry)

/-- A member that is carried is found by its name. -/
theorem Carry.find? (h : Carry entries members) (hnodup : members.names.Nodup) {raw : Json}
    (hmem : (name, raw) ∈ members) :
    ∃ entry ∈ entries, Entry.find? entries name = some entry ∧ entry.raw = raw := by
  obtain ⟨entry, hentry, heq⟩ := List.mem_map.1 (h.mem_iff.2 hmem)
  cases heq
  exact ⟨entry, hentry, find?_of_mem (h.names.nodup_iff.2 hnodup) hentry, rfl⟩

theorem Carry.find?_none (h : Carry entries members) (hname : name ∉ members.names) :
    Entry.find? entries name = none :=
  find?_of_not_mem fun hmem => hname (h.names.mem_iff.1 hmem)

/-- What is carried and not null is in the source. -/
theorem Carry.source_of_mem (h : Carry entries members) (hnodup : members.names.Nodup) {raw : Json}
    (hmem : (name, raw) ∈ members) (hnull : raw ≠ .null) : source entries name = some raw := by
  obtain ⟨⟨name', raw', actions⟩, -, hfind, rfl⟩ := h.find? hnodup hmem
  have hraw : raw' ≠ .null := hnull
  unfold source
  rw [hfind]
  cases raw' with
  | null => exact absurd rfl hraw
  | _ => rfl

/-- **Entries are a source that holds the members they carry**, if these have different names and
none of them is null. -/
theorem Carry.holds (h : Carry entries members) (hnodup : members.names.Nodup)
    (hnull : ∀ member ∈ members, member.2 ≠ .null) : (source entries).Holds members :=
  fun member hmember => h.source_of_mem hnodup hmember (hnull member hmember)

/-- Without the entry of a name, the other members are carried. -/
theorem Carry.without {raw : Json} (h : Carry entries ((name, raw) :: members))
    (hname : name ∉ members.names) :
    Carry (entries.filter fun entry => entry.name != name) members := by
  have hothers := List.Perm.filter (fun member => member.1 != name) h
  rw [List.filter_cons_of_neg (by simp), List.filter_map] at hothers
  have hall : members.filter (fun member => member.1 != name) = members := by
    rw [List.filter_eq_self]
    intro member hmember
    exact bne_iff_ne.2 fun heq => hname (heq ▸ List.mem_map_of_mem hmember)
  rw [hall] at hothers
  exact hothers

/-- Where a name is not there, nothing is left out. -/
theorem Carry.without_eq_self (h : Carry entries members) (hname : name ∉ members.names) :
    entries.filter (fun entry => entry.name != name) = entries := by
  rw [List.filter_eq_self]
  intro entry hentry
  exact bne_iff_ne.2 fun heq => hname (h.names.mem_iff.1 (heq ▸ List.mem_map_of_mem hentry))

/-- Where there are no former names, nothing is taken over. -/
theorem foldl_rename {table : List (String × String)}
    (h : ∀ pair ∈ table, pair.1 ∉ entries.map Entry.name) :
    table.foldl (fun done pair => rename done pair.1 pair.2) entries = entries := by
  induction table with
  | nil => rfl
  | cons pair table ih =>
    have hpair : rename entries pair.1 pair.2 = entries := by
      unfold rename
      rw [find?_of_not_mem (h pair List.mem_cons_self)]
    rw [List.foldl_cons, hpair, ih fun other hother => h other (List.mem_cons_of_mem _ hother)]

end Lookup

end Action.Entry
end DesktopMacro
