/-
Which hotkeys are listened for, and which may stand side by side.

Somebody has registered for some of the roles, and the definition of each of these has to spell a
hotkey. Two definitions are told apart by the text of their hotkeys, and that tells the keys in the
order in which they were written. So a map is refused exactly if one of the definitions spells
nothing, or if two of them spell the same keys in the same order, and otherwise it has one entry for
each of the roles. The system takes a hotkey for a set of keys. Two definitions that have the same
keys in another order, or one of them twice, are not refused, and then one hotkey has two roles.
-/
import DesktopMacro.Hotkey.Board
import DesktopMacro.Proofs.Hotkey.Tokens
import Mathlib.Data.List.Nodup

set_option autoImplicit false

namespace DesktopMacro.HotkeyBoard

/-- The definitions of the roles that somebody has registered for. -/
def asked (registered : List HotkeyRole) (definitions : List (HotkeyRole × String)) :
    List (HotkeyRole × String) :=
  definitions.filter fun definition => registered.contains definition.1

/-- **An entry for a definition**: its role, with the text of the keys that it spells. -/
structure EntryOf (definition : HotkeyRole × String) (entry : String × HotkeyRole) : Prop where
  role : entry.2 = definition.1
  spells : ∃ parts, parts ≠ [] ∧ Hotkey.Spells definition.2 parts
    ∧ entry.1 = (⟨parts⟩ : Hotkey).toText

variable {registered : List HotkeyRole} {definitions : List (HotkeyRole × String)}

/-- A definition that is read has an entry, and only one. -/
theorem entryOf_iff {role : HotkeyRole} {definition : String} {hotkey : Hotkey}
    {entry : String × HotkeyRole} (hread : Hotkey.read definition = .ok hotkey) :
    EntryOf (role, definition) entry ↔ entry = (hotkey.toText, role) := by
  obtain ⟨parts⟩ := hotkey
  obtain ⟨hne, hspells⟩ := Hotkey.read_eq_ok_iff.1 hread
  constructor
  · rintro ⟨hrole, parts', hne', hspells', htext⟩
    have hread' := Hotkey.read_eq_ok_iff.2 ⟨hne', hspells'⟩
    rw [hread] at hread'
    cases hread'
    exact Prod.ext htext hrole
  · rintro rfl
    exact ⟨rfl, parts, hne, hspells, rfl⟩

section First

variable {role : HotkeyRole} {definition : String} {entries : HotkeyMap}

/-- A definition that is not read has no entry. -/
theorem not_entries_cons {cause : Cause} (hread : Hotkey.read definition = .error cause) :
    ¬List.Forall₂ EntryOf ((role, definition) :: definitions) entries := by
  intro hentries
  obtain ⟨entry, more, hentry, -, rfl⟩ := List.forall₂_cons_left_iff.1 hentries
  obtain ⟨parts, hne, hspells, -⟩ := hentry.spells
  rw [Hotkey.read_eq_ok_iff.2 ⟨hne, hspells⟩] at hread
  cases hread

/-- The entry of a definition that is read comes first, and then those of the others. -/
theorem entries_cons_iff {hotkey : Hotkey} (hread : Hotkey.read definition = .ok hotkey) :
    List.Forall₂ EntryOf ((role, definition) :: definitions) entries
      ↔ ∃ more, List.Forall₂ EntryOf definitions more
        ∧ entries = (hotkey.toText, role) :: more := by
  rw [List.forall₂_cons_left_iff]
  simp only [entryOf_iff hread]
  constructor
  · rintro ⟨_, more, rfl, hmore, hentries⟩
    exact ⟨more, hmore, hentries⟩
  · rintro ⟨more, hmore, hentries⟩
    exact ⟨_, more, rfl, hmore, hentries⟩

end First

/-- Texts stay different with one more behind them exactly if it is none of them. -/
theorem nodup_texts_snoc {map : HotkeyMap} (hmap : (map.map Prod.fst).Nodup)
    (entry : String × HotkeyRole) :
    ((map ++ [entry]).map Prod.fst).Nodup
      ↔ ¬map.any (fun other => other.1 == entry.1) = true := by
  rw [List.map_append, List.map_singleton, ← List.concat_eq_append, List.nodup_concat]
  simp [hmap]

/-- **Definitions are added one by one**: each gets an entry, and all entries have different
texts. -/
theorem addAll_eq_ok_iff {map result : HotkeyMap} (hmap : (map.map Prod.fst).Nodup) :
    addAll registered map definitions = .ok result ↔ ∃ added, result = map ++ added
      ∧ List.Forall₂ EntryOf (asked registered definitions) added
      ∧ ((map ++ added).map Prod.fst).Nodup := by
  induction definitions generalizing map with
  | nil =>
    unfold addAll asked
    rw [List.filter_nil]
    constructor
    · intro h
      cases h
      exact ⟨[], (List.append_nil _).symm, .nil, by rwa [List.append_nil]⟩
    · rintro ⟨added, rfl, hadded, -⟩
      rw [List.forall₂_nil_left_iff.1 hadded, List.append_nil]
  | cons definition definitions ih =>
    obtain ⟨role, definition⟩ := definition
    have hasked : asked registered ((role, definition) :: definitions)
        = if registered.contains role then (role, definition) :: asked registered definitions
          else asked registered definitions := List.filter_cons
    unfold addAll
    by_cases hrole : registered.contains role = true
    · rw [if_pos hrole, hasked, if_pos hrole]
      cases hread : Hotkey.read definition with
      | error cause =>
        exact iff_of_false nofun fun ⟨added, _, hadded, _⟩ => not_entries_cons hread hadded
      | ok hotkey =>
        have hsnoc := nodup_texts_snoc hmap (hotkey.toText, role)
        simp only [entries_cons_iff hread]
        change (if map.any (fun entry => entry.1 == hotkey.toText) = true then _ else _) = _ ↔ _
        split
        · next htaken =>
          refine iff_of_false nofun ?_
          rintro ⟨_, -, ⟨more, -, rfl⟩, hnodup⟩
          rw [List.append_cons, List.map_append] at hnodup
          exact hsnoc.1 (List.Nodup.of_append_left hnodup) htaken
        · next hfree =>
          rw [ih (hsnoc.2 hfree)]
          constructor
          · rintro ⟨more, rfl, hmore, hnodup⟩
            rw [← List.append_cons] at hnodup ⊢
            exact ⟨_, rfl, ⟨more, hmore, rfl⟩, hnodup⟩
          · rintro ⟨_, rfl, ⟨more, hmore, rfl⟩, hnodup⟩
            rw [List.append_cons] at hnodup ⊢
            exact ⟨more, rfl, hmore, hnodup⟩
    · rw [if_neg hrole, hasked, if_neg hrole]
      exact ih hmap

/-- **A map has an entry for each definition that is asked for**, and no two with the same text. -/
theorem map_eq_ok_iff {board : HotkeyBoard} {map : HotkeyMap} :
    board.map = .ok map
      ↔ List.Forall₂ EntryOf (asked board.registered board.definitions) map
        ∧ (map.map Prod.fst).Nodup := by
  have hnil : (([] : HotkeyMap).map Prod.fst).Nodup := List.nodup_nil
  unfold HotkeyBoard.map
  rw [addAll_eq_ok_iff hnil]
  simp

/-- What is wrong with a definition is its value, also where it is taken. -/
theorem failsFor_addAll (map : HotkeyMap) :
    FailsFor (fun cause => ∃ text, cause = .badValue text)
      (addAll registered map definitions) := by
  induction definitions generalizing map with
  | nil => exact failsFor_ok _ _
  | cons definition definitions ih =>
    obtain ⟨role, definition⟩ := definition
    unfold addAll
    split
    · refine Hotkey.failsFor_read.bind fun hotkey _ => ?_
      dsimp only
      split
      · exact failsFor_error ⟨_, rfl⟩
      · exact ih _
    · exact ih _

section Entries

variable {added : HotkeyMap}

/-- Entries have the roles of their definitions, in the same order. -/
theorem roles_of_entries (h : List.Forall₂ EntryOf definitions added) :
    added.map Prod.snd = definitions.map Prod.fst := by
  induction h with
  | nil => rfl
  | cons hentry _ ih => rw [List.map_cons, List.map_cons, hentry.role, ih]

/-- **Entries have different texts** if no two definitions spell the same keys in the same
order. -/
theorem nodup_texts (hroles : (definitions.map Prod.fst).Nodup)
    (h : List.Forall₂ EntryOf definitions added)
    (hdifferent : ∀ first ∈ definitions, ∀ second ∈ definitions, first.1 ≠ second.1 →
      ∀ parts, Hotkey.Spells first.2 parts → ¬Hotkey.Spells second.2 parts) :
    (added.map Prod.fst).Nodup := by
  have hadded : added.Nodup := List.Nodup.of_map Prod.snd (roles_of_entries h ▸ hroles)
  refine hadded.map_on fun entry hentry other hother htext => ?_
  obtain ⟨first, hfirst, hentry⟩ := exists_of_forall₂ h entry hentry
  obtain ⟨second, hsecond, hother⟩ := exists_of_forall₂ h other hother
  obtain ⟨parts, -, hspells, hparts⟩ := hentry.spells
  obtain ⟨parts', -, hspells', hparts'⟩ := hother.spells
  obtain rfl := Hotkey.toText_inj hspells hspells' (hparts ▸ hparts' ▸ htext)
  have hrole : first.1 = second.1 := by
    by_contra hne
    exact hdifferent first hfirst second hsecond hne parts hspells hspells'
  exact Prod.ext htext (hentry.role.trans (hrole.trans hother.role.symm))

/-- **Definitions that spell the same keys in the same order** cannot both have entries. -/
theorem role_of_same_parts (h : List.Forall₂ EntryOf definitions added)
    (htexts : (added.map Prod.fst).Nodup) {first second : HotkeyRole × String}
    (hfirst : first ∈ definitions) (hsecond : second ∈ definitions) {parts : List HotkeyPart}
    (hspells : Hotkey.Spells first.2 parts) (hspells' : Hotkey.Spells second.2 parts) :
    first.1 = second.1 := by
  obtain ⟨entry, hentry, hof⟩ := exists_of_forall₂ h.flip first hfirst
  obtain ⟨other, hother, hof'⟩ := exists_of_forall₂ h.flip second hsecond
  obtain ⟨found, -, hfound, htext⟩ := hof.spells
  obtain ⟨found', -, hfound', htext'⟩ := hof'.spells
  obtain rfl := hspells.unique hfound
  obtain rfl := hspells'.unique hfound'
  obtain rfl := List.inj_on_of_nodup_map htexts hentry hother (htext.trans htext'.symm)
  exact hof.role.symm.trans hof'.role

end Entries

/-- **When hotkeys are refused.** For any three definitions and whoever has registered: it is
because of a value, and it happens exactly if a definition that is asked for has no tokens or a
token that names no key, or if two of them spell the same keys in the same order. Otherwise there is
one entry for each of them, and no two have the same text. -/
theorem map_refused_iff (start stop cancel : String) (registered : List HotkeyRole) :
    let board := { HotkeyBoard.initial start stop cancel with registered }
    let asked := asked registered board.definitions
    ((∃ cause, board.map = .error cause)
      ↔ (∃ definition ∈ asked, Hotkey.tokens definition.2 = []
          ∨ ∃ token ∈ Hotkey.tokens definition.2, ∀ part, ¬HotkeyPart.Names token part)
        ∨ ∃ first ∈ asked, ∃ second ∈ asked, first.1 ≠ second.1
          ∧ ∃ parts, Hotkey.Spells first.2 parts ∧ Hotkey.Spells second.2 parts)
    ∧ (∀ cause, board.map = .error cause → ∃ text, cause = .badValue text)
    ∧ ∀ map, board.map = .ok map →
      List.Forall₂ EntryOf asked map ∧ (map.map Prod.fst).Nodup := by
  intro board asked
  have hroles : (asked.map Prod.fst).Nodup := by
    have hall : (board.definitions.map Prod.fst).Nodup := by
      change [HotkeyRole.start, .stop, .cancel].Nodup
      decide
    exact (List.filter_sublist.map Prod.fst).nodup hall
  refine ⟨⟨?_, ?_⟩, fun cause => failsFor_addAll [] cause, fun map => map_eq_ok_iff.1⟩
  · rintro ⟨cause, hcause⟩
    by_contra hright
    rw [not_or] at hright
    obtain ⟨hreadable, hdifferent⟩ := hright
    -- Every definition has an entry, and the entries have different texts.
    have hentries : ∀ definition ∈ asked, ∃ entry, EntryOf definition entry := by
      intro definition hdefinition
      by_contra hnone
      refine hreadable ⟨definition, hdefinition, Hotkey.not_spells_iff.1 ?_⟩
      rintro ⟨parts, hne, hspells⟩
      exact hnone ⟨((⟨parts⟩ : Hotkey).toText, definition.1), rfl, parts, hne, hspells, rfl⟩
    obtain ⟨map, hmap⟩ := exists_forall₂ hentries
    have htexts : (map.map Prod.fst).Nodup := by
      refine nodup_texts hroles hmap fun first hfirst second hsecond hne parts hspells hspells' =>
        ?_
      exact hdifferent ⟨first, hfirst, second, hsecond, hne, parts, hspells, hspells'⟩
    rw [map_eq_ok_iff.2 ⟨hmap, htexts⟩] at hcause
    cases hcause
  · intro hwrong
    cases hmap : board.map with
    | error cause => exact ⟨cause, rfl⟩
    | ok map =>
      obtain ⟨hentries, htexts⟩ := map_eq_ok_iff.1 hmap
      rcases hwrong with ⟨definition, hdefinition, hunreadable⟩ |
        ⟨first, hfirst, second, hsecond, hne, parts, hspells, hspells'⟩
      · obtain ⟨entry, -, hentry⟩ := exists_of_forall₂ hentries.flip definition hdefinition
        obtain ⟨parts, hparts, hspells, -⟩ := hentry.spells
        exact absurd ⟨parts, hparts, hspells⟩ (Hotkey.not_spells_iff.2 hunreadable)
      · exact absurd (role_of_same_parts hentries htexts hfirst hsecond hspells hspells') hne

/-- **One hotkey has two roles**: the same two keys in the other order are not refused. -/
theorem hotkey_shared :
    Hotkey.Spells "ctrl+a" [.special "ctrl", .char "a"]
      ∧ Hotkey.Spells "A + Control" [.char "a", .special "ctrl"]
      ∧ (∀ part, part ∈ [HotkeyPart.special "ctrl", .char "a"]
        ↔ part ∈ [HotkeyPart.char "a", .special "ctrl"])
      ∧ HotkeyBoard.map { HotkeyBoard.initial "ctrl+a" "A + Control" "Escape" with
          registered := [.stop, .start] }
        = .ok [("<ctrl>+a", .start), ("a+<ctrl>", .stop)] := by
  have hread : Hotkey.read "ctrl+a" = .ok ⟨[.special "ctrl", .char "a"]⟩ := rfl
  have hread' : Hotkey.read "A + Control" = .ok ⟨[.char "a", .special "ctrl"]⟩ := rfl
  exact ⟨(Hotkey.read_eq_ok_iff.1 hread).2, (Hotkey.read_eq_ok_iff.1 hread').2,
    fun part => (List.Perm.swap _ _ _).mem_iff, rfl⟩

end DesktopMacro.HotkeyBoard
