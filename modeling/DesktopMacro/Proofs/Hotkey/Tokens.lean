/-
What hotkeys are made of.

A definition is read token by token, and a token names at most one key: by a word for it, as a
function key, or by the one character that it is. So a hotkey is read exactly if every token names a
key and there is one at all.

The text of a hotkey tells its keys, in the order in which they were written. A plus sign stands
between two keys and in none of them, because plus signs were taken out before the tokens were cut,
and only a special key has a text of several characters.
-/
import DesktopMacro.Hotkey.Basic
import DesktopMacro.Proofs.Computation
import DesktopMacro.Proofs.Key.Names
import DesktopMacro.Proofs.Text.Folding
import DesktopMacro.Proofs.Text.Pieces

set_option autoImplicit false

namespace DesktopMacro

/-! ## Tokens -/

namespace HotkeyPart

variable {token : String} {part : HotkeyPart}

/-- **A token names a key**: by one of the words for it, as a function key, or by its character.
Capitals and small letters are the same. -/
inductive Names (token : String) : HotkeyPart → Prop
  | word {entry : String × String} (hentry : entry ∈ aliases)
    (hlower : Text.lower token = entry.1) : Names token (.special entry.2)
  | function {number : List Char} (hnumber : Text.isDigits (String.ofList number) = true)
    (hlower : Text.lower token = String.ofList ('f' :: number)) :
    Names token (.special (String.ofList ('f' :: number)))
  | char {c : Char} (hlower : Text.lower token = String.ofList [c]) :
    Names token (.char (String.ofList [c]))

/-- The words of hotkeys are longer than a character, none starts like a function key, and each has
a name that is not empty and has no plus sign. -/
theorem word_of_mem_aliases : ∀ entry ∈ aliases, entry.1.toList.length ≠ 1
    ∧ entry.1.toList.head? ≠ some 'f' ∧ entry.2.isEmpty = false
    ∧ '+' ∉ entry.2.toList := by
  decide +kernel

/-- A word is found under its spelling. -/
theorem find_aliases : ∀ entry ∈ aliases,
    aliases.find? (fun other => other.1 == entry.1) = some entry := by
  decide +kernel

/-- What is no longer than a character, or starts like a function key, is no word. -/
theorem find_aliases_none {lowered : String}
    (h : lowered.toList.length = 1 ∨ lowered.toList.head? = some 'f') :
    aliases.find? (fun entry => entry.1 == lowered) = none := by
  rw [List.find?_eq_none]
  intro entry hentry heq
  obtain ⟨hlength, hhead, -⟩ := word_of_mem_aliases entry hentry
  rw [eq_of_beq heq] at hlength hhead
  exact h.elim hlength hhead

theorem names_of_ofToken (h : ofToken? token = some part) : Names token part := by
  unfold ofToken? at h
  dsimp only at h
  split at h
  · next entry hentry =>
    cases h
    have hfound := List.find?_some hentry
    exact .word (List.mem_of_find?_eq_some hentry) (eq_of_beq hfound).symm
  · have hlower {cs : List Char} (hcs : (Text.lower token).toList = cs) :
        Text.lower token = String.ofList cs := by
      rw [← hcs, String.ofList_toList]
    split at h
    · next number hnumber =>
      split at h
      · next hdigits =>
        cases h
        rw [hlower hnumber]
        exact .function hdigits (hlower hnumber)
      split at h
      · next hempty =>
        cases h
        obtain rfl := List.isEmpty_iff.1 hempty
        rw [hlower hnumber]
        exact .char (hlower hnumber)
      · cases h
    · next c _ hc =>
      cases h
      rw [hlower hc]
      exact .char (hlower hc)
    · cases h

theorem Names.ofToken (h : Names token part) : ofToken? token = some part := by
  unfold ofToken?
  cases h with
  | word hentry hlower =>
    rw [hlower]
    dsimp only
    rw [find_aliases _ hentry]
  | @function number hnumber hlower =>
    rw [hlower]
    dsimp only
    rw [find_aliases_none (.inr (by rw [String.toList_ofList]; rfl)), String.toList_ofList]
    exact if_pos hnumber
  | @char c hlower =>
    rw [hlower]
    dsimp only
    rw [find_aliases_none (.inl (by rw [String.toList_ofList]; rfl)), String.toList_ofList]
    by_cases hf : c = 'f'
    · subst hf
      rfl
    · dsimp only
      split
      · next heq => exact absurd (List.cons.inj heq).1 hf
      · rfl
      · next hnone => exact absurd rfl (hnone c)

/-- **A token names a key exactly if it is read as that key.** -/
theorem ofToken_eq_some_iff : ofToken? token = some part ↔ Names token part :=
  ⟨names_of_ofToken, Names.ofToken⟩

/-- **A token names one key only.** -/
theorem Names.unique {other : HotkeyPart} (h : Names token part) (h' : Names token other) :
    part = other :=
  Option.some.inj (h.ofToken.symm.trans h'.ofToken)

end HotkeyPart

/-! ## Definitions -/

namespace Hotkey

variable {definition token : String} {parts : List HotkeyPart}

/-- **A definition spells keys**: its tokens name them, one after the other. -/
def Spells (definition : String) (parts : List HotkeyPart) : Prop :=
  List.Forall₂ HotkeyPart.Names (tokens definition) parts

theorem readToken_eq_ok_iff {part : HotkeyPart} :
    readToken definition token = .ok part ↔ HotkeyPart.Names token part := by
  rw [← HotkeyPart.ofToken_eq_some_iff]
  unfold readToken
  cases HotkeyPart.ofToken? token <;> simp

theorem tokens_empty : tokens "" = [] := rfl

/-- **A definition is read exactly if it spells keys**, one at least. -/
theorem read_eq_ok_iff :
    read definition = .ok ⟨parts⟩ ↔ parts ≠ [] ∧ Spells definition parts := by
  have hspells : (tokens definition).mapM (readToken definition) = .ok parts
      ↔ Spells definition parts := by
    rw [mapM_eq_ok_iff]
    simp only [readToken_eq_ok_iff]
    rfl
  unfold read
  split
  · next hempty =>
    -- An empty definition has no tokens, so it spells nothing.
    refine iff_of_false nofun fun ⟨hne, h⟩ => hne ?_
    unfold Spells at h
    rw [String.isEmpty_iff.1 hempty, tokens_empty] at h
    exact List.forall₂_nil_left_iff.1 h
  split
  · next hnone =>
    refine iff_of_false nofun fun ⟨hne, h⟩ => hne ?_
    unfold Spells at h
    rw [List.isEmpty_iff.1 hnone] at h
    exact List.forall₂_nil_left_iff.1 h
  · next hsome =>
    rw [← hspells]
    constructor
    · intro h
      obtain ⟨found, hfound, heq⟩ := of_map h
      cases heq
      refine ⟨?_, hfound⟩
      rintro rfl
      have hlength := (hspells.1 hfound).length_eq
      exact hsome (List.isEmpty_iff.2 (List.length_eq_zero_iff.1 hlength))
    · rintro ⟨-, h⟩
      rw [h]
      rfl

/-- **A definition spells no keys** if it has no tokens, or if one of them names none. -/
theorem not_spells_iff : (¬∃ parts, parts ≠ [] ∧ Spells definition parts)
    ↔ tokens definition = []
      ∨ ∃ token ∈ tokens definition, ∀ part, ¬HotkeyPart.Names token part := by
  constructor
  · intro h
    by_contra hright
    push Not at hright
    obtain ⟨hsome, hnames⟩ := hright
    obtain ⟨parts, hspells⟩ := exists_forall₂ hnames
    refine h ⟨parts, ?_, hspells⟩
    rintro rfl
    exact hsome (List.forall₂_nil_right_iff.1 hspells)
  · rintro hwrong ⟨parts, hne, hspells⟩
    rcases hwrong with hnone | ⟨token, htoken, hunknown⟩
    · unfold Spells at hspells
      rw [hnone] at hspells
      exact hne (List.forall₂_nil_left_iff.1 hspells)
    · obtain ⟨part, -, hnames⟩ := exists_of_forall₂ hspells.flip token htoken
      exact hunknown part hnames

/-- A definition spells its keys in one way. -/
theorem Spells.unique {parts' : List HotkeyPart} (h : Spells definition parts)
    (h' : Spells definition parts') : parts = parts' :=
  List.right_unique_forall₂' (fun _ _ _ hnames hnames' => hnames.unique hnames') h h'

/-- What is wrong with a definition is its value. -/
theorem failsFor_read :
    FailsFor (fun cause => ∃ text, cause = .badValue text) (read definition) := by
  unfold read
  split
  · exact failsFor_error ⟨_, rfl⟩
  split
  · exact failsFor_error ⟨_, rfl⟩
  · refine (FailsFor.mapM (fun token => ?_) _).map _
    unfold readToken
    split
    · exact failsFor_ok _ _
    · exact failsFor_error ⟨_, rfl⟩

/-- In a token there is neither a blank nor a plus sign. -/
theorem of_mem_tokens (h : token ∈ tokens definition) :
    ∀ t ∈ token.toList, Text.isBlank t = false ∧ t ≠ '+' := by
  intro t ht
  obtain ⟨hblank, hmem⟩ := Text.of_mem_words h t ht
  refine ⟨hblank, ?_⟩
  rintro rfl
  rw [String.toList_ofList] at hmem
  obtain ⟨c, -, hc⟩ := List.mem_map.1 hmem
  split at hc
  · cases hc
  · next hplus => exact hplus hc

end Hotkey

/-! ## The text of a hotkey -/

namespace HotkeyPart

variable {token token' : String} {part other : HotkeyPart}

theorem toList_toText_special (name : String) :
    (special name).toText.toList = '<' :: name.toList ++ ['>'] := by
  simp [toText]

theorem Names.exists_char {typed : String} (h : Names token (.char typed)) :
    ∃ c, typed = String.ofList [c] ∧ Text.lower token = String.ofList [c] := by
  cases h with
  | char hlower => exact ⟨_, rfl, hlower⟩

/-- There is no plus sign in the name of a special key. -/
theorem Names.plain_special {name : String} (h : Names token (.special name)) :
    ∀ c ∈ name.toList, (c == '+') = false := by
  cases h with
  | word hentry =>
    intro c hc
    rw [beq_eq_false_iff_ne]
    rintro rfl
    exact (word_of_mem_aliases _ hentry).2.2.2 hc
  | @function number hnumber =>
    rw [String.toList_ofList, List.forall_mem_cons]
    refine ⟨rfl, fun c hc => ?_⟩
    rw [beq_eq_false_iff_ne]
    rintro rfl
    cases (Key.of_isDigits hnumber).2 '+' hc

/-- **The text of a key** is not empty, and there is no plus sign in it if there is none in the
token. -/
theorem Names.piece (h : Names token part) (hplus : ∀ t ∈ token.toList, t ≠ '+') :
    part.toText.isEmpty = false ∧ ∀ c ∈ part.toText.toList, (c == '+') = false := by
  cases part with
  | special name =>
    constructor
    · simp [toText]
    · intro c hc
      rw [toList_toText_special] at hc
      rcases List.mem_append.1 hc with hfront | hlast
      · rcases List.mem_cons.1 hfront with rfl | hname
        · rfl
        · exact h.plain_special c hname
      · obtain rfl := List.mem_singleton.1 hlast
        rfl
  | char typed =>
    obtain ⟨c, rfl, hlower⟩ := h.exists_char
    obtain ⟨t, rfl, hform⟩ := Text.exists_of_lower_singleton hlower
    refine ⟨by simp [toText], fun d hd => ?_⟩
    unfold toText at hd
    rw [String.toList_ofList] at hd
    obtain rfl := List.mem_singleton.1 hd
    rw [beq_eq_false_iff_ne]
    -- Only a plus sign has a plus sign for its small form.
    rintro rfl
    obtain rfl := hform.of_sign (by decide) (by decide)
    exact hplus '+' List.mem_cons_self rfl

/-- **The text of a key tells the key.** -/
theorem Names.toText_inj (h : Names token part) (h' : Names token' other)
    (heq : part.toText = other.toText) : part = other := by
  -- The text of a special key is longer than a character.
  have hlong : ∀ (name : String) (c : Char), (special name).toText ≠ String.ofList [c] := by
    intro name c hsame
    have hlength := congrArg (fun s => s.toList.length) hsame
    rw [toList_toText_special, String.toList_ofList] at hlength
    simp at hlength
  cases part with
  | special name =>
    cases other with
    | special name' =>
      have hlist := congrArg String.toList heq
      rw [toList_toText_special, toList_toText_special] at hlist
      have hname := List.append_cancel_right (List.cons.inj hlist).2
      rw [String.toList_injective hname]
    | char typed =>
      obtain ⟨c, rfl, -⟩ := h'.exists_char
      exact absurd heq (hlong name c)
  | char typed =>
    cases other with
    | special name =>
      obtain ⟨c, rfl, -⟩ := h.exists_char
      exact absurd heq.symm (hlong name c)
    | char typed' => exact congrArg HotkeyPart.char (heq : typed = typed')

/-- The texts of keys tell the keys. -/
theorem eq_of_map_toText {tokens tokens' : List String} {parts parts' : List HotkeyPart}
    (h : List.Forall₂ Names tokens parts) (h' : List.Forall₂ Names tokens' parts')
    (heq : parts.map toText = parts'.map toText) : parts = parts' := by
  induction h generalizing tokens' parts' with
  | nil => exact (List.map_eq_nil_iff.1 heq.symm).symm
  | cons hpart _ ih =>
    cases h' with
    | nil => cases heq
    | cons hpart' hrest' =>
      obtain ⟨hfirst, hrest⟩ := List.cons.inj heq
      rw [hpart.toText_inj hpart' hfirst, ih hrest' hrest]

end HotkeyPart

namespace Hotkey

variable {definition definition' : String} {parts parts' : List HotkeyPart}

/-- The text of a hotkey is cut into the texts of its keys at the plus signs. -/
theorem fullPieces_toText (h : Spells definition parts) :
    Text.fullPieces (⟨parts⟩ : Hotkey).toText (· == '+') = parts.map HotkeyPart.toText := by
  have hpieces : ∀ piece ∈ parts.map HotkeyPart.toText,
      piece.isEmpty = false ∧ ∀ c ∈ piece.toList, (c == '+') = false := by
    intro piece hpiece
    obtain ⟨part, hpart, rfl⟩ := List.mem_map.1 hpiece
    obtain ⟨token, htoken, hnames⟩ := exists_of_forall₂ h part hpart
    exact hnames.piece fun t ht => (of_mem_tokens htoken t ht).2
  exact Text.fullPieces_intercalate hpieces

/-- **The text of a hotkey tells its keys**, in their order. -/
theorem toText_inj (h : Spells definition parts) (h' : Spells definition' parts')
    (heq : (⟨parts⟩ : Hotkey).toText = (⟨parts'⟩ : Hotkey).toText) : parts = parts' := by
  have htexts : parts.map HotkeyPart.toText = parts'.map HotkeyPart.toText := by
    rw [← fullPieces_toText h, ← fullPieces_toText h', heq]
  exact HotkeyPart.eq_of_map_toText h h' htexts

end Hotkey
end DesktopMacro
