/-
Hotkeys of one key, and recordings.

A key that is a hotkey by itself should not end up in a recording. The session knows it by the name
that normalisation gives to its token, the hook gives it a name of its own, and the hotkey is read
by a third rule. The three agree on letters, on digits, on known function keys and on most of the
words for special keys. Where they do not, the key slips into the recording; `Hotkey.SlipsIn` lists
these cases.

That two rules agree comes down to the token and its small letters. Nothing but a digit has a digit
for its small form, so the token of a function key has the number of that key.
-/
import DesktopMacro.Proofs.Hook.Sendable
import DesktopMacro.Proofs.Hotkey.Tokens
import DesktopMacro.Session.Recording

set_option autoImplicit false

namespace DesktopMacro

/-! ## Names of tokens -/

namespace Key

variable {token : String} {c : Char}

/-- The name of a token that an alias or a known name has the small letters of. -/
theorem normalize_of_found (htrim : Text.trim token = token) {name : String}
    (h : (ofAlias? (Text.lower token)).or (ofLowered? (Text.lower token)) = some name) :
    normalize token = name := by
  unfold normalize
  rw [ne_space_of_trim htrim, htrim]
  dsimp only
  cases halias : ofAlias? (Text.lower token) with
  | some found =>
    rw [halias] at h
    exact Option.some.inj h
  | none =>
    rw [halias, Option.none_or] at h
    rw [h]
    rfl

/-- **The name of a sign is not known.** -/
theorem normalize_sign (hblank : ∀ t ∈ token.toList, Text.isBlank t = false)
    (hlower : Text.lower token = String.ofList [c]) (hletter : c.isAlpha = false)
    (hdigit : c.isDigit = false) : normalize token ∉ all := by
  obtain ⟨t, rfl, hform⟩ := Text.exists_of_lower_singleton hlower
  have hspace : c ≠ ' ' := by
    rintro rfl
    obtain rfl := hform.of_sign (d := ' ') (by decide) (by decide)
    exact absurd (hblank ' ' List.mem_cons_self) (by decide)
  have hother : IsOther (String.ofList [t]) := by
    refine ⟨Text.trim_of_not_isBlank hblank, ?_, ?_⟩
    · unfold ofAlias?
      rw [hlower, Option.map_eq_none_iff, List.find?_eq_none]
      intro entry hentry heq
      have hone : entry.1.toList.length = 1 := by
        rw [eq_of_beq heq, String.toList_ofList]
        rfl
      have hname := (eq_of_beq heq).symm.trans ((of_mem_aliases entry hentry).2.2.2 hone)
      exact hspace (List.cons.inj (String.ofList_injective hname)).1
    · unfold ofLowered?
      rw [hlower, List.find?_eq_none]
      intro key hkey heq
      have hletters := (wellSpelt_of_mem_all key hkey).smallLetter
      rw [eq_of_beq heq, String.toList_ofList] at hletters
      simp [hletter] at hletters
  rw [hother.normalize]
  intro hmem
  unfold ofOther at hmem
  rw [String.toList_ofList] at hmem
  dsimp only at hmem
  split at hmem
  · -- A digit of ASCII is its own small form.
    have hdigits := (wellSpelt_of_mem_all _ hmem).digit
    rw [String.toList_ofList] at hdigits
    have ht : t.isDigit = true := by simpa using hdigits rfl rfl
    have hascii := Text.isAscii_of_isDigit ht
    rw [hform.of_ascii hascii, (ascii_digit t hascii ht).1, ht] at hdigit
    cases hdigit
  split at hmem
  · next halpha =>
    have hascii := Text.isAscii_of_isAlpha halpha
    rw [hform.of_ascii hascii, (Text.small_ascii t hascii).2.2.2.2.1, halpha] at hletter
    cases hletter
  · next halpha =>
    have hletters := (wellSpelt_of_mem_all _ hmem).letter
    rw [String.toList_ofList] at hletters
    simp [halpha] at hletters

theorem typed_ascii (layout : Layout) : ∀ c, Text.isAscii c = true →
    (c.isAlpha = true → c.isUpper = false → (layout.keyOf (String.ofList [c])).isSome = true
      ∧ (ofAlias? (String.ofList [c])).or (ofLowered? (String.ofList [c]))
        = (layout.keyOf (String.ofList [c])).map Prod.fst)
    ∧ (c.isDigit = true → (layout.keyOf (String.ofList [c])).map Prod.fst
      = some (normalize (String.ofList [c]))) := by
  cases layout <;> exact Text.forall_ascii (by decide +kernel)

/-- **A letter or a digit is typed by the key of its name.** -/
theorem keyOf_typed (layout : Layout) (hblank : ∀ t ∈ token.toList, Text.isBlank t = false)
    (hlower : Text.lower token = String.ofList [c]) (h : c.isAlpha = true ∨ c.isDigit = true) :
    (layout.keyOf (String.ofList [c])).map Prod.fst = some (normalize token) := by
  obtain ⟨t, rfl, hform⟩ := Text.exists_of_lower_singleton hlower
  rcases h with hletter | hdigit
  · have hascii := Text.isAscii_of_isAlpha hletter
    obtain ⟨hsome, hname⟩ := (typed_ascii layout c hascii).1 hletter (hform.not_isUpper hascii)
    obtain ⟨found, hfound⟩ := Option.isSome_iff_exists.1 hsome
    rw [hfound] at hname ⊢
    rw [normalize_of_found (Text.trim_of_not_isBlank hblank) (hlower ▸ hname)]
    rfl
  · have hascii := Text.isAscii_of_isDigit hdigit
    have hdigit' : Text.isDigit c = true := by
      unfold Text.isDigit
      rw [if_pos hascii, hdigit]
    obtain ⟨rfl, -⟩ := hform.of_isDigit hdigit'
    exact (typed_ascii layout t hascii).2 hdigit

/-- What is made of a spelling that is not known is that spelling, or short. -/
theorem ofOther_cases (token : String) :
    ofOther token = token ∨ (ofOther token).toList.length ≤ 2 := by
  unfold ofOther
  split
  · right
    split
    · rw [String.toList_ofList]
      exact le_rfl
    split
    · rw [String.toList_ofList]
      exact one_le_two
    · next c hc _ _ =>
      rw [hc]
      exact one_le_two
  · exact .inl rfl

end Key

/-! ## Keys of hotkeys -/

namespace HotkeyPart

/-- **A report of the key that a hotkey has**: the system's own key of that name, or a key with that
character. -/
inductive Reports : HotkeyPart → KeyReport → Prop
  | special (name : String) (code : Option Int) (char : Option String) :
    Reports (.special name) ⟨some name, code, char⟩
  | char (typed : String) (code : Option Int) : Reports (.char typed) ⟨none, code, some typed⟩

/-- The words that only hotkeys know. -/
def ownWords : List String := ["command", "option"]

/-- **The words of hotkeys, and the names that their keys have otherwise**: these agree for all
words but those that only hotkeys know, which are no names of their keys. -/
theorem names_of_mem_aliases : ∀ entry ∈ aliases, (entry.1 ∉ ownWords →
      (Key.ofAlias? entry.1).or (Key.ofLowered? entry.1) = KeyReport.ofName? entry.2)
    ∧ (entry.1 ∈ ownWords → Key.ofAlias? entry.1 = none ∧ Key.ofLowered? entry.1 = none
      ∧ ∀ key ∈ KeyReport.ofName? entry.2, 2 < key.toList.length ∧ Text.lower key ≠ entry.1) := by
  decide +kernel

theorem mem_aliases_of_ownWords : ∀ word ∈ ownWords, word ∈ aliases.map Prod.fst := by
  decide +kernel

end HotkeyPart

namespace KeyReport

variable {layout : Layout} {trusts : Bool} {code : Option Int} {char : Option String}

theorem key_of_name {name : String} (hname : name.isEmpty = false) :
    (⟨some name, code, char⟩ : KeyReport).key? layout trusts = ofName? name := by
  unfold key?
  dsimp only
  rw [hname]
  rfl

/-- A key with a character is told by its code, if that is trusted and known, or else by the
character. -/
theorem key_of_char {typed key : String}
    (h : (⟨none, code, some typed⟩ : KeyReport).key? layout trusts = some key) :
    (trusts = true ∧ code.bind ofCode? = some key)
    ∨ (layout.keyOf typed).map Prod.fst = some key := by
  change key?.unnamed ⟨none, code, some typed⟩ layout trusts = some key at h
  unfold key?.unnamed at h
  split at h
  · next found hfound =>
    cases h
    split at hfound
    · next htrusts => exact .inl ⟨htrusts, hfound⟩
    · cases hfound
  · exact .inr h

theorem key_of_code {typed : Option String} {key : String} (hcode : code.bind ofCode? = some key) :
    (⟨none, code, typed⟩ : KeyReport).key? layout true = some key := by
  change key?.unnamed ⟨none, code, typed⟩ layout true = some key
  unfold key?.unnamed
  rw [if_pos rfl, hcode]

theorem head_of_mem_specials : ∀ entry ∈ specials, entry.1.toList.head? ≠ some 'f' := by
  decide +kernel

/-- The system's name of a function key is that of the function key. -/
theorem ofName_function {number : List Char} (h : Text.isDigits (String.ofList number) = true) :
    ofName? (String.ofList ('f' :: number)) = some (String.ofList ('F' :: number)) := by
  have hnone : specials.find? (fun entry => entry.1 == String.ofList ('f' :: number)) = none := by
    rw [List.find?_eq_none]
    intro entry hentry heq
    refine head_of_mem_specials entry hentry ?_
    rw [eq_of_beq heq, String.toList_ofList]
    rfl
  unfold ofName?
  rw [hnone, String.toList_ofList]
  exact (if_pos h).trans (congrArg some (Key.upper_function h))

end KeyReport

namespace Hotkey

/-- **The tokens of hotkeys whose key slips into a recording**: two words that only hotkeys know; a
function key that is not known, in small letters; a sign, or a letter beyond ASCII; and any
character that comes with the code of another key, where codes are trusted. -/
inductive SlipsIn (trusts : Bool) (token : String) (report : KeyReport) : Prop
  | word (hword : Text.lower token ∈ HotkeyPart.ownWords)
  | function {number : List Char} (hnumber : Text.isDigits (String.ofList number) = true)
    (htoken : token = String.ofList ('f' :: number))
    (hunknown : String.ofList ('F' :: number) ∉ Key.functions)
  | sign {c : Char} (hlower : Text.lower token = String.ofList [c]) (hletter : c.isAlpha = false)
    (hdigit : c.isDigit = false)
  | code {key : String} (hname : report.name = none) (htrusts : trusts = true)
    (hcode : report.code.bind KeyReport.ofCode? = some key) (hother : key ≠ Key.normalize token)

variable {layout : Layout} {trusts : Bool} {token : String} {part : HotkeyPart}
  {report : KeyReport} {key : String}

/-- **The key of a token has the name of the token**, unless it slips in. -/
theorem key_eq_normalize (hblank : ∀ t ∈ token.toList, Text.isBlank t = false)
    (hnames : HotkeyPart.Names token part) (hreport : part.Reports report)
    (hkey : report.key? layout trusts = some key) (h : ¬SlipsIn trusts token report) :
    key = Key.normalize token := by
  cases hnames with
  | @word entry hentry hlower =>
    cases hreport
    rw [KeyReport.key_of_name (HotkeyPart.word_of_mem_aliases entry hentry).2.2.1] at hkey
    have hagrees := (HotkeyPart.names_of_mem_aliases entry hentry).1
      (fun hword => h (.word (hlower ▸ hword)))
    rw [← hlower, hkey] at hagrees
    exact (Key.normalize_of_found (Text.trim_of_not_isBlank hblank) hagrees).symm
  | @function number hnumber hlower =>
    cases hreport
    rw [KeyReport.key_of_name (by simp), KeyReport.ofName_function hnumber] at hkey
    cases hkey
    obtain ⟨c, hc, rfl⟩ := Text.exists_of_lower_function (Key.of_isDigits hnumber).2 hlower
    rw [Key.normalize_function hc hnumber]
    split
    · rfl
    · next hunknown =>
      rcases hc with rfl | rfl
      · exact absurd (.function hnumber rfl hunknown) h
      · rfl
  | @char c hlower =>
    cases hreport
    have htyped : c.isAlpha = true ∨ c.isDigit = true := by
      by_contra hsign
      rw [not_or, Bool.not_eq_true, Bool.not_eq_true] at hsign
      exact h (.sign hlower hsign.1 hsign.2)
    rcases KeyReport.key_of_char hkey with ⟨htrusts, hcode⟩ | hname
    · by_contra hother
      exact h (.code rfl htrusts hcode hother)
    · exact Option.some.inj (hname.symm.trans (Key.keyOf_typed layout hblank hlower htyped))

/-- **A key that slips in has another name.** -/
theorem SlipsIn.key_ne_normalize (hblank : ∀ t ∈ token.toList, Text.isBlank t = false)
    (hnames : HotkeyPart.Names token part) (hreport : part.Reports report)
    (hkey : report.key? layout trusts = some key) (h : SlipsIn trusts token report) :
    key ≠ Key.normalize token := by
  cases h with
  | word hword =>
    obtain ⟨entry, hentry, hlower⟩ :=
      List.mem_map.1 (HotkeyPart.mem_aliases_of_ownWords _ hword)
    obtain rfl := hnames.unique (.word hentry hlower.symm)
    cases hreport
    rw [KeyReport.key_of_name (HotkeyPart.word_of_mem_aliases entry hentry).2.2.1] at hkey
    rw [← hlower] at hword
    obtain ⟨halias, hknown, hname⟩ := (HotkeyPart.names_of_mem_aliases entry hentry).2 hword
    obtain ⟨hlong, hother⟩ := hname key hkey
    rw [hlower] at halias hknown hother
    have hisOther : Key.IsOther token := ⟨Text.trim_of_not_isBlank hblank, halias, hknown⟩
    rw [hisOther.normalize]
    rintro rfl
    rcases Key.ofOther_cases token with hsame | hshort
    · exact hother (congrArg Text.lower hsame)
    · omega
  | @function number hnumber htoken hunknown =>
    subst htoken
    obtain rfl := hnames.unique (.function hnumber (Key.lower_function (.inl rfl) hnumber))
    cases hreport
    rw [KeyReport.key_of_name (by simp), KeyReport.ofName_function hnumber] at hkey
    cases hkey
    rw [Key.normalize_function (.inl rfl) hnumber, if_neg hunknown]
    intro hsame
    exact absurd (List.cons.inj (String.ofList_injective hsame)).1 (by decide)
  | @sign c hlower hletter hdigit =>
    obtain rfl := hnames.unique (.char hlower)
    cases hreport
    -- The key is known, and the name of a sign is not.
    have hplain : Key.IsPlain key := by
      rcases KeyReport.key_of_char hkey with ⟨-, hcode⟩ | hname
      · obtain ⟨code, -, hcode⟩ := Option.bind_eq_some_iff.1 hcode
        exact KeyReport.plain_of_ofCode hcode
      · obtain ⟨found, hfound, rfl⟩ := Option.map_eq_some_iff.1 hname
        exact KeyReport.plain_of_keyOf (by simp) hfound
    rintro rfl
    exact Key.normalize_sign hblank hlower hletter hdigit hplain.1
  | code hname htrusts hcode hother =>
    cases hreport with
    | special => cases hname
    | char typed code =>
      subst htrusts
      rw [KeyReport.key_of_code hcode] at hkey
      cases hkey
      exact hother

/-- **The key of a token has the name of the token exactly if it does not slip in.** -/
theorem key_eq_normalize_iff (hblank : ∀ t ∈ token.toList, Text.isBlank t = false)
    (hnames : HotkeyPart.Names token part) (hreport : part.Reports report)
    (hkey : report.key? layout trusts = some key) :
    key = Key.normalize token ↔ ¬SlipsIn trusts token report :=
  ⟨fun heq h => h.key_ne_normalize hblank hnames hreport hkey heq,
    key_eq_normalize hblank hnames hreport hkey⟩

/-- The token of a hotkey of one token names its key. -/
theorem names_of_read {definition : String} (hlone : tokens definition = [token])
    (hread : read definition = .ok ⟨[part]⟩) : HotkeyPart.Names token part := by
  have hspells := (read_eq_ok_iff.1 hread).2
  unfold Spells at hspells
  rw [hlone] at hspells
  exact (List.forall₂_cons.1 hspells).1

end Hotkey

/-! ## Recordings -/

namespace RecordingSession

variable {τ : Type}

/-- **A session drops an event**: it is one that is never recorded, and nothing comes of it. -/
def Drops (session : RecordingSession τ) (event : InputEvent τ) : Prop :=
  session.isIgnored event = true ∧ session.push event = session

theorem drops_iff {session : RecordingSession τ} {event : KeyEvent τ} :
    session.Drops (.key event) ↔ event.key ∈ session.ignored := by
  have hignored : session.isIgnored (.key event) = true ↔ event.key ∈ session.ignored :=
    List.contains_iff_mem
  exact ⟨fun h => hignored.1 h.1, fun hmem => ⟨hignored.2 hmem, if_pos (hignored.2 hmem)⟩⟩

/-- The session that settings ask for knows their hotkeys. -/
theorem ignored_of_sessionOf {ω : Type} {equipment : Recording.Equipment ω} {settings : Settings}
    {library : Library} {file : Path} {name : String} {now : Binary64}
    {session : RecordingSession Binary64}
    (h : Recording.sessionOf equipment settings library file name now = .ok session) :
    session.ignored = Recording.hotkeyKeys settings := by
  obtain ⟨quiet, -, h⟩ := of_bind h
  cases h
  rfl

/-- **A hotkey of one key is dropped exactly if it does not slip in**, unless the other hotkey is a
key of that name. -/
theorem drops_lone_iff {settings : Settings} {definition other token : String} {part : HotkeyPart}
    {report : KeyReport} {layout : Layout} {trusts down : Bool} {now : τ}
    {session : RecordingSession τ} {event : KeyEvent τ}
    (hsession : session.ignored = Recording.hotkeyKeys settings)
    (hdefinition : [definition, other].Perm [settings.startHotkey, settings.stopHotkey])
    (hlone : Hotkey.tokens definition = [token])
    (hread : Hotkey.read definition = .ok ⟨[part]⟩) (hreport : part.Reports report)
    (hevent : Hook.keyEvent? layout trusts report down now = some event) :
    session.Drops (.key event)
      ↔ ¬Hotkey.SlipsIn trusts token report ∨ Hotkey.loneKey? other = some event.key := by
  obtain ⟨key, hkey, rfl⟩ := Option.map_eq_some_iff.1 hevent
  have hblank : ∀ t ∈ token.toList, Text.isBlank t = false := fun t ht =>
    (Hotkey.of_mem_tokens (hlone ▸ List.mem_cons_self : token ∈ _) t ht).1
  have hname : Hotkey.loneKey? definition = some (Key.normalize token) := by
    unfold Hotkey.loneKey?
    rw [hlone]
  have hkeys : key ∈ Recording.hotkeyKeys settings
      ↔ key = Key.normalize token ∨ Hotkey.loneKey? other = some key := by
    unfold Recording.hotkeyKeys
    rw [← (hdefinition.filterMap Hotkey.loneKey?).mem_iff, List.mem_filterMap]
    simp only [List.mem_cons, List.not_mem_nil, or_false, or_and_right, exists_or, exists_eq_left,
      hname, Option.some.injEq, eq_comm (b := key)]
  rw [drops_iff, hsession, hkeys,
    Hotkey.key_eq_normalize_iff hblank (Hotkey.names_of_read hlone hread) hreport hkey]

/-- Equipment with hooks that always start, and no pointer. -/
def plainEquipment : Recording.Equipment Unit where
  hotkeys := ⟨true, fun _ => none⟩
  hooks := fun _ => ⟨true, fun _ => none⟩
  pointer := Effect.ofExcept (.error (.noModule "pynput"))
  clock := fun _ => .ofInt 0
  trustsCodes := false
  supply := fun _ => "n"
  idOf := fun _ => "a"

theorem drops_lone_iff_function :
    ∃ session, Recording.sessionOf plainEquipment .usual ⟨[]⟩ (Path.ofText "lib.json") "rec"
        (.ofInt 0) = .ok session
      ∧ session.ignored = Recording.hotkeyKeys .usual
      ∧ ["F10", "F9"].Perm [Settings.usual.startHotkey, Settings.usual.stopHotkey]
      ∧ Hotkey.tokens "F10" = ["F10"]
      ∧ Hotkey.read "F10" = .ok ⟨[.special "f10"]⟩
      ∧ (HotkeyPart.special "f10").Reports ⟨some "f10", none, none⟩
      ∧ Hook.keyEvent? .german false ⟨some "f10", none, none⟩ true (Binary64.ofInt 1)
        = some ⟨"F10", true, .ofInt 1⟩
      ∧ (session.Drops (.key ⟨"F10", true, .ofInt 1⟩)
        ↔ ¬Hotkey.SlipsIn false "F10" ⟨some "f10", none, none⟩
          ∨ Hotkey.loneKey? "F9" = some "F10") := by
  have hsession : ∃ session, Recording.sessionOf plainEquipment .usual ⟨[]⟩
      (Path.ofText "lib.json") "rec" (.ofInt 0) = .ok session := ⟨_, rfl⟩
  obtain ⟨session, hsession⟩ := hsession
  have hignored := ignored_of_sessionOf hsession
  have hdefinition : ["F10", "F9"].Perm [Settings.usual.startHotkey, Settings.usual.stopHotkey] :=
    .swap "F9" "F10" []
  have hreport : (HotkeyPart.special "f10").Reports ⟨some "f10", none, none⟩ := .special _ _ _
  have hlone : Hotkey.tokens "F10" = ["F10"] := rfl
  have hread : Hotkey.read "F10" = .ok ⟨[.special "f10"]⟩ := rfl
  have hevent : Hook.keyEvent? .german false ⟨some "f10", none, none⟩ true (Binary64.ofInt 1)
      = some ⟨"F10", true, .ofInt 1⟩ := rfl
  exact ⟨session, hsession, hignored, hdefinition, hlone, hread, hreport, hevent,
    drops_lone_iff hignored hdefinition hlone hread hreport hevent⟩

/-- **A key that is a hotkey by itself is recorded**, where the hotkey is a sign. -/
theorem lone_hotkey_recorded :
    ∃ session, Recording.sessionOf plainEquipment { Settings.usual with stopHotkey := "-" } ⟨[]⟩
        (Path.ofText "lib.json") "rec" (.ofInt 0) = .ok session
      ∧ Hotkey.tokens "-" = ["-"] ∧ Hotkey.read "-" = .ok ⟨[.char "-"]⟩
      ∧ (HotkeyPart.char "-").Reports ⟨none, none, some "-"⟩
      ∧ Hook.keyEvent? .german false ⟨none, none, some "-"⟩ true (Binary64.ofInt 1)
        = some ⟨"OemMinus", true, .ofInt 1⟩
      ∧ ¬session.Drops (.key ⟨"OemMinus", true, .ofInt 1⟩) := by
  refine ⟨_, rfl, rfl, rfl, .char _ _, rfl, ?_⟩
  rw [drops_iff]
  decide +kernel

end RecordingSession
end DesktopMacro
