/-
Keys that a recording holds can be sent.

The hook gives names to keys, the recording brings these to their own names, and the devices look
the names up again, each in tables of its own. What the hook gives is a known key, or a function key
of any number. A known key stays a known key, and a function key keeps its number. So what is
recorded is found in the tables of both devices, but for one key: `Oem8` has a code and a name, and
no device has anything to press for it.
-/
import DesktopMacro.Desktop.KeySymbol
import DesktopMacro.Hook.Listener
import DesktopMacro.Proofs.Key.Names
import DesktopMacro.Proofs.Record.Emissions

set_option autoImplicit false

namespace DesktopMacro

/-! ## Known keys -/

namespace Key

/-- A known key that is no function key. -/
def IsPlain (key : String) : Prop := key ∈ all ∧ isFunction key = false

instance (key : String) : Decidable (IsPlain key) := inferInstanceAs (Decidable (_ ∧ _))

/-- **A key that is recorded**, where the keyboard controller has the given special keys: a plain
key, or a function key that the controller has. -/
inductive IsRecordable (specials : List String) : String → Prop
  | plain {key : String} (hplain : IsPlain key) : IsRecordable specials key
  | function {number : List Char} (hnumber : Text.isDigits (String.ofList number) = true)
    (hname : String.ofList ('f' :: number) ∈ specials) :
    IsRecordable specials (String.ofList ('F' :: number))

/-- **The tables of names have plain keys**: what aliases stand for, modifiers, the system's special
keys, the keys of codes, those of both layouts, and letters. -/
theorem plain_of_mem_tables : ∀ keys ∈ [aliases.map Prod.snd, modifiers,
    KeyReport.specials.map Prod.snd, KeyReport.codes.map Prod.snd,
    Layout.german.legends.map Layout.Legend.key, Layout.american.legends.map Layout.Legend.key,
    letters], ∀ key ∈ keys, IsPlain key := by
  decide +kernel

/-- Whether a known key is a function key can be told by its small letters. -/
theorem isFunction_of_mem_all : ∀ key ∈ all, isFunction key
    = match (Text.lower key).toList with
      | 'f' :: number => Text.isDigits (String.ofList number)
      | _ => false := by
  decide +kernel

theorem plain_of_mem_modifiers : ∀ key ∈ modifiers, IsPlain key :=
  plain_of_mem_tables _ (by simp)

/-- **The name of a plain key is that of a plain key.** -/
theorem IsPlain.normalize {key : String} (h : IsPlain key) : IsPlain (normalize key) := by
  obtain ⟨hall, hplain⟩ := h
  have htrim : Text.trim key = key := (wellSpelt_of_mem_all key hall).trimmed
  unfold Key.normalize
  rw [ne_space_of_trim htrim, htrim]
  dsimp only
  cases halias : ofAlias? (Text.lower key) with
  | some name =>
    obtain ⟨entry, hentry, rfl⟩ := Option.map_eq_some_iff.1 halias
    exact plain_of_mem_tables (aliases.map Prod.snd) (by simp) _
      (List.mem_map_of_mem (List.mem_of_find?_eq_some hentry))
  | none =>
    cases hknown : ofLowered? (Text.lower key) with
    | some name =>
      -- Another key with the same small letters would be plain, too.
      obtain ⟨hname, hlower⟩ := of_ofLowered hknown
      refine ⟨hname, ?_⟩
      change isFunction name = false
      rw [isFunction_of_mem_all name hname, hlower, ← isFunction_of_mem_all key hall, hplain]
    | none =>
      unfold ofLowered? at hknown
      rw [List.find?_eq_none] at hknown
      exact absurd (beq_self_eq_true _) (hknown key hall)

/-- **The name of a recordable key is recordable.** -/
theorem IsRecordable.normalize {specials : List String} {key : String}
    (h : IsRecordable specials key) : IsRecordable specials (normalize key) := by
  cases h with
  | plain hplain => exact .plain hplain.normalize
  | function hnumber hname =>
    rw [normalize_function (.inr rfl) hnumber, ite_self]
    exact .function hnumber hname

theorem mem_combination {ctrl alt shift : Bool} {main key : String}
    (h : key ∈ combination ctrl alt shift main) : key ∈ modifiers ∨ key = main := by
  unfold combination at h
  rw [List.mem_append] at h
  rcases h with hheld | hmain
  · have hflags : ∀ ctrl alt shift : Bool, ((if ctrl then ["LeftCtrl"] else [])
        ++ (if alt then ["LeftAlt"] else []) ++ if shift then ["LeftShift"] else [])
        ⊆ modifiers := by
      decide
    exact .inl (hflags ctrl alt shift hheld)
  · split at hmain
    · cases hmain
    · exact .inr (List.mem_singleton.1 hmain)

end Key

/-! ## What hooks give -/

namespace KeyReport

/-- **A report as a system makes it**, where the keyboard controller has the given special keys: of
one character at the most, and of no function key that the controller does not have. -/
structure IsUsual (specials : List String) (report : KeyReport) : Prop where
  char : ∀ typed, report.char = some typed → typed.toList.length ≤ 1
  function : ∀ name key, report.name = some name → ofName? name = some key →
    Key.isFunction key = true → name ∈ specials

variable {specials : List String} {layout : Layout} {report : KeyReport}

theorem plain_of_mem_legends {legend : Layout.Legend} (h : legend ∈ layout.legends) :
    Key.IsPlain legend.key := by
  refine Key.plain_of_mem_tables (layout.legends.map Layout.Legend.key) ?_ _ (List.mem_map_of_mem h)
  cases layout <;> simp

/-- The key of a name is plain, or a function key of that name. -/
theorem ofName_cases {name key : String} (h : ofName? name = some key) :
    Key.IsPlain key ∨ ∃ number, Text.isDigits (String.ofList number) = true
      ∧ name = String.ofList ('f' :: number) ∧ key = String.ofList ('F' :: number) := by
  unfold ofName? at h
  split at h
  · next entry hentry =>
    cases h
    exact .inl (Key.plain_of_mem_tables (specials.map Prod.snd) (by simp) _
      (List.mem_map_of_mem (List.mem_of_find?_eq_some hentry)))
  · split at h
    · next number hname =>
      split at h
      · next hnumber =>
        rw [← String.ofList_toList (s := name), hname] at h ⊢
        cases h
        exact .inr ⟨number, hnumber, rfl, Key.upper_function hnumber⟩
      · cases h
    · cases h

theorem plain_of_ofCode {code : Int} {key : String} (h : ofCode? code = some key) :
    Key.IsPlain key := by
  obtain ⟨entry, hentry, rfl⟩ := Option.map_eq_some_iff.1 h
  exact Key.plain_of_mem_tables (codes.map Prod.snd) (by simp) _
    (List.mem_map_of_mem (List.mem_of_find?_eq_some hentry))

theorem upper_mem_letters : ∀ c, Text.isAscii c = true → c.isAlpha = true →
    Text.upper (String.ofList [c]) ∈ Key.letters :=
  Text.forall_ascii (by decide +kernel)

/-- The key of a single character is plain. -/
theorem plain_of_keyOf {typed : String} {found : String × Bool} (hone : typed.toList.length ≤ 1)
    (h : layout.keyOf typed = some found) : Key.IsPlain found.1 := by
  unfold Layout.keyOf at h
  split at h
  · cases h
  · next hsome =>
    split at h
    · cases h
      exact Key.plain_of_mem_tables (Key.aliases.map Prod.snd) (by simp) "Space"
        (by simp [Key.aliases])
    split at h
    · next halpha =>
      cases h
      have hne : typed.toList ≠ [] := by
        intro hnil
        rw [← String.ofList_toList (s := typed), hnil] at hsome
        exact hsome rfl
      obtain ⟨c, hc⟩ := List.length_eq_one_iff.1 (hone.antisymm (List.length_pos_iff.2 hne))
      obtain rfl : typed = String.ofList [c] := by rw [← hc, String.ofList_toList]
      rw [String.toList_ofList, List.all_cons, Bool.and_eq_true] at halpha
      have hletter := upper_mem_letters c (Text.isAscii_of_isAlpha halpha.1) halpha.1
      exact Key.plain_of_mem_tables Key.letters (by simp) _ hletter
    · obtain ⟨legend, hlegend, htypes⟩ := List.exists_of_findSome?_eq_some h
      unfold Layout.Legend.types? at htypes
      split at htypes
      · cases htypes
        exact plain_of_mem_legends hlegend
      split at htypes
      · cases htypes
        exact plain_of_mem_legends hlegend
      · cases htypes

/-- The key of a report without a name is plain. -/
theorem plain_of_unnamed {trusts : Bool} {key : String} (husual : report.IsUsual specials)
    (h : key?.unnamed report layout trusts = some key) : Key.IsPlain key := by
  unfold key?.unnamed at h
  split at h
  · next code hcode =>
    cases h
    split at hcode
    · obtain ⟨code, -, hcode⟩ := Option.bind_eq_some_iff.1 hcode
      exact plain_of_ofCode hcode
    · cases hcode
  · obtain ⟨typed, htyped, h⟩ := Option.bind_eq_some_iff.1 h
    obtain ⟨found, hfound, rfl⟩ := Option.map_eq_some_iff.1 h
    exact plain_of_keyOf (husual.char typed htyped) hfound

/-- **What a hook gives is recordable.** -/
theorem recordable_of_key {trusts : Bool} {key : String} (husual : report.IsUsual specials)
    (h : report.key? layout trusts = some key) : Key.IsRecordable specials key := by
  unfold key? at h
  split at h
  · next name hname =>
    split at h
    · exact .plain (plain_of_unnamed husual h)
    · rcases ofName_cases h with hplain | ⟨number, hnumber, rfl, rfl⟩
      · exact .plain hplain
      · refine .function hnumber (husual.function _ _ hname h ?_)
        unfold Key.isFunction
        rw [String.toList_ofList]
        exact hnumber
  · exact .plain (plain_of_unnamed husual h)

end KeyReport

/-! ## What devices can send -/

namespace Key

/-- **A key can be sent** by either device, where the keyboard controller has the given special
keys. -/
def IsSendable (specials : List String) (key : String) : Prop :=
  (∃ symbol, Key.symbol specials key = .ok symbol) ∧ ∃ name, spareName key = .ok name

/-- **A key cannot be sent**, whichever device is to send it. -/
def IsUnsendable (specials : List String) (key : String) : Prop :=
  Key.symbol specials key = .error (unsendable key) ∧ spareName key = .error (unsendable key)

/-- Either device has a name or a character for every plain key but one. -/
theorem lookUp_of_plain : ∀ key ∈ all, isFunction key = false → key ≠ "Oem8" →
    ((lookUp controllerNames key).isSome ∨ (char? key).isSome)
      ∧ ((lookUp spareNames key).isSome ∨ (char? key).isSome) := by
  decide +kernel

variable {specials : List String}

theorem symbol_of_name {key name : String} (hname : controllerName? key = some name)
    (hspecial : name ∈ specials) : Key.symbol specials key = .ok (.special name) := by
  unfold Key.symbol
  rw [hname]
  exact if_pos (List.contains_iff_mem.2 hspecial)

theorem unsendable_oem8 : IsUnsendable specials "Oem8" := ⟨rfl, rfl⟩

/-- **Every plain key but one can be sent.** -/
theorem IsPlain.sendable (hspecials : ∀ entry ∈ controllerNames, entry.2 ∈ specials)
    {key : String} (h : IsPlain key) (hkey : key ≠ "Oem8") : IsSendable specials key := by
  obtain ⟨hcontroller, hspare⟩ := lookUp_of_plain key h.1 h.2 hkey
  constructor
  · cases hname : lookUp controllerNames key with
    | some name =>
      obtain ⟨entry, hentry, rfl⟩ := Option.map_eq_some_iff.1 hname
      refine ⟨_, symbol_of_name ?_ (hspecials entry (List.mem_of_find?_eq_some hentry))⟩
      unfold controllerName?
      rw [hname]
    | none =>
      rw [hname] at hcontroller
      obtain ⟨text, htext⟩ := Option.isSome_iff_exists.1 (hcontroller.resolve_left nofun)
      refine ⟨.typed text, ?_⟩
      unfold Key.symbol controllerName? typedSymbol
      rw [hname, h.2, htext]
      rfl
  · unfold spareName
    cases hname : lookUp spareNames key with
    | some name => exact ⟨name, rfl⟩
    | none =>
      rw [hname] at hspare
      obtain ⟨text, htext⟩ := Option.isSome_iff_exists.1 (hspare.resolve_left nofun)
      rw [h.2, htext]
      exact ⟨text, rfl⟩

/-- No function key has a name of its own at a device. -/
theorem head_of_mem_names : ∀ entry ∈ controllerNames ++ spareNames,
    entry.1.toList.head? ≠ some 'F' := by
  decide +kernel

theorem lookUp_function {entries : List (String × String)} (number : List Char)
    (hentries : entries ⊆ controllerNames ++ spareNames) :
    lookUp entries (String.ofList ('F' :: number)) = none := by
  unfold lookUp
  rw [Option.map_eq_none_iff, List.find?_eq_none]
  intro entry hentry heq
  refine head_of_mem_names entry (hentries hentry) ?_
  rw [eq_of_beq heq, String.toList_ofList]
  rfl

/-- **A function key can be sent** if the controller has it. -/
theorem sendable_function {number : List Char}
    (hnumber : Text.isDigits (String.ofList number) = true)
    (hname : String.ofList ('f' :: number) ∈ specials) :
    IsSendable specials (String.ofList ('F' :: number)) := by
  have hfunction : isFunction (String.ofList ('F' :: number)) = true := by
    unfold isFunction
    rw [String.toList_ofList]
    exact hnumber
  have hlower := lower_function (.inr rfl) hnumber
  constructor
  · refine ⟨_, symbol_of_name ?_ hname⟩
    unfold controllerName?
    rw [lookUp_function number (List.subset_append_left _ _), hfunction, hlower]
    rfl
  · unfold spareName
    rw [lookUp_function number (List.subset_append_right _ _), hfunction]
    exact ⟨_, rfl⟩

/-- **Every recordable key but one can be sent.** -/
theorem IsRecordable.sendable (hspecials : ∀ entry ∈ controllerNames, entry.2 ∈ specials)
    {key : String} (h : IsRecordable specials key) (hkey : key ≠ "Oem8") :
    IsSendable specials key := by
  cases h with
  | plain hplain => exact hplain.sendable hspecials hkey
  | function hnumber hname => exact sendable_function hnumber hname

end Key

/-! ## Recordings of what hooks give -/

/-- **An event that a hook forwards**, under a layout, with codes trusted or not: there is a report
behind it that a system can make. -/
def KeyEvent.IsForwarded {τ : Type} (event : KeyEvent τ) (specials : List String) (layout : Layout)
    (trusts : Bool) : Prop :=
  ∃ report : KeyReport, report.IsUsual specials
    ∧ Hook.keyEvent? layout trusts report event.down event.time = some event

theorem KeyEvent.IsForwarded.recordable {τ : Type} {event : KeyEvent τ} {specials : List String}
    {layout : Layout} {trusts : Bool} (h : event.IsForwarded specials layout trusts) :
    Key.IsRecordable specials event.key := by
  obtain ⟨report, husual, hevent⟩ := h
  obtain ⟨key, hkey, hevent⟩ := Option.map_eq_some_iff.1 hevent
  rw [← hevent]
  exact KeyReport.recordable_of_key husual hkey

namespace Capture

variable {τ : Type} {specials : List String}

/-- **The keys that a recording holds can be sent**, all but one. -/
def HoldsSendable (capture : Capture τ) (specials : List String) : Prop :=
  ∀ header task, .task header (.keyboard task) ∈ capture.recorded → ∀ key ∈ task.keys,
    if key = "Oem8" then Key.IsUnsendable specials key else Key.IsSendable specials key

/-- What a call makes of a recordable key has recordable keys. -/
theorem recordable_of_makes {call : CaptureCall τ} {task : KeyboardTask}
    (hkey : ∀ event, call = .handle (.key event) → Key.IsRecordable specials event.key)
    (h : call.Makes (.keyboard task)) : ∀ key ∈ task.keys, Key.IsRecordable specials key := by
  cases h with
  | text => exact List.forall_mem_nil _
  | report hcall hbecomes =>
    cases hbecomes with
    | combination event ctrl alt shift =>
      intro key hmem
      rcases Key.mem_combination hmem with hmodifier | rfl
      · exact .plain (Key.plain_of_mem_modifiers key hmodifier)
      · exact (hkey event hcall).normalize
    | keyPress event => exact List.forall_mem_singleton.2 (hkey event hcall).normalize

/-- **Keys that hooks forwarded can be sent once they are recorded**, all but one. -/
theorem forwarded_sendable [Timeline τ]
    (hspecials : ∀ entry ∈ Key.controllerNames, entry.2 ∈ specials) {layout : Layout}
    {trusts : Bool} (capture : Capture τ) (begin : τ)
    (calls : List (CaptureCall τ))
    (hforwarded : ∀ event, .handle (.key event) ∈ calls →
      event.IsForwarded specials layout trusts) :
    ((capture.start begin).feed calls).HoldsSendable specials := by
  intro header task haction key hkey
  obtain ⟨call, hcall, shown, task', heq, -, hmakes⟩ := made_of_recorded haction
  cases heq
  have hrecordable : Key.IsRecordable specials key := by
    refine recordable_of_makes (fun event hevent => ?_) hmakes key hkey
    subst hevent
    exact (hforwarded event hcall).recordable
  split
  · next hoem8 =>
    rw [hoem8]
    exact Key.unsendable_oem8
  · next hoem8 => exact hrecordable.sendable hspecials hoem8

/-- A way to record with an interval of one second. -/
def everySecond : Capture Quantity := .initial ⟨.whole 1, .german, 10, fun _ => ""⟩ (.whole 0)

/-- A key that goes down while Ctrl is held. -/
def shortcutCalls (main : String) : List (CaptureCall Quantity) :=
  [.handle (.key ⟨"LeftCtrl", true, .whole 1⟩), .handle (.key ⟨main, true, .whole 1⟩),
    .stop (.whole 2)]

theorem forwarded_shortcut {main : String} (h : KeyEvent.IsForwarded ⟨main, true, Quantity.whole 1⟩
    Key.usualSpecials .german true) :
    ∀ event, .handle (.key event) ∈ shortcutCalls main →
      event.IsForwarded Key.usualSpecials .german true := by
  intro event hevent
  simp only [shortcutCalls, List.mem_cons, CaptureCall.handle.injEq, InputEvent.key.injEq,
    List.not_mem_nil, reduceCtorEq, or_false] at hevent
  rcases hevent with rfl | rfl
  · refine ⟨⟨some "ctrl_l", none, none⟩, ⟨nofun, fun name _ hname _ _ => ?_⟩, rfl⟩
    cases hname
    decide +kernel
  · exact h

theorem forwarded_sendable_function :
    (∀ entry ∈ Key.controllerNames, entry.2 ∈ Key.usualSpecials)
    ∧ (∀ event, .handle (.key event) ∈ shortcutCalls "F5" →
      event.IsForwarded Key.usualSpecials .german true)
    ∧ ((everySecond.start (.whole 0)).feed (shortcutCalls "F5")).HoldsSendable
      Key.usualSpecials := by
  have hspecials : ∀ entry ∈ Key.controllerNames, entry.2 ∈ Key.usualSpecials := by decide +kernel
  have hforwarded : ∀ event, .handle (.key event) ∈ shortcutCalls "F5" →
      event.IsForwarded Key.usualSpecials .german true := by
    refine forwarded_shortcut
      ⟨⟨some "f5", none, none⟩, ⟨nofun, fun name _ hname _ _ => ?_⟩, rfl⟩
    cases hname
    decide +kernel
  exact ⟨hspecials, hforwarded,
    forwarded_sendable hspecials everySecond (.whole 0) _ hforwarded⟩

/-- **A key that a hook forwards by its code is recorded, and cannot be sent.** -/
theorem recorded_unsendable :
    (∀ event, .handle (.key event) ∈ shortcutCalls "Oem8" →
      event.IsForwarded Key.usualSpecials .german true)
    ∧ (∃ header task, .task header (.keyboard task)
        ∈ ((everySecond.start (.whole 0)).feed (shortcutCalls "Oem8")).recorded
      ∧ task.keys = ["LeftCtrl", "Oem8"])
    ∧ Key.IsUnsendable Key.usualSpecials "Oem8" :=
  ⟨forwarded_shortcut ⟨⟨none, some 0xDF, none⟩, ⟨nofun, nofun⟩, rfl⟩,
    ⟨_, _, List.Mem.head _, rfl⟩, Key.unsendable_oem8⟩

end Capture
end DesktopMacro
