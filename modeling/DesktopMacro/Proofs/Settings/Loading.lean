/-
Loading the settings.

Whatever stands in the object of a settings file, every text in it and every number has a value, and
the values are allowed; so the settings are those of the object, and the file stays as it is. Where
there is no object in the file, the usual settings stand in, and the file is moved aside if the
system can move it.

A whole number has three causes for not being one, and two of them are put up with. An infinite
double has the third, and settings with such a number are not loaded at all. Nor are they from a
document whose values stand too deep, from a path that the system does not look up, or from a path
without a name when there is something to be moved aside. These are all.
-/
import DesktopMacro.Proofs.Files.Documents
import DesktopMacro.Proofs.Json.Reading
import DesktopMacro.Settings.File

set_option autoImplicit false

namespace DesktopMacro.Settings

/-! ## Values -/

section

variable {members : Members} {P : Cause → Prop}

/-- Every value can be taken for a text. -/
theorem failsFor_readText (h : (Json.object members).isWritable = true) (name usual : String) :
    FailsFor P (readText members name usual) := by
  unfold readText
  split
  · exact failsFor_ok P usual
  · next raw hraw =>
    split
    · exact failsFor_ok P usual
    · unfold Json.asText
      rw [if_pos (Json.isWritable_get? h hraw)]
      exact failsFor_ok P raw.display

/-- Every value can be taken for a layout. -/
theorem failsFor_readLayout (h : (Json.object members).isWritable = true) :
    FailsFor P (readLayout members) := by
  unfold readLayout
  split
  · exact failsFor_ok P usual.layout
  · next raw hraw =>
    dsimp only
    split
    · exact failsFor_ok P _
    · unfold Json.asText
      rw [if_pos (Json.isWritable_get? h hraw)]
      exact failsFor_ok P _

/-- The number under a name is infinite. -/
def IsInfiniteAt (members : Members) (name : String) : Prop :=
  ((members.get? name).getD .null).IsInfinite

/-- Every value can be taken for a number, unless it is infinite. -/
theorem failsFor_readNumber {name : String} (h : IsInfiniteAt members name → P .infinityToWhole)
    (usual smallest : Int) : FailsFor P (readNumber members name usual smallest) := by
  unfold readNumber
  split
  · exact failsFor_ok P _
  · next hwhole => exact failsFor_error (h (Json.whole_infinite_iff.1 hwhole))
  · exact failsFor_ok P usual

/-- An infinite number is not put up with. -/
theorem readNumber_of_infinite {name : String} (h : IsInfiniteAt members name)
    (usual smallest : Int) :
    readNumber members name usual smallest = .error .infinityToWhole := by
  unfold readNumber
  rw [Json.whole_infinite_iff.2 h]

theorem not_infinite_of_readNumber {name : String} {usual smallest n : Int}
    (h : readNumber members name usual smallest = .ok n) : ¬IsInfiniteAt members name := by
  intro hinfinite
  rw [readNumber_of_infinite hinfinite] at h
  cases h

/-- A number that is read is not too small, since the usual one is not. -/
theorem smallest_le_of_readNumber {name : String} {usual smallest n : Int}
    (h : readNumber members name usual smallest = .ok n) (husual : smallest ≤ usual) :
    smallest ≤ n := by
  unfold readNumber at h
  split at h
  · next m _ =>
    cases h
    exact Int.le_max_left smallest m
  · cases h
  · cases h
    exact husual

end

/-! ## Objects -/

section

variable {members : Members} {settings : Settings}

/-- One of the numbers of the settings is infinite. -/
def HasInfinite (members : Members) : Prop :=
  IsInfiniteAt members "text_quiet_interval_ms" ∨ IsInfiniteAt members "default_char_delay"
    ∨ IsInfiniteAt members "event_queue_size"

theorem isValid_of_validate {valid : Settings} (h : settings.validate = .ok valid) :
    valid.IsValid := by
  unfold validate at h
  split at h
  · cases h
  split at h
  · cases h
  split at h
  · cases h
  · cases h
    exact ⟨by omega, by omega, by omega⟩

theorem failsFor_validate {P : Cause → Prop} (hquiet : 0 ≤ settings.quietInterval)
    (hdelay : 0 ≤ settings.charDelay) (hsize : 1 ≤ settings.queueSize) :
    FailsFor P settings.validate := by
  unfold validate
  rw [if_neg (by omega), if_neg (by omega), if_neg (by omega)]
  exact failsFor_ok P settings

/-- Settings that are read are allowed, and come from an object without infinite numbers. -/
theorem of_read (h : read members = .ok settings) : settings.IsValid ∧ ¬HasInfinite members := by
  unfold read at h
  obtain ⟨layout, -, h⟩ := of_bind h
  obtain ⟨startHotkey, -, h⟩ := of_bind h
  obtain ⟨stopHotkey, -, h⟩ := of_bind h
  obtain ⟨cancelHotkey, -, h⟩ := of_bind h
  obtain ⟨quietInterval, hquiet, h⟩ := of_bind h
  obtain ⟨charDelay, hdelay, h⟩ := of_bind h
  obtain ⟨queueSize, hsize, h⟩ := of_bind h
  obtain ⟨libraryPath, -, h⟩ := of_bind h
  obtain ⟨logDirectory, -, h⟩ := of_bind h
  refine ⟨isValid_of_validate h, ?_⟩
  rintro (hinfinite | hinfinite | hinfinite)
  · exact not_infinite_of_readNumber hquiet hinfinite
  · exact not_infinite_of_readNumber hdelay hinfinite
  · exact not_infinite_of_readNumber hsize hinfinite

/-- Settings are not read only for an infinite number. -/
theorem failsFor_read (h : (Json.object members).isWritable = true) :
    FailsFor (fun cause => cause = .infinityToWhole ∧ HasInfinite members) (read members) := by
  refine (failsFor_readLayout h).bind fun layout _ => ?_
  refine (failsFor_readText h _ _).bind fun startHotkey _ => ?_
  refine (failsFor_readText h _ _).bind fun stopHotkey _ => ?_
  refine (failsFor_readText h _ _).bind fun cancelHotkey _ => ?_
  refine (failsFor_readNumber (fun hinfinite => ⟨rfl, .inl hinfinite⟩) _ _).bind
    fun quietInterval hquiet => ?_
  refine (failsFor_readNumber (fun hinfinite => ⟨rfl, .inr (.inl hinfinite)⟩) _ _).bind
    fun charDelay hdelay => ?_
  refine (failsFor_readNumber (fun hinfinite => ⟨rfl, .inr (.inr hinfinite)⟩) _ _).bind
    fun queueSize hsize => ?_
  refine (failsFor_readText h _ _).bind fun libraryPath _ => ?_
  refine (failsFor_readText h _ _).bind fun logDirectory _ => ?_
  exact failsFor_validate (smallest_le_of_readNumber hquiet (by decide))
    (smallest_le_of_readNumber hdelay (by decide)) (smallest_le_of_readNumber hsize (by decide))

/-- **Settings are read from an object without infinite numbers**, and from no other. -/
theorem read_cases (h : (Json.object members).isWritable = true) :
    (¬HasInfinite members → ∃ settings, read members = .ok settings)
      ∧ (HasInfinite members → read members = .error .infinityToWhole) := by
  cases hread : read members with
  | ok settings =>
    exact ⟨fun _ => ⟨settings, rfl⟩, fun hinfinite => absurd hinfinite (of_read hread).2⟩
  | error cause =>
    obtain ⟨rfl, hinfinite⟩ := failsFor_read h cause hread
    exact ⟨fun hfinite => absurd hinfinite hfinite, fun _ => rfl⟩

end

/-! ## Files -/

section

variable {tree : FileTree} {file : Path}

/-- The settings in a document. -/
def ofDocument : Json → Except Cause Settings
  | .object members => read members
  | _ => .error (.badValue "Settings file has invalid structure")

theorem ofFile_eq (tree : FileTree) (file : Path) :
    ofFile tree file = tree.documentAt file.toText >>= ofDocument := by
  unfold ofFile FileTree.documentAt
  cases tree.read file.toText with
  | error cause => rfl
  | ok bytes =>
    cases hdecode : Codec.decode .utf8 bytes with
    | error cause => simp [bind, Except.bind, hdecode]
    | ok text =>
      simp only [bind, Except.bind, hdecode, ofFileText]
      cases (Json.read text).mapError Cause.ofDocument with
      | error cause => rfl
      | ok document => cases document <;> rfl

/-- There is no object in a file: there is a document of another kind, or the file is refused. -/
def IsUnusable (tree : FileTree) (file : Path) : Prop :=
  match tree.documentAt file.toText with
  | .ok (.object _) => False
  | .ok _ => True
  | .error cause => cause.IsRefusal

theorem isReplaceable_of_isRefusal {cause : Cause} (h : cause.IsRefusal) :
    isReplaceable cause = true := by
  cases cause <;> first | rfl | exact h.elim

/-- A file that cannot be used is not, for a cause for which the usual settings stand in. -/
theorem ofFile_of_isUnusable (h : IsUnusable tree file) :
    ∃ cause, ofFile tree file = .error cause ∧ isReplaceable cause = true := by
  rw [ofFile_eq]
  unfold IsUnusable at h
  split at h
  · exact h.elim
  · next document hobject hdocument =>
    rw [hdocument]
    refine ⟨.badValue "Settings file has invalid structure", ?_, rfl⟩
    cases document with
    | object members => exact absurd rfl (hobject members)
    | _ => rfl
  · next cause hdocument =>
    rw [hdocument]
    exact ⟨cause, rfl, isReplaceable_of_isRefusal h⟩

/-- An object is loaded, or is not, as it is read; the file is left alone. -/
theorem load_of_object {members : Members}
    (h : tree.documentAt file.toText = .ok (.object members)) :
    load tree file = (read members, tree, []) := by
  have hexists := tree.exists?_of_document file.toText h
  have hread : ofFile tree file = read members := by
    rw [ofFile_eq, h]
    rfl
  unfold load
  simp only [hexists, hread]
  cases hsettings : read members with
  | ok settings => rfl
  | error cause =>
    -- The one cause for which an object is not read is let through, so nothing is moved.
    obtain ⟨rfl, -⟩ := failsFor_read (tree.isWritable_of_documentAt file.toText h) cause hsettings
    rfl

/-- A file that cannot be used is moved to a path if it can be moved there. -/
theorem load_of_isUnusable (h : IsUnusable tree file)
    (hexists : tree.exists? file.toText = .ok true) {aside : Path}
    (haside : file.withEnding? ".bak" = .ok aside) :
    (load tree file).1 = .ok usual
      ∧ (load tree file).2.1 = (tree.move file.toText aside.toText).toOption.getD tree := by
  obtain ⟨cause, hcause, hreplaceable⟩ := ofFile_of_isUnusable h
  unfold load moveAside
  simp only [hexists, hcause, hreplaceable, haside, if_true, bind, Except.bind]
  cases tree.move file.toText aside.toText <;> exact ⟨rfl, rfl⟩

/-- What is in a file is an object, cannot be used, or stands too deep. -/
theorem documentAt_cases (tree : FileTree) (file : Path) :
    (∃ members, tree.documentAt file.toText = .ok (.object members)) ∨ IsUnusable tree file
      ∨ ∃ holder, tree.documentAt file.toText = .error (.tooDeep (some holder)) := by
  unfold IsUnusable
  cases hdocument : tree.documentAt file.toText with
  | ok document =>
    cases document with
    | object members => exact .inl ⟨members, rfl⟩
    | _ => exact .inr (.inl trivial)
  | error cause =>
    rcases tree.failsFor_documentAt file.toText cause hdocument with hrefusal | ⟨holder, rfl⟩
    · exact .inr (.inl hrefusal)
    · exact .inr (.inr ⟨holder, rfl⟩)

/-- **Why settings are not loaded**: an infinite number among them, values that stand too deep, a
path that the system does not look up, or one without a name to move aside. -/
theorem failsFor_load (tree : FileTree) (file : Path) :
    FailsFor (fun cause =>
      (cause = .infinityToWhole
        ∧ ∃ members, tree.documentAt file.toText = .ok (.object members) ∧ HasInfinite members)
      ∨ (∃ holder, cause = .tooDeep (some holder) ∧ tree.documentAt file.toText = .error cause)
      ∨ tree.exists? file.toText = .error cause
      ∨ (IsUnusable tree file ∧ file.withEnding? ".bak" = .error cause))
    (load tree file).1 := by
  intro cause hcause
  rcases documentAt_cases tree file with ⟨members, hdocument⟩ | hunusable | ⟨holder, hdocument⟩
  · rw [load_of_object hdocument] at hcause
    obtain ⟨rfl, hinfinite⟩ :=
      failsFor_read (tree.isWritable_of_documentAt file.toText hdocument) cause hcause
    exact .inl ⟨rfl, members, hdocument, hinfinite⟩
  · cases hexists : tree.exists? file.toText with
    | error other =>
      unfold load at hcause
      rw [hexists] at hcause
      cases hcause
      exact .inr (.inr (.inl rfl))
    | ok present =>
      cases present with
      | false =>
        unfold load at hcause
        rw [hexists] at hcause
        cases hcause
      | true =>
        cases haside : file.withEnding? ".bak" with
        | ok aside =>
          rw [(load_of_isUnusable hunusable hexists haside).1] at hcause
          cases hcause
        | error other =>
          obtain ⟨reason, hreason, hreplaceable⟩ := ofFile_of_isUnusable hunusable
          unfold load moveAside at hcause
          simp only [hexists, hreason, hreplaceable, haside, if_true, bind, Except.bind] at hcause
          cases hcause
          exact .inr (.inr (.inr ⟨hunusable, rfl⟩))
  · have hexists := tree.exists?_of_tooDeep file.toText hdocument
    have hfile : ofFile tree file = .error (.tooDeep (some holder)) := by
      rw [ofFile_eq, hdocument]
      rfl
    unfold load at hcause
    simp only [hexists, hfile] at hcause
    cases hcause
    exact .inr (.inl ⟨holder, rfl, hdocument⟩)

/-- Settings that are loaded are allowed. -/
theorem isValid_of_load {settings : Settings} (h : (load tree file).1 = .ok settings) :
    settings.IsValid := by
  have husual : usual.IsValid := by decide
  unfold load at h
  split at h
  · cases h
  · cases h
    exact husual
  · split at h
    · next hread =>
      cases h
      rw [ofFile_eq] at hread
      obtain ⟨document, -, hread⟩ := of_bind hread
      cases document with
      | object members => exact (of_read hread).1
      | _ => cases hread
    · split at h
      · split at h
        · cases h
          exact husual
        · cases h
      · cases h

/-- Where no settings are loaded the files stay as they are. -/
theorem tree_of_load_error {cause : Cause} (h : (load tree file).1 = .error cause) :
    (load tree file).2.1 = tree := by
  unfold load at h ⊢
  split
  · rfl
  · rfl
  · split
    · rfl
    · next hexists _ reason hreason =>
      simp only [hexists, hreason] at h
      split
      · next hreplaceable =>
        rw [if_pos hreplaceable] at h
        split
        · next haside =>
          rw [haside] at h
          cases h
        · rfl
      · rfl

end

/-- **What loading the settings comes to.** What is loaded is allowed. If there is an object in the
file, it is what it is read as, which is some settings unless one of their numbers is infinite, and
the file stays as it is. If there is anything else, the usual settings are loaded, and the file is
moved aside where it can be moved; if there is no file, they are just loaded. Nothing is loaded for
four causes only, and then nothing is moved. -/
theorem load_lenient (tree : FileTree) (file : Path) :
    (∀ settings, (load tree file).1 = .ok settings → settings.IsValid)
    ∧ (∀ members, tree.documentAt file.toText = .ok (.object members) →
      load tree file = (read members, tree, [])
      ∧ (¬HasInfinite members → ∃ settings, read members = .ok settings)
      ∧ (HasInfinite members → read members = .error .infinityToWhole))
    ∧ (tree.exists? file.toText = .ok true → IsUnusable tree file →
      ∀ aside, file.withEnding? ".bak" = .ok aside →
        (load tree file).1 = .ok usual
        ∧ (load tree file).2.1 = (tree.move file.toText aside.toText).toOption.getD tree)
    ∧ (tree.exists? file.toText = .ok false → load tree file = (.ok usual, tree, []))
    ∧ (∀ cause, (load tree file).1 = .error cause →
      (load tree file).2.1 = tree
      ∧ ((cause = .infinityToWhole
          ∧ ∃ members, tree.documentAt file.toText = .ok (.object members) ∧ HasInfinite members)
        ∨ (∃ holder, cause = .tooDeep (some holder) ∧ tree.documentAt file.toText = .error cause)
        ∨ tree.exists? file.toText = .error cause
        ∨ (IsUnusable tree file ∧ file.withEnding? ".bak" = .error cause))) := by
  refine ⟨fun settings h => isValid_of_load h, fun members hdocument => ?_,
    fun hexists hunusable aside haside => load_of_isUnusable hunusable hexists haside,
    fun hmissing => ?_, fun cause h => ⟨tree_of_load_error h, failsFor_load tree file cause h⟩⟩
  · exact ⟨load_of_object hdocument,
      read_cases (tree.isWritable_of_documentAt file.toText hdocument)⟩
  · unfold load
    rw [hmissing]

/-- A settings file with a list in it. -/
def listed : FileTree :=
  FileTree.empty.plant ["settings.json"] (.file (Codec.encode "[]"))

theorem load_lenient_listed :
    IsUnusable listed (Path.ofText "settings.json")
      ∧ (load listed (Path.ofText "settings.json")).1 = .ok usual
      ∧ ((load listed (Path.ofText "settings.json")).2.1.read "settings.bak").toOption
        = some (Codec.encode "[]") := by
  have hkind : (listed.documentAt (Path.ofText "settings.json").toText).toOption.map Json.kindName
      = some "list" := by decide +kernel
  cases hdocument : listed.documentAt (Path.ofText "settings.json").toText with
  | error cause =>
    rw [hdocument] at hkind
    cases hkind
  | ok document =>
    rw [hdocument] at hkind
    have hunusable : IsUnusable listed (Path.ofText "settings.json") := by
      unfold IsUnusable
      rw [hdocument]
      cases document with
      | object members => exact absurd hkind (by simp [Json.kindName, Except.toOption])
      | _ => trivial
    have hexists := listed.exists?_of_document _ hdocument
    have haside : (Path.ofText "settings.json").withEnding? ".bak"
        = .ok (Path.ofText "settings.bak") := by
      unfold Path.withEnding?
      rw [if_neg (by decide +kernel)]
      exact congrArg Except.ok (by decide +kernel)
    obtain ⟨hsettings, htree⟩ :=
      (load_lenient listed (Path.ofText "settings.json")).2.2.1 hexists hunusable _ haside
    refine ⟨hunusable, hsettings, ?_⟩
    rw [htree]
    decide +kernel

/-- A settings file with an infinite time in it. -/
def endless : FileTree :=
  FileTree.empty.plant ["settings.json"]
    (.file (Codec.encode "\x7b\"text_quiet_interval_ms\": Infinity\x7d"))

/-- There is an object in the file, and no settings are loaded. -/
theorem endless_not_loaded :
    (∃ members, endless.documentAt (Path.ofText "settings.json").toText = .ok (.object members))
      ∧ (load endless (Path.ofText "settings.json")).1 = .error .infinityToWhole := by
  have hkind : (endless.documentAt (Path.ofText "settings.json").toText).toOption.map Json.kindName
      = some "dict" := by decide +kernel
  have hnone : (load endless (Path.ofText "settings.json")).1.toOption = none := by decide +kernel
  cases hdocument : endless.documentAt (Path.ofText "settings.json").toText with
  | error cause =>
    rw [hdocument] at hkind
    cases hkind
  | ok document =>
    rw [hdocument] at hkind
    cases document with
    | object members =>
      have hread := read_cases (endless.isWritable_of_documentAt _ hdocument)
      rw [load_of_object hdocument] at hnone ⊢
      by_cases hinfinite : HasInfinite members
      · exact ⟨⟨members, rfl⟩, hread.2 hinfinite⟩
      · obtain ⟨settings, hsettings⟩ := hread.1 hinfinite
        rw [hsettings] at hnone
        cases hnone
    | _ => exact absurd hkind (by simp [Json.kindName, Except.toOption])

end DesktopMacro.Settings
