/-
Why libraries are not loaded.

A library that is not loaded is refused, with three exceptions: an infinite double stands where a
whole number is read, values or actions stand too deep inside one another, and a document has a
number or a truth value where its sequences are asked for. Each exception is there to be seen in the
document, so whatever else a file holds, it is either loaded or refused.
-/
import DesktopMacro.Proofs.Action.Refusing
import DesktopMacro.Session.Console

set_option autoImplicit false

namespace DesktopMacro

variable {P : Cause → Prop}

/-! ## Variables -/

theorem Variable.failsFor_read (members : Members) :
    Noting.FailsFor Cause.IsRefusal (Variable.read members) := by
  have htext (raw : Json) : Noting.FailsFor Cause.IsRefusal (Noting.lift raw.asText) :=
    Noting.failsFor_lift (Json.failsFor_asText raw)
  have hvalue (kind : Kind) (raw : Json) : Noting.FailsFor Cause.IsRefusal
      (Value.ofJson kind raw) := by
    unfold Value.ofJson
    split
    · exact Noting.failsFor_pure _ _
    · exact Noting.failsFor_pure _ _
    · exact Noting.failsFor_pure _ _
    · refine (htext _).bind fun text => ?_
      exact (Noting.failsFor_tell _ _).bind fun _ => Noting.failsFor_pure _ _
  unfold Variable.read
  refine (htext _).bind fun name => ?_
  dsimp only
  split
  · exact (hvalue _ _).bind fun value => Noting.failsFor_pure _ _
  · refine (htext _).bind fun description => ?_
    exact (hvalue _ _).bind fun value => Noting.failsFor_pure _ _

theorem Store.failsFor_read (raw : Json) : Noting.FailsFor Cause.IsRefusal (Store.read raw) := by
  have hvariable (item : Json) : Noting.FailsFor Cause.IsRefusal (readVariable item) := by
    unfold readVariable
    split
    · split
      · exact Noting.failsFor_pure _ _
      · exact (Variable.failsFor_read _).bind fun v => Noting.failsFor_pure _ _
    · exact Noting.failsFor_pure _ _
  unfold Store.read
  split
  · exact (Noting.FailsFor.mapM hvariable _).bind fun given => Noting.failsFor_pure _ _
  · exact Noting.failsFor_pure _ _

/-! ## Sequences -/

namespace Sequence

theorem failsFor_textOr (fallback : String) (raw : Option Json) :
    Noting.FailsFor Cause.IsRefusal (textOr fallback raw) := by
  unfold textOr
  split
  · exact Noting.failsFor_pure _ _
  · split
    · exact Noting.failsFor_pure _ _
    · exact Noting.failsFor_lift (Json.failsFor_asText _)

theorem failsFor_actions (supply : Action.Supply) (members : Members) :
    FailsFor (Action.LiesIn (.object members) 0)
      (Action.readAll supply [] 0 (objectsOf ((Members.get? members "actions").getD .null))) := by
  cases hraw : Members.get? members "actions" with
  | none =>
    unfold Action.readAll
    exact failsFor_ok _ []
  | some raw =>
    cases raw with
    | list items =>
      obtain ⟨entry, hentry, hlist⟩ := Json.mem_of_get? hraw
      refine (Action.failsFor_readAll supply [] 0 _ fun item => List.mem_of_mem_filter).mono ?_
      intro cause hcause
      -- The places are counted from the sequence on, so that the document, which stands above it,
      -- only adds to the depth.
      refine .member hentry ?_
      rw [hlist]
      exact hcause.deeper (Nat.zero_le _)
    | null | bool | int | float | text | object =>
      unfold Action.readAll
      exact failsFor_ok _ []

/-- **A sequence is not read only for a cause that lies in its document.** -/
theorem failsFor_read (supply : Action.Supply) (place : List Nat) (members : Members) :
    Noting.FailsFor (Action.LiesIn (.object members) 0) (Sequence.read supply place members) := by
  unfold Sequence.read
  refine ((failsFor_textOr _ _).mono fun cause => .inl).bind fun name => ?_
  refine (Noting.failsFor_lift (failsFor_actions _ members)).bind fun actions => ?_
  refine ((failsFor_textOr _ _).mono fun cause => .inl).bind fun description => ?_
  refine ((Store.failsFor_read _).mono fun cause => .inl).bind fun store => ?_
  refine ((failsFor_textOr _ _).mono fun cause => .inl).bind fun id => ?_
  exact Noting.failsFor_pure _ _

end Sequence

/-! ## Libraries -/

namespace Library

theorem failsFor_readFrom (supply : Action.Supply) (library : Library) (index : Nat)
    (items : List Json)
    (h : ∀ item ∈ items, ∀ cause, Action.LiesIn item 0 cause → P cause) :
    Noting.FailsFor P (readFrom supply library index items) := by
  induction items generalizing library index with
  | nil =>
    unfold readFrom
    exact Noting.failsFor_pure P library
  | cons item more ih =>
    obtain ⟨hitem, hmore⟩ := List.forall_mem_cons.1 h
    cases item with
    | object members =>
      unfold readFrom
      refine ((Sequence.failsFor_read supply [index] members).mono hitem).bind fun sequence => ?_
      split
      · exact ih _ _ hmore
      · exact (Noting.failsFor_tell P _).bind fun _ => ih _ _ hmore
    | null | bool | int | float | text | list =>
      unfold readFrom
      exact ih _ _ hmore

/-- A document has a number or a truth value for its sequences, and the cause says that these are
no sequences. -/
def AsksScalar (document : Json) (cause : Cause) : Prop :=
  ∃ members raw, document = .object members ∧ Members.get? members "sequences" = some raw
    ∧ ((∃ b, raw = .bool b) ∨ (∃ n, raw = .int n) ∨ ∃ x, raw = .float x) ∧ raw.isEmpty = false
    ∧ cause = .wrongType s!"'{raw.kindName}' object is not iterable"

theorem failsFor_sequencesOf (document : Json) :
    FailsFor (AsksScalar document) (sequencesOf document) := by
  unfold sequencesOf
  split
  · exact failsFor_ok _ _
  · next members =>
    split
    · exact failsFor_ok _ _
    · exact failsFor_ok _ _
    · exact failsFor_ok _ _
    · exact failsFor_ok _ _
    · next raw hlist htext hobject hraw =>
      split
      · exact failsFor_ok _ _
      · next hempty =>
        refine failsFor_error ⟨members, raw, rfl, hraw, ?_, Bool.eq_false_iff.2 hempty, rfl⟩
        cases raw with
        | null => exact absurd rfl hempty
        | bool b => exact .inl ⟨b, rfl⟩
        | int n => exact .inr (.inl ⟨n, rfl⟩)
        | float x => exact .inr (.inr ⟨x, rfl⟩)
        | list items => exact (hlist items rfl).elim
        | text s => exact (htext s rfl).elim
        | object inner => exact (hobject inner rfl).elim
  · exact failsFor_ok _ _

/-- What lies in one of the sequences of a document lies in the document. -/
theorem liesIn_of_sequencesOf {document : Json} {items : List Json}
    (h : sequencesOf document = .ok items) {item : Json} (hitem : item ∈ items) {cause : Cause}
    (hcause : Action.LiesIn item 0 cause) : Action.LiesIn document 0 cause := by
  unfold sequencesOf at h
  split at h
  · cases h
    exact .item hitem (hcause.deeper (Nat.zero_le _))
  · next members =>
    split at h
    · cases h
      rw [List.mem_singleton.1 hitem] at hcause
      exact hcause
    · next hraw =>
      cases h
      obtain ⟨entry, hentry, hlist⟩ := Json.mem_of_get? hraw
      refine .member hentry ?_
      rw [hlist]
      exact .item hitem (hcause.deeper (Nat.zero_le _))
    · cases h
      cases hitem
    · cases h
      cases hitem
    · split at h
      · cases h
        cases hitem
      · cases h
  · cases h
    cases hitem

/-- **A library is not read only for a cause that lies in its document.** -/
theorem failsFor_read (supply : Action.Supply) (document : Json) :
    Noting.FailsFor (fun cause => Action.LiesIn document 0 cause ∨ AsksScalar document cause)
      (read supply document) := by
  intro before
  cases hitems : sequencesOf document with
  | ok items =>
    have hread : Library.read supply document = readFrom supply empty 0 items := by
      unfold Library.read
      rw [hitems]
      rfl
    rw [hread]
    refine failsFor_readFrom supply empty 0 items (fun item hitem cause hcause => ?_) before
    exact .inl (liesIn_of_sequencesOf hitems hitem hcause)
  | error cause =>
    have hread : Library.read supply document = throw cause := by
      unfold Library.read
      rw [hitems]
      rfl
    rw [hread]
    exact failsFor_error (.inr (failsFor_sequencesOf document cause hitems))

/-! ## Files -/

theorem load_eq (supply : Action.Supply) (tree : FileTree) (path : String) :
    load supply tree path
      = Noting.lift (tree.documentAt (Path.ofText path).toText) >>= read supply := by
  unfold load FileTree.documentAt
  simp only [Noting.lift_bind, bind_assoc]

/-- The programs put up with every refusal: they tell of it and end in order. -/
theorem isLibraryTrouble_of_isRefusal {cause : Cause} (h : cause.IsRefusal) :
    Session.isLibraryTrouble cause = true := by
  cases cause <;> first | rfl | exact h.elim

/-- **What loading a library comes to**, and what reading one from a document does. It is loaded, or
it is refused, or values of the document stand too deep. Where there is a document, there are three
more causes, and each is there to be seen in the document: an infinite double, an action too deep
inside other ones, or a number or truth value for the sequences. -/
theorem load_refuses (supply : Action.Supply) :
    (∀ (tree : FileTree) (path : String),
      (∃ library, (load supply tree path).run.1 = .ok library)
      ∨ ∃ cause, (load supply tree path).run.1 = .error cause
        ∧ (cause.IsRefusal
          ∨ ((∃ holder, cause = .tooDeep (some holder))
            ∧ tree.documentAt (Path.ofText path).toText = .error cause)
          ∨ ∃ document, tree.documentAt (Path.ofText path).toText = .ok document
            ∧ (read supply document).run.1 = .error cause))
    ∧ ∀ document : Json,
      (∃ library, (read supply document).run.1 = .ok library)
      ∨ ∃ cause, (read supply document).run.1 = .error cause
        ∧ (cause.IsRefusal
          ∨ (cause = .infinityToWhole ∧ document.HoldsInfinite)
          ∨ (cause = .tooDeep none ∧ Action.Exceeds 0 document)
          ∨ AsksScalar document cause) := by
  refine ⟨fun tree path => ?_, fun document => ?_⟩
  · rw [load_eq]
    cases hdocument : tree.documentAt (Path.ofText path).toText with
    | ok document =>
      have hrun : (Noting.lift (.ok document) >>= read supply).run = (read supply document).run :=
        rfl
      rw [hrun]
      cases hread : (read supply document).run.1 with
      | ok library => exact .inl ⟨library, rfl⟩
      | error cause => exact .inr ⟨cause, rfl, .inr (.inr ⟨document, rfl, hread⟩)⟩
    | error cause =>
      refine .inr ⟨cause, rfl, ?_⟩
      rcases tree.failsFor_documentAt _ cause hdocument with hrefusal | ⟨holder, hdeep⟩
      · exact .inl hrefusal
      · exact .inr (.inl ⟨⟨holder, hdeep⟩, rfl⟩)
  · cases hread : (read supply document).run.1 with
    | ok library => exact .inl ⟨library, rfl⟩
    | error cause =>
      refine .inr ⟨cause, rfl, ?_⟩
      rcases failsFor_read supply document [] cause hread with
        (hrefusal | hinfinite | hdeep) | hscalar
      · exact .inl hrefusal
      · exact .inr (.inl hinfinite)
      · exact .inr (.inr (.inl hdeep))
      · exact .inr (.inr (.inr hscalar))

/-- A library file whose one action waits for ever. -/
def endless : FileTree :=
  FileTree.empty.plant ["library.json"] (.file (Codec.encode
    "[\x7b\"actions\": [\x7b\"type\": \"wait\", \"wait_time\": Infinity\x7d]\x7d]"))

/-- The library is neither loaded nor refused. -/
theorem endless_not_refused :
    ∃ cause, (load (fun _ => "") endless "library.json").run.1 = .error cause
      ∧ cause.text = "cannot convert float infinity to integer" ∧ ¬cause.IsRefusal := by
  have htold : (((load (fun _ => "") endless "library.json").run.1.map fun _ => ("", true)).tryCatch
      fun cause => .ok (cause.text, Session.isLibraryTrouble cause)).toOption
        = some ("cannot convert float infinity to integer", false) := by decide +kernel
  cases hload : (load (fun _ => "") endless "library.json").run.1 with
  | ok library =>
    rw [hload] at htold
    exact absurd htold (by simp [Except.map, Except.tryCatch, Except.toOption])
  | error cause =>
    rw [hload] at htold
    obtain ⟨htext, htrouble⟩ := Prod.mk.inj (Option.some.inj htold)
    refine ⟨cause, rfl, htext, fun hrefusal => ?_⟩
    rw [isLibraryTrouble_of_isRefusal hrefusal] at htrouble
    cases htrouble

end Library
end DesktopMacro
