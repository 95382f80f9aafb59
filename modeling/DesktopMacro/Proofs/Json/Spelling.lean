/-
What a text spells.

The grammar as a relation between a value and a text, where a text is given by its characters and by
what is left behind it. The reader reads what the relation says, and nothing else: a text that it
reads spells the value, and a text that spells a value is read. So what is to be shown of a text
that can be read is shown by induction on its spelling, without the reader's fuel.

A list and an object are spelt part by part, as they are read: the parts carry the items or members
that stand before.
-/
import DesktopMacro.Proofs.Computation
import DesktopMacro.Proofs.Json.Scalars

set_option autoImplicit false

namespace DesktopMacro.Json

variable {cs mid next rest : List Char}

/-! ## Gaps -/

/-- **Blanks up to the rest of a text.** -/
inductive Gaps : List Char → List Char → Prop where
  | none (cs : List Char) : Gaps cs cs
  | more {c : Char} {cs rest : List Char} (h : isGap c = true) : Gaps cs rest → Gaps (c :: cs) rest

/-- A text that begins with no blank. -/
def Tight (cs : List Char) : Prop := ∀ c ∈ cs.head?, isGap c = false

namespace Gaps

theorem trans (h : Gaps cs mid) (h' : Gaps mid rest) : Gaps cs rest := by
  induction h with
  | none => exact h'
  | more hc _ ih => exact .more hc (ih h')

theorem length_le (h : Gaps cs rest) : rest.length ≤ cs.length := by
  induction h with
  | none => exact Nat.le_refl _
  | more _ _ ih => exact Nat.le_succ_of_le ih

theorem suffix (h : Gaps cs rest) : rest <:+ cs := by
  induction h with
  | none cs => exact List.suffix_refl cs
  | more _ _ ih => exact ih.trans (List.suffix_cons _ _)

theorem skip (cs : List Char) : Gaps cs (skipGaps cs) := by
  induction cs with
  | nil => exact .none []
  | cons c cs ih =>
    unfold skipGaps
    rw [List.dropWhile_cons]
    split
    · next h => exact .more h ih
    · exact .none _

theorem skipGaps_eq (h : Gaps cs rest) (hrest : Tight rest) : skipGaps cs = rest := by
  induction h with
  | none cs =>
    cases cs with
    | nil => rfl
    | cons c cs =>
      have hc := hrest c rfl
      simp [skipGaps, hc]
  | more hc _ ih =>
    rw [← ih hrest]
    simp [skipGaps, hc]

end Gaps

theorem tight_cons {c : Char} (h : isGap c = false) (cs : List Char) : Tight (c :: cs) := by
  intro first hfirst
  cases Option.some.inj hfirst
  exact h

theorem gap_cases {c : Char} (h : isGap c = true) : c = ' ' ∨ c = '\t' ∨ c = '\n' ∨ c = '\r' := by
  simpa [isGap, or_assoc] using h

theorem not_isScalarChar_of_isGap {c : Char} (h : isGap c = true) : isScalarChar c = false := by
  rcases gap_cases h with rfl | rfl | rfl | rfl <;> decide

/-- Scalars stop before a blank and before whatever stands behind blanks and is in none of them. -/
theorem Gaps.stops (h : Gaps cs rest) (hrest : Stops rest) : Stops cs := by
  cases h with
  | none => exact hrest
  | more hc _ => exact stops_cons (not_isScalarChar_of_isGap hc) _

/-! ## Strings -/

/-- **The pieces of a string**, from behind its opening quote. -/
inductive Pieces : List Piece → List Char → List Char → Prop where
  | closed (rest : List Char) : Pieces [] ('"' :: rest) rest
  | unit {a b c d : Char} {n : Nat} {pieces : List Piece} {cs rest : List Char}
    (h : hexNumber? [a, b, c, d] = some n) :
    Pieces pieces cs rest → Pieces (.unit n :: pieces) ('\\' :: 'u' :: a :: b :: c :: d :: cs) rest
  | escape {c x : Char} {pieces : List Piece} {cs rest : List Char} (h : escapedChar? c = some x) :
    Pieces pieces cs rest → Pieces (.char x :: pieces) ('\\' :: c :: cs) rest
  | plain {c : Char} {pieces : List Piece} {cs rest : List Char} (hquote : c ≠ '"')
    (hescape : c ≠ '\\') (hcontrol : 32 ≤ c.toNat) :
    Pieces pieces cs rest → Pieces (.char c :: pieces) (c :: cs) rest

theorem ne_u_of_escapedChar? {c x : Char} (h : escapedChar? c = some x) : c ≠ 'u' := by
  rintro rfl
  cases h

/-- What is read of a string are its pieces. -/
theorem pieces_of_readPieces {whole : List Char} {pieces : List Piece}
    (h : readPieces whole cs = .ok (pieces, rest)) : Pieces pieces cs rest := by
  fun_induction readPieces whole cs generalizing pieces rest with
  | case1 => cases h
  | case2 behind =>
    cases h
    exact .closed behind
  | case3 => cases h
  | case4 a b c d e behind n hnumber ih =>
    obtain ⟨⟨more, _⟩, hmore, heq⟩ := of_bind h
    cases heq
    exact .unit hnumber (ih hmore)
  | case5 => cases h
  | case6 => cases h
  | case7 c behind _ hu x hescape ih =>
    obtain ⟨⟨more, _⟩, hmore, heq⟩ := of_bind h
    cases heq
    exact .escape hescape (ih hmore)
  | case8 => cases h
  | case9 => cases h
  | case10 c behind hquote _ _ _ hescape hcontrol ih =>
    obtain ⟨⟨more, _⟩, hmore, heq⟩ := of_bind h
    cases heq
    exact .plain hquote (by simpa using hescape) (Nat.not_lt.1 hcontrol) (ih hmore)

theorem Pieces.ne_nil {pieces : List Piece} (h : Pieces pieces cs rest) : cs ≠ [] := by
  cases h <;> exact List.cons_ne_nil _ _

/-- The pieces of a string are what is read of it. -/
theorem Pieces.read {pieces : List Piece} (h : Pieces pieces cs rest) (whole : List Char) :
    readPieces whole cs = .ok (pieces, rest) := by
  induction h with
  | closed rest => rfl
  | @unit a b c d n pieces cs rest hnumber hmore ih =>
    -- Behind the digits there is at least the closing quote, which the reader wants to see.
    obtain ⟨e, behind, rfl⟩ := List.exists_cons_of_ne_nil hmore.ne_nil
    simp only [readPieces, hnumber, ih]
    rfl
  | @escape c x pieces cs rest hescape _ ih =>
    rw [readPieces.eq_5 _ _ _ (fun _ _ _ _ _ _ hu _ => ne_u_of_escapedChar? hescape hu)
      (ne_u_of_escapedChar? hescape)]
    simp only [hescape, ih]
    rfl
  | @plain c pieces cs rest hquote hescape hcontrol _ ih =>
    rw [readPieces.eq_6 _ _ _ hquote (fun _ _ _ _ _ _ h _ => hescape h) (fun _ h _ => hescape h)
      (fun _ _ h _ => hescape h)]
    simp only [beq_eq_false_iff_ne.2 hescape, Nat.not_lt.2 hcontrol, ih]
    rfl

/-- **A string with its text**, from behind its opening quote. -/
def Quoted (s : String) (cs rest : List Char) : Prop :=
  ∃ pieces, s = String.ofList (joinPieces pieces) ∧ Pieces pieces cs rest

theorem quoted_of_readString {s : String} (h : readString cs = .ok (s, rest)) :
    Quoted s cs rest := by
  unfold readString at h
  obtain ⟨⟨pieces, _⟩, hpieces, heq⟩ := of_bind h
  cases heq
  exact ⟨pieces, rfl, pieces_of_readPieces hpieces⟩

theorem Quoted.read {s : String} (h : Quoted s cs rest) : readString cs = .ok (s, rest) := by
  obtain ⟨pieces, rfl, hpieces⟩ := h
  unfold readString
  rw [hpieces.read]
  rfl

theorem Pieces.length_lt {pieces : List Piece} (h : Pieces pieces cs rest) :
    rest.length < cs.length := by
  induction h with
  | closed rest => exact Nat.lt_succ_self _
  | unit _ _ ih | escape _ _ ih | plain _ _ _ _ ih =>
    simp only [List.length_cons]
    omega

theorem Pieces.suffix {pieces : List Piece} (h : Pieces pieces cs rest) : rest <:+ cs := by
  induction h with
  | closed rest => exact List.suffix_cons _ _
  | @unit a b c d n pieces cs rest _ _ ih =>
    exact ih.trans (List.suffix_append ['\\', 'u', a, b, c, d] cs)
  | @escape c x pieces cs rest _ _ ih => exact ih.trans (List.suffix_append ['\\', c] cs)
  | plain _ _ _ _ ih => exact ih.trans (List.suffix_cons _ _)

theorem Quoted.suffix {s : String} (h : Quoted s cs rest) : rest <:+ cs := by
  obtain ⟨pieces, -, hpieces⟩ := h
  exact hpieces.suffix

theorem Quoted.length_lt {s : String} (h : Quoted s cs rest) : rest.length < cs.length := by
  obtain ⟨pieces, -, hpieces⟩ := h
  exact hpieces.length_lt

/-! ## Values -/

/-- What is spelt in one go: a value, the items of a list from an item on, or the members of an
object from a member on. -/
inductive Part where
  | value (depth : Nat)
  | items (depth : Nat) (done : List Json)
  | members (depth : Nat) (done : Members)

/-- **A text that spells a value**, from a part on. -/
inductive Spells (limits : Limits) : Part → Json → List Char → List Char → Prop where
  | scalar {depth : Nat} {value : Json} {run rest : List Char}
    (hrun : ∀ c ∈ run, isScalarChar c = true) (hread : readScalar limits run = .ok (value, []))
    (hrest : Stops rest) : Spells limits (.value depth) value (run ++ rest) rest
  | text {depth : Nat} {s : String} {cs rest : List Char} (hquoted : Quoted s cs rest) :
    Spells limits (.value depth) (.text s) ('"' :: cs) rest
  | emptyObject {depth : Nat} {cs rest : List Char} (hallow : limits.allow depth .object = .ok ())
    (hgaps : Gaps cs ('}' :: rest)) : Spells limits (.value depth) (.object []) ('{' :: cs) rest
  | object {depth : Nat} {value : Json} {cs start rest : List Char}
    (hallow : limits.allow depth .object = .ok ()) (hgaps : Gaps cs start)
    (hmembers : Spells limits (.members (depth + 1) []) value start rest) :
    Spells limits (.value depth) value ('{' :: cs) rest
  | emptyList {depth : Nat} {cs rest : List Char} (hallow : limits.allow depth .list = .ok ())
    (hgaps : Gaps cs (']' :: rest)) : Spells limits (.value depth) (.list []) ('[' :: cs) rest
  | list {depth : Nat} {value : Json} {cs start rest : List Char}
    (hallow : limits.allow depth .list = .ok ()) (hgaps : Gaps cs start)
    (hitems : Spells limits (.items (depth + 1) []) value start rest) :
    Spells limits (.value depth) value ('[' :: cs) rest
  | lastItem {depth : Nat} {done : List Json} {item : Json} {cs mid rest : List Char}
    (hitem : Spells limits (.value depth) item cs mid) (hgaps : Gaps mid (']' :: rest)) :
    Spells limits (.items depth done) (.list (item :: done).reverse) cs rest
  | item {depth : Nat} {done : List Json} {item value : Json} {cs mid gap next rest : List Char}
    (hitem : Spells limits (.value depth) item cs mid) (hgaps : Gaps mid (',' :: gap))
    (hgap : Gaps gap next) (hmore : Spells limits (.items depth (item :: done)) value next rest) :
    Spells limits (.items depth done) value cs rest
  | lastMember {depth : Nat} {done : Members} {name : String} {value : Json}
    {cs behind gap start mid rest : List Char} (hname : Quoted name cs behind)
    (hcolon : Gaps behind (':' :: gap)) (hgap : Gaps gap start)
    (hvalue : Spells limits (.value depth) value start mid) (hgaps : Gaps mid ('}' :: rest)) :
    Spells limits (.members depth done) (.object (done.put name value)) ('"' :: cs) rest
  | member {depth : Nat} {done : Members} {name : String} {value object : Json}
    {cs behind gap start mid gap' next rest : List Char} (hname : Quoted name cs behind)
    (hcolon : Gaps behind (':' :: gap)) (hgap : Gaps gap start)
    (hvalue : Spells limits (.value depth) value start mid) (hgaps : Gaps mid (',' :: gap'))
    (hgap' : Gaps gap' next)
    (hmore : Spells limits (.members depth (done.put name value)) object next rest) :
    Spells limits (.members depth done) object ('"' :: cs) rest

variable {limits : Limits}

/-! ### What is read is spelt -/

/-- What the reader of a part reads. -/
def readPart (limits : Limits) (fuel : Nat) : Part → List Char → Except Fault (Json × List Char)
  | .value depth => readValue limits fuel depth
  | .items depth done => readItems limits fuel depth done
  | .members depth done => readMembers limits fuel depth done

/-- With so much fuel, what the readers of parts read is spelt. Behind a scalar the text has to
stop, which whoever reads on makes sure of. -/
def ReadsSpelt (limits : Limits) (fuel : Nat) : Prop :=
  ∀ part value cs rest, readPart limits fuel part cs = .ok (value, rest) →
    (∀ depth, part = .value depth → Stops rest) → Spells limits part value cs rest

namespace ReadsSpelt

variable {fuel depth : Nat} {value : Json}

theorem zero (limits : Limits) : ReadsSpelt limits 0 := by
  intro part value cs rest h _
  cases part <;> cases h

theorem of_value (hfuel : ReadsSpelt limits fuel)
    (h : readValue limits fuel depth cs = .ok (value, rest)) (hrest : Stops rest) :
    Spells limits (.value depth) value cs rest :=
  hfuel (.value depth) value cs rest h fun _ _ => hrest

theorem of_items {done : List Json} (hfuel : ReadsSpelt limits fuel)
    (h : readItems limits fuel depth done cs = .ok (value, rest)) :
    Spells limits (.items depth done) value cs rest :=
  hfuel (.items depth done) value cs rest h nofun

theorem of_members {done : Members} (hfuel : ReadsSpelt limits fuel)
    (h : readMembers limits fuel depth done cs = .ok (value, rest)) :
    Spells limits (.members depth done) value cs rest :=
  hfuel (.members depth done) value cs rest h nofun

/-- A value is of the kind that its first character tells. -/
theorem value_succ (hfuel : ReadsSpelt limits fuel)
    (h : readValue limits (fuel + 1) depth cs = .ok (value, rest)) (hrest : Stops rest) :
    Spells limits (.value depth) value cs rest := by
  unfold readValue at h
  split at h
  · next hnone => cases hnone
  · obtain ⟨⟨s, behind⟩, hquoted, hs⟩ := of_bind h
    cases hs
    exact .text (quoted_of_readString hquoted)
  · next fuel' cs heq =>
    cases heq
    obtain ⟨_, hallow, hobject⟩ := of_bind h
    have hgaps := Gaps.skip cs
    split at hobject
    · next hclosed =>
      cases hobject
      rw [hclosed] at hgaps
      exact .emptyObject hallow hgaps
    · exact .object hallow hgaps (hfuel.of_members hobject)
  · next fuel' cs heq =>
    cases heq
    obtain ⟨_, hallow, hlist⟩ := of_bind h
    have hgaps := Gaps.skip cs
    split at hlist
    · next hclosed =>
      cases hlist
      rw [hclosed] at hgaps
      exact .emptyList hallow hgaps
    · exact .list hallow hgaps (hfuel.of_items hlist)
  · obtain ⟨run, hrun, rfl, hread⟩ := readScalar_run h hrest
    exact .scalar hrun hread hrest

/-- An item is followed by the end of its list or by another item. -/
theorem items_succ {done : List Json} (hfuel : ReadsSpelt limits fuel)
    (h : readItems limits (fuel + 1) depth done cs = .ok (value, rest)) :
    Spells limits (.items depth done) value cs rest := by
  unfold readItems at h
  obtain ⟨⟨item, mid⟩, hitem, hend⟩ := of_bind h
  have hgaps := Gaps.skip mid
  dsimp only at hend
  split at hend
  · next hclosed =>
    cases hend
    rw [hclosed] at hgaps
    have hstops : Stops mid := hgaps.stops (stops_cons (by decide) _)
    exact .lastItem (hfuel.of_value hitem hstops) hgaps
  · next gap hcomma =>
    rw [hcomma] at hgaps
    have hstops : Stops mid := hgaps.stops (stops_cons (by decide) _)
    exact .item (hfuel.of_value hitem hstops) hgaps (Gaps.skip gap) (hfuel.of_items hend)
  · cases hend

/-- A member is followed by the end of its object or by another member. -/
theorem members_succ {done : Members} (hfuel : ReadsSpelt limits fuel)
    (h : readMembers limits (fuel + 1) depth done cs = .ok (value, rest)) :
    Spells limits (.members depth done) value cs rest := by
  unfold readMembers at h
  split at h
  case h_2 => cases h
  next cs =>
  obtain ⟨⟨name, behind⟩, hname, hbehind⟩ := of_bind h
  have hcolon := Gaps.skip behind
  dsimp only at hbehind
  split at hbehind
  case h_2 => cases hbehind
  next gap heq =>
  rw [heq] at hcolon
  obtain ⟨⟨value, mid⟩, hread, hend⟩ := of_bind hbehind
  have hgaps := Gaps.skip mid
  dsimp only at hend
  split at hend
  · next hclosed =>
    cases hend
    rw [hclosed] at hgaps
    have hstops : Stops mid := hgaps.stops (stops_cons (by decide) _)
    exact .lastMember (quoted_of_readString hname) hcolon (Gaps.skip gap)
      (hfuel.of_value hread hstops) hgaps
  · next gap' hcomma =>
    rw [hcomma] at hgaps
    have hstops : Stops mid := hgaps.stops (stops_cons (by decide) _)
    exact .member (quoted_of_readString hname) hcolon (Gaps.skip gap)
      (hfuel.of_value hread hstops) hgaps (Gaps.skip gap') (hfuel.of_members hend)
  · cases hend

theorem succ (hfuel : ReadsSpelt limits fuel) : ReadsSpelt limits (fuel + 1) := by
  intro part value cs rest h hrest
  cases part with
  | value depth => exact hfuel.value_succ h (hrest depth rfl)
  | items depth done => exact hfuel.items_succ h
  | members depth done => exact hfuel.members_succ h

end ReadsSpelt

/-- **What is read is spelt**, with whatever fuel it is read. -/
theorem readsSpelt (limits : Limits) (fuel : Nat) : ReadsSpelt limits fuel := by
  induction fuel with
  | zero => exact .zero limits
  | succ fuel ih => exact ih.succ

/-! ### What is spelt is read -/

/-- The characters that values begin with. -/
def beginsValue (c : Char) : Bool := c == '"' || c == '{' || c == '[' || isScalarChar c

theorem not_isGap_of_beginsValue {c : Char} (h : beginsValue c = true) : isGap c = false := by
  cases hgap : isGap c with
  | false => rfl
  | true => rcases gap_cases hgap with rfl | rfl | rfl | rfl <;> cases h

/-- A part begins as its first value does, and members with a quote. -/
theorem Spells.head {part : Part} {value : Json} (h : Spells limits part value cs rest) :
    ∃ c behind, cs = c :: behind ∧ beginsValue c = true := by
  induction h with
  | scalar hrun hread =>
    obtain ⟨c, run, rfl⟩ := List.exists_cons_of_ne_nil (ne_nil_of_readScalar hread)
    have hc := hrun c List.mem_cons_self
    exact ⟨c, _, rfl, by unfold beginsValue; rw [hc, Bool.or_true]⟩
  | lastItem _ _ ih => exact ih
  | item _ _ _ _ ih => exact ih
  | text | emptyObject | object | emptyList | list | lastMember | member =>
    exact ⟨_, _, rfl, rfl⟩

theorem Spells.tight {part : Part} {value : Json} (h : Spells limits part value cs rest) :
    Tight cs := by
  obtain ⟨c, behind, rfl, hc⟩ := h.head
  exact tight_cons (not_isGap_of_beginsValue hc) behind

theorem Spells.length_lt {part : Part} {value : Json} (h : Spells limits part value cs rest) :
    rest.length < cs.length := by
  induction h with
  | scalar _ hread =>
    have hne := List.length_pos_iff.2 (ne_nil_of_readScalar hread)
    rw [List.length_append]
    omega
  | text hquoted => exact Nat.lt_succ_of_lt hquoted.length_lt
  | emptyObject _ hgaps | emptyList _ hgaps =>
    have hle := hgaps.length_le
    simp only [List.length_cons] at hle ⊢
    omega
  | object _ hgaps _ ih | list _ hgaps _ ih =>
    have hle := hgaps.length_le
    simp only [List.length_cons]
    omega
  | lastItem _ hgaps ih =>
    have hle := hgaps.length_le
    simp only [List.length_cons] at hle
    omega
  | item _ hgaps hgap _ ih ih' =>
    have hle := hgaps.length_le
    have hle' := hgap.length_le
    simp only [List.length_cons] at hle
    omega
  | lastMember hname hcolon hgap _ hgaps ih =>
    have hname := hname.length_lt
    have hcolon := hcolon.length_le
    have hgap := hgap.length_le
    have hgaps := hgaps.length_le
    simp only [List.length_cons] at hcolon hgaps ⊢
    omega
  | member hname hcolon hgap _ hgaps hgap' _ ih ih' =>
    have hname := hname.length_lt
    have hcolon := hcolon.length_le
    have hgap := hgap.length_le
    have hgaps := hgaps.length_le
    have hgap' := hgap'.length_le
    simp only [List.length_cons] at hcolon hgaps ⊢
    omega

/-- What a part leaves is the end of the text. -/
theorem Spells.suffix {part : Part} {value : Json} (h : Spells limits part value cs rest) :
    rest <:+ cs := by
  induction h with
  | scalar => exact List.suffix_append _ _
  | text hquoted => exact hquoted.suffix.trans (List.suffix_cons _ _)
  | emptyObject _ hgaps | emptyList _ hgaps =>
    exact ((List.suffix_cons _ _).trans hgaps.suffix).trans (List.suffix_cons _ _)
  | object _ hgaps _ ih | list _ hgaps _ ih =>
    exact (ih.trans hgaps.suffix).trans (List.suffix_cons _ _)
  | lastItem _ hgaps ih => exact ((List.suffix_cons _ _).trans hgaps.suffix).trans ih
  | item _ hgaps hgap _ ih ih' =>
    exact (((ih'.trans hgap.suffix).trans (List.suffix_cons _ _)).trans hgaps.suffix).trans ih
  | lastMember hname hcolon hgap _ hgaps ih =>
    have hvalue := ((List.suffix_cons _ _).trans hgaps.suffix).trans ih
    have hbehind := ((hvalue.trans hgap.suffix).trans (List.suffix_cons _ _)).trans hcolon.suffix
    exact (hbehind.trans hname.suffix).trans (List.suffix_cons _ _)
  | member hname hcolon hgap _ hgaps hgap' _ ih ih' =>
    have hmore := ((ih'.trans hgap'.suffix).trans (List.suffix_cons _ _)).trans hgaps.suffix
    have hvalue := hmore.trans ih
    have hbehind := ((hvalue.trans hgap.suffix).trans (List.suffix_cons _ _)).trans hcolon.suffix
    exact (hbehind.trans hname.suffix).trans (List.suffix_cons _ _)

/-- The fuel that a part takes: two steps in a row read a character. -/
def Part.fuel : Part → List Char → Nat
  | .value _, cs => 2 * cs.length + 1
  | .items _ _, cs | .members _ _, cs => 2 * cs.length + 2

theorem Part.exists_succ {part : Part} {fuel : Nat} (h : part.fuel cs ≤ fuel) :
    ∃ less, fuel = less + 1 := by
  refine Nat.exists_eq_succ_of_ne_zero fun hzero => ?_
  subst hzero
  cases part <;> simp [Part.fuel] at h

/-- Behind the opening bracket of what is not empty the reader goes on with the first part. -/
theorem Spells.skipGaps_eq {part : Part} {value : Json} (h : Spells limits part value next rest)
    (hgaps : Gaps cs next) :
    skipGaps cs = next ∧
      ∀ closing behind, beginsValue closing = false → next ≠ closing :: behind := by
  refine ⟨hgaps.skipGaps_eq h.tight, fun closing behind hclosing heq => ?_⟩
  obtain ⟨c, other, hc, hbegins⟩ := h.head
  cases heq.symm.trans hc
  rw [hclosing] at hbegins
  cases hbegins

/-- A value that begins like a scalar is one. -/
theorem readValue_scalar {fuel depth : Nat} {value : Json} {run : List Char}
    (hrun : ∀ c ∈ run, isScalarChar c = true) (hread : readScalar limits run = .ok (value, []))
    (hrest : Stops rest) : readValue limits (fuel + 1) depth (run ++ rest) = .ok (value, rest) := by
  obtain ⟨c, run, rfl⟩ := List.exists_cons_of_ne_nil (ne_nil_of_readScalar hread)
  have hc := hrun c List.mem_cons_self
  have hother : ∀ d cs, isScalarChar d = false → c :: run ++ rest ≠ d :: cs := by
    intro d cs hd heq
    cases heq
    rw [hd] at hc
    cases hc
  rw [readValue]
  · exact readScalar_of_run hread hrest
  · exact fun cs => hother '"' cs (by decide)
  · exact fun cs => hother '{' cs (by decide)
  · exact fun cs => hother '[' cs (by decide)

/-- A list goes on behind an item as the next character says. -/
theorem readItems_succ {fuel depth : Nat} {done : List Json} {item : Json}
    (hitem : readValue limits fuel depth cs = .ok (item, mid)) :
    readItems limits (fuel + 1) depth done cs =
      match skipGaps mid with
      | ']' :: rest => .ok (.list (item :: done).reverse, rest)
      | ',' :: rest => readItems limits fuel depth (item :: done) (skipGaps rest)
      | rest => .error (.complaint .expectingComma rest) := by
  simp only [readItems, hitem]
  rfl

/-- An object goes on behind a member as the next character says. -/
theorem readMembers_succ {fuel depth : Nat} {done : Members} {name : String} {value : Json}
    {behind gap start : List Char} (hname : Quoted name cs behind)
    (hcolon : Gaps behind (':' :: gap)) (hstart : skipGaps gap = start)
    (hvalue : readValue limits fuel depth start = .ok (value, mid)) :
    readMembers limits (fuel + 1) depth done ('"' :: cs) =
      match skipGaps mid with
      | '}' :: rest => .ok (.object (done.put name value), rest)
      | ',' :: rest => readMembers limits fuel depth (done.put name value) (skipGaps rest)
      | rest => .error (.complaint .expectingComma rest) := by
  subst hstart
  have hskip := hcolon.skipGaps_eq (tight_cons (by decide) _)
  simp only [readMembers, hname.read, bind, Except.bind, hskip, hvalue]
  rfl

/-- **What is spelt is read**, with fuel for it. -/
theorem Spells.read {part : Part} {value : Json} (h : Spells limits part value cs rest)
    {fuel : Nat} (hfuel : part.fuel cs ≤ fuel) :
    readPart limits fuel part cs = .ok (value, rest) := by
  induction h generalizing fuel with
  | @scalar depth value run rest hrun hread hrest =>
    obtain ⟨fuel, rfl⟩ := Part.exists_succ hfuel
    exact readValue_scalar hrun hread hrest
  | text hquoted =>
    obtain ⟨fuel, rfl⟩ := Part.exists_succ hfuel
    simp only [readPart, readValue, hquoted.read]
    rfl
  | emptyObject hallow hgaps =>
    obtain ⟨fuel, rfl⟩ := Part.exists_succ hfuel
    have hskip := hgaps.skipGaps_eq (tight_cons (by decide) _)
    simp only [readPart, readValue, hallow, hskip]
    rfl
  | @object depth value cs start rest hallow hgaps hmembers ih =>
    obtain ⟨fuel, rfl⟩ := Part.exists_succ hfuel
    obtain ⟨hskip, hopen⟩ := hmembers.skipGaps_eq hgaps
    have hmember : ∀ behind, start ≠ '}' :: behind := fun behind => hopen '}' behind (by decide)
    have hle := hgaps.length_le
    have hmore : readMembers limits fuel (depth + 1) [] start = .ok (value, rest) :=
      ih (by simp only [Part.fuel, List.length_cons] at hfuel ⊢; omega)
    simp only [readPart, readValue, hallow, hskip]
    exact hmore
  | emptyList hallow hgaps =>
    obtain ⟨fuel, rfl⟩ := Part.exists_succ hfuel
    have hskip := hgaps.skipGaps_eq (tight_cons (by decide) _)
    simp only [readPart, readValue, hallow, hskip]
    rfl
  | @list depth value cs start rest hallow hgaps hitems ih =>
    obtain ⟨fuel, rfl⟩ := Part.exists_succ hfuel
    obtain ⟨hskip, hopen⟩ := hitems.skipGaps_eq hgaps
    have hitem : ∀ behind, start ≠ ']' :: behind := fun behind => hopen ']' behind (by decide)
    have hle := hgaps.length_le
    have hmore : readItems limits fuel (depth + 1) [] start = .ok (value, rest) :=
      ih (by simp only [Part.fuel, List.length_cons] at hfuel ⊢; omega)
    simp only [readPart, readValue, hallow, hskip]
    exact hmore
  | @lastItem depth done item cs mid rest hitem hgaps ih =>
    obtain ⟨fuel, rfl⟩ := Part.exists_succ hfuel
    have hskip := hgaps.skipGaps_eq (tight_cons (by decide) _)
    have hvalue : readValue limits fuel depth cs = .ok (item, mid) :=
      ih (by simp only [Part.fuel] at hfuel ⊢; omega)
    dsimp only [readPart]
    rw [readItems_succ hvalue, hskip]
    rfl
  | @item depth done item value cs mid gap next rest hitem hgaps hgap hmore ih ih' =>
    obtain ⟨fuel, rfl⟩ := Part.exists_succ hfuel
    have hskip := hgaps.skipGaps_eq (tight_cons (by decide) _)
    have hlt := hitem.length_lt
    have hle := hgaps.length_le
    have hle' := hgap.length_le
    have hvalue : readValue limits fuel depth cs = .ok (item, mid) :=
      ih (by simp only [Part.fuel] at hfuel ⊢; omega)
    have hitems : readItems limits fuel depth (item :: done) next = .ok (value, rest) :=
      ih' (by simp only [Part.fuel, List.length_cons] at hfuel hle ⊢; omega)
    rw [← hgap.skipGaps_eq hmore.tight] at hitems
    dsimp only [readPart]
    rw [readItems_succ hvalue, hskip]
    exact hitems
  | @lastMember depth done name value cs behind gap start mid rest hname hcolon hgap hvalue hgaps
      ih =>
    obtain ⟨fuel, rfl⟩ := Part.exists_succ hfuel
    have hskip := hgaps.skipGaps_eq (tight_cons (by decide) _)
    have hname' := hname.length_lt
    have hcolon' := hcolon.length_le
    have hgap' := hgap.length_le
    have hread : readValue limits fuel depth start = .ok (value, mid) :=
      ih (by simp only [Part.fuel, List.length_cons] at hfuel hcolon' ⊢; omega)
    dsimp only [readPart]
    rw [readMembers_succ hname hcolon (hgap.skipGaps_eq hvalue.tight) hread, hskip]
    rfl
  | @member depth done name value object cs behind gap start mid gap' next rest hname hcolon hgap
      hvalue hgaps hgap' hmore ih ih' =>
    obtain ⟨fuel, rfl⟩ := Part.exists_succ hfuel
    have hskip := hgaps.skipGaps_eq (tight_cons (by decide) _)
    have hname' := hname.length_lt
    have hcolon' := hcolon.length_le
    have hgap'' := hgap.length_le
    have hvalue' := hvalue.length_lt
    have hgaps' := hgaps.length_le
    have hnext := hgap'.length_le
    have hread : readValue limits fuel depth start = .ok (value, mid) :=
      ih (by simp only [Part.fuel, List.length_cons] at hfuel hcolon' ⊢; omega)
    have hmembers : readMembers limits fuel depth (done.put name value) next = .ok (object, rest) :=
      ih' (by simp only [Part.fuel, List.length_cons] at hfuel hcolon' hgaps' ⊢; omega)
    rw [← hgap'.skipGaps_eq hmore.tight] at hmembers
    dsimp only [readPart]
    rw [readMembers_succ hname hcolon (hgap.skipGaps_eq hvalue.tight) hread, hskip]
    exact hmembers

/-! ### Documents -/

/-- A document that can be read spells a value between blanks. -/
theorem spells_of_read {document : String} {value : Json} (h : read document = .ok value) :
    ∃ start rest, Gaps document.toList start ∧
      Spells .usual (.value 0) value start rest ∧ Gaps rest [] := by
  have hchars : readChars .usual document.toList = .ok value := by
    unfold read readWithin at h
    cases hr : readChars .usual document.toList with
    | ok value' =>
      simp only [hr] at h
      cases h
      rfl
    | error fault =>
      simp only [hr] at h
      cases fault <;> cases h
  unfold readChars at hchars
  split at hchars
  · cases hchars
  · obtain ⟨⟨value', rest⟩, hvalue, hend⟩ := of_bind hchars
    have hgaps := Gaps.skip rest
    dsimp only at hend
    split at hend
    · next heq =>
      cases hend
      rw [heq] at hgaps
      have hstops : Stops rest := hgaps.stops stops_nil
      exact ⟨_, rest, Gaps.skip _, (readsSpelt .usual _).of_value hvalue hstops, hgaps⟩
    · cases hend

theorem read_of_readChars {document : String} {value : Json}
    (h : readChars .usual document.toList = .ok value) : read document = .ok value := by
  unfold read readWithin
  simp only [h]

/-- A text that spells a value between blanks is a document that can be read. -/
theorem Spells.read_padded {value : Json} {cs start rest : List Char}
    (h : Spells .usual (.value 0) value start rest) (hgaps : Gaps cs start) (hrest : Gaps rest []) :
    Json.read (String.ofList cs) = .ok value := by
  have hfuel : (Part.value 0).fuel start ≤ 2 * cs.length + 2 := by
    have hle := hgaps.length_le
    simp only [Part.fuel]
    omega
  have hvalue : readValue .usual (2 * cs.length + 2) 0 start = .ok (value, rest) := h.read hfuel
  have hskip : skipGaps cs = start := hgaps.skipGaps_eq h.tight
  have hmark : ¬ (cs.head? == some '\ufeff') = true := by
    intro heq
    cases hgaps with
    | none =>
      obtain ⟨c, behind, rfl, hc⟩ := h.head
      cases Option.some.inj (eq_of_beq heq)
      cases hc
    | more hc =>
      cases Option.some.inj (eq_of_beq heq)
      cases hc
  have hchars : readChars .usual cs = .ok value := by
    unfold readChars
    have hend : skipGaps rest = [] := hrest.skipGaps_eq fun c hc => by cases hc
    rw [if_neg hmark, hskip, hvalue]
    simp only [bind, Except.bind, hend]
    rfl
  exact read_of_readChars (by rw [String.toList_ofList, hchars])

theorem Spells.read_document {value : Json} {cs rest : List Char}
    (h : Spells .usual (.value 0) value cs rest) (hrest : Gaps rest []) :
    Json.read (String.ofList cs) = .ok value := h.read_padded (.none cs) hrest

end DesktopMacro.Json
