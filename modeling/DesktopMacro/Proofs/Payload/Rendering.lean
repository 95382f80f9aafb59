/-
What is written is found.

A document that is written, in whatever layout, is an object with nothing around it, so the
extraction finds it as it is. The search for the closing brace looks back one character only, and
takes a quote behind an escaped backslash for an escaped one: so no text in the document, and no
name, may end in a backslash. Backslashes elsewhere, quotes, brackets and control characters do no
harm.
-/
import DesktopMacro.Proofs.Json.Writing
import DesktopMacro.Proofs.Payload.Acceptance

set_option autoImplicit false

namespace DesktopMacro

/-! ## Texts that end clearly -/

/-- A text that does not end in a backslash. -/
def EndsClearly (s : String) : Prop := s.toList.getLast? ≠ some '\\'

instance (s : String) : Decidable (EndsClearly s) := inferInstanceAs (Decidable (_ ≠ _))

namespace Json

mutual

/-- **A clear value**: no text in it, and no name of a member, ends in a backslash. -/
def IsClear : Json → Prop
  | null | bool _ | int _ | float _ => True
  | text s => EndsClearly s
  | list items => AreClear items
  | object members => MembersClear members

def AreClear : List Json → Prop
  | [] => True
  | item :: items => IsClear item ∧ AreClear items

def MembersClear : List (String × Json) → Prop
  | [] => True
  | (name, value) :: members => EndsClearly name ∧ IsClear value ∧ MembersClear members

end

end Json

namespace Payload

variable {layout : Json.Layout} {asciiOnly : Bool} {rest : List Char}

/-! ## Strings -/

/-- No escape of a character by its number ends a literal. -/
theorem endsInBackslash_unitEscape (n : Nat) (cs : List Char) :
    endsInBackslash .inside (Json.unitEscape n ++ cs) = endsInBackslash .inside cs := by
  have hplain : ∀ digits : List Char, (∀ c ∈ digits, c ≠ '"' ∧ c ≠ '\\' ∧ 32 ≤ c.toNat) →
      endsInBackslash .inside (digits ++ cs) = endsInBackslash .inside cs := by
    intro digits hdigits
    induction digits with
    | nil => rfl
    | cons c digits ih =>
      obtain ⟨hquote, hescape, -⟩ := hdigits c List.mem_cons_self
      rw [List.cons_append, endsInBackslash_plain hquote hescape]
      exact ih fun d hd => hdigits d (List.mem_cons_of_mem c hd)
  have hdigits := hplain _ (plain_of_hexNumber? (Json.hexNumber?_hexDigits 4 n))
  show ('u' == '\\' && _ || endsInBackslash .inside (Text.hexDigits 4 n ++ cs)) = _
  rw [hdigits]
  rfl

theorem endsInBackslash_numberEscape (c : Char) (cs : List Char) :
    endsInBackslash .inside (Json.numberEscape c ++ cs) = endsInBackslash .inside cs := by
  unfold Json.numberEscape
  dsimp only
  split
  · exact endsInBackslash_unitEscape _ cs
  · rw [List.append_assoc, endsInBackslash_unitEscape, endsInBackslash_unitEscape]

/-- A character of a string never begins with a quote. -/
theorem head?_stringChar (asciiOnly : Bool) (c : Char) (cs : List Char) :
    (Json.stringChar asciiOnly c ++ cs).head? ≠ some '"' := by
  rcases Json.stringChar_cases asciiOnly c with ⟨d, -, -, hwritten⟩ | ⟨-, hwritten⟩
    | ⟨hquote, -, -, hwritten⟩ <;> rw [hwritten]
  · exact fun heq => absurd (Option.some.inj heq) (by decide)
  · unfold Json.numberEscape
    dsimp only
    split <;> exact fun heq => absurd (Option.some.inj heq) (by decide)
  · exact fun heq => hquote (Option.some.inj heq)

/-- **A written string ends in an escaped backslash only if its text ends in a backslash.** The
induction is on the text; a backslash that is not the last character has another one behind it. -/
theorem endsInBackslash_stringChars {s : String} (hs : EndsClearly s) :
    endsInBackslash .outside (Json.stringChars asciiOnly s ++ rest)
      = endsInBackslash .outside rest := by
  have hchars : ∀ text : List Char, text.getLast? ≠ some '\\' →
      endsInBackslash .inside (text.flatMap (Json.stringChar asciiOnly) ++ '"' :: rest)
        = endsInBackslash .outside rest := by
    intro text
    induction text with
    | nil => exact fun _ => rfl
    | cons c text ih =>
      intro hlast
      have hmore : text.getLast? ≠ some '\\' := by
        cases text with
        | nil => exact nofun
        | cons d text => rwa [List.getLast?_cons_cons] at hlast
      rw [List.flatMap_cons, List.append_assoc, ← ih hmore]
      rcases Json.stringChar_cases asciiOnly c with ⟨d, hd, -, hwritten⟩ | ⟨-, hwritten⟩
        | ⟨hquote, hescape, -, hwritten⟩ <;> rw [hwritten]
      · have hnext : (d == '\\'
            && (text.flatMap (Json.stringChar asciiOnly) ++ '"' :: rest).head? == some '"')
              = false := by
          cases text with
          | nil =>
            have hne : d ≠ '\\' := by
              rintro rfl
              cases hd
              exact hlast rfl
            rw [beq_eq_false_iff_ne.2 hne, Bool.false_and]
          | cons e text =>
            rw [List.flatMap_cons, List.append_assoc,
              beq_eq_false_iff_ne.2 (head?_stringChar asciiOnly e _), Bool.and_false]
        simp only [List.cons_append, List.nil_append, endsInBackslash, hnext, Bool.false_or]
      · exact endsInBackslash_numberEscape c _
      · exact endsInBackslash_plain hquote hescape _
  have hopen := hchars s.toList hs
  rw [← hopen]
  simp only [Json.stringChars, List.cons_append, List.append_assoc, List.nil_append,
    endsInBackslash]
  rfl

/-! ## Values -/

theorem endsInBackslash_unquoted {run : List Char} (h : run.all (· != '"') = true) :
    endsInBackslash .outside (run ++ rest) = endsInBackslash .outside rest :=
  endsInBackslash_append fun c hc => bne_iff_ne.1 (List.all_eq_true.1 h c hc)

theorem endsInBackslash_cons {c : Char} (hquote : c ≠ '"') (cs : List Char) :
    endsInBackslash .outside (c :: cs) = endsInBackslash .outside cs :=
  endsInBackslash_append (List.forall_mem_singleton.2 hquote)

theorem endsInBackslash_breakLine (layout : Json.Layout) (depth : Nat) (cs : List Char) :
    endsInBackslash .outside (layout.breakLine depth ++ cs) = endsInBackslash .outside cs := by
  refine endsInBackslash_append fun c hc => ?_
  unfold Json.Layout.breakLine at hc
  split at hc
  · cases hc
  · rcases List.mem_cons.1 hc with rfl | hblank
    · decide
    · rw [List.eq_of_mem_replicate hblank]
      decide

theorem endsInBackslash_between (layout : Json.Layout) (depth : Nat) (cs : List Char) :
    endsInBackslash .outside (layout.between depth ++ cs) = endsInBackslash .outside cs := by
  unfold Json.Layout.between
  split
  · exact endsInBackslash_unquoted (by decide)
  · rw [List.cons_append, endsInBackslash_cons (by decide), endsInBackslash_breakLine]

theorem endsInBackslash_toText (n : Int) (cs : List Char) :
    endsInBackslash .outside ((Integer.toText n).toList ++ cs) = endsInBackslash .outside cs := by
  refine endsInBackslash_append fun c hc => ?_
  rintro rfl
  exact absurd (Json.isScalarChar_of_mem_toText hc) (by decide)

mutual

/-- **No string of a clear value ends in an escaped backslash**, however the value is written. -/
theorem endsInBackslash_chars {value : Json} {depth : Nat} (hfits : value.Fits depth)
    (hclear : value.IsClear) (rest : List Char) :
    endsInBackslash .outside (value.chars layout depth ++ rest)
      = endsInBackslash .outside rest := by
  match value with
  | .null =>
    unfold Json.chars
    exact endsInBackslash_unquoted (by decide)
  | .bool b =>
    unfold Json.chars
    cases b <;> exact endsInBackslash_unquoted (by decide)
  | .int n =>
    unfold Json.chars
    exact endsInBackslash_toText n rest
  | .float x =>
    unfold Json.Fits at hfits
    exact hfits.elim
  | .text s =>
    unfold Json.IsClear at hclear
    unfold Json.chars
    exact endsInBackslash_stringChars hclear
  | .list [] | .object [] =>
    unfold Json.chars
    exact endsInBackslash_unquoted (by decide)
  | .list (item :: items) =>
    unfold Json.Fits Json.AllFit at hfits
    unfold Json.IsClear Json.AreClear at hclear
    unfold Json.chars
    simp only [List.cons_append, List.append_assoc, List.nil_append]
    rw [endsInBackslash_cons (by decide), endsInBackslash_breakLine,
      endsInBackslash_chars hfits.2.1 hclear.1, endsInBackslash_itemChars hfits.2.2 hclear.2,
      endsInBackslash_breakLine, endsInBackslash_cons (by decide)]
  | .object ((name, value) :: members) =>
    unfold Json.Fits Json.MembersFit at hfits
    unfold Json.IsClear Json.MembersClear at hclear
    unfold Json.chars
    simp only [List.cons_append, List.append_assoc, List.nil_append]
    rw [endsInBackslash_cons (by decide), endsInBackslash_breakLine,
      endsInBackslash_stringChars hclear.1, endsInBackslash_cons (by decide),
      endsInBackslash_cons (by decide), endsInBackslash_chars hfits.2.2.1 hclear.2.1,
      endsInBackslash_memberChars hfits.2.2.2 hclear.2.2, endsInBackslash_breakLine,
      endsInBackslash_cons (by decide)]

theorem endsInBackslash_itemChars {items : List Json} {depth : Nat}
    (hfits : Json.AllFit depth items) (hclear : Json.AreClear items) (rest : List Char) :
    endsInBackslash .outside (Json.itemChars layout depth items ++ rest)
      = endsInBackslash .outside rest := by
  match items with
  | [] => rfl
  | item :: items =>
    unfold Json.AllFit at hfits
    unfold Json.AreClear at hclear
    unfold Json.itemChars
    simp only [List.append_assoc]
    rw [endsInBackslash_between, endsInBackslash_chars hfits.1 hclear.1,
      endsInBackslash_itemChars hfits.2 hclear.2]

theorem endsInBackslash_memberChars {members : Members} {depth : Nat}
    (hfits : Json.MembersFit depth members) (hclear : Json.MembersClear members)
    (rest : List Char) :
    endsInBackslash .outside (Json.memberChars layout depth members ++ rest)
      = endsInBackslash .outside rest := by
  match members with
  | [] => rfl
  | (name, value) :: members =>
    unfold Json.MembersFit at hfits
    unfold Json.MembersClear at hclear
    unfold Json.memberChars
    simp only [List.append_assoc, List.cons_append, List.nil_append]
    rw [endsInBackslash_between, endsInBackslash_stringChars hclear.1,
      endsInBackslash_cons (by decide), endsInBackslash_cons (by decide),
      endsInBackslash_chars hfits.1 hclear.2.1, endsInBackslash_memberChars hfits.2 hclear.2.2]

end

/-! ## Objects -/

theorem exists_chars_object (layout : Json.Layout) (depth : Nat) (members : Members) :
    ∃ d, (Json.object members).chars layout depth = '{' :: d := by
  cases members with
  | nil => exact ⟨_, by unfold Json.chars; rfl⟩
  | cons member members => exact ⟨_, by unfold Json.chars; rfl⟩

/-- Nothing is lost of a text in which nothing is overwritten. -/
theorem lost_self (cs : List Char) : lost cs cs = [] := by
  induction cs with
  | nil => rfl
  | cons c cs ih => rw [lost, if_pos (beq_self_eq_true c), ih]

theorem extract_of_candidates_nil {text : String} (h : candidates text.toList = []) :
    extract text = .error .noCandidate := by
  unfold extract
  rw [h]
  rfl

/-- **A written object is extracted as it is.** -/
theorem extract_render (layout : Json.Layout) {members : Members}
    (hfits : (Json.object members).Fits 0) (hwritable : (Json.object members).isWritable = true)
    (hclear : (Json.object members).IsClear) :
    extract ((Json.object members).render layout)
      = .ok ⟨(Json.object members).render layout, .object members, none⟩ := by
  obtain ⟨d, hd⟩ := exists_chars_object layout 0 members
  have hspells := Json.spells_chars layout hfits hwritable
  rw [hd] at hspells
  have hends : endsInBackslash .outside ('{' :: d) = false := by
    have hchars : endsInBackslash .outside ((Json.object members).chars layout 0 ++ [])
        = endsInBackslash .outside [] := endsInBackslash_chars hfits hclear []
    rwa [List.append_nil, hd] at hchars
  -- A written document has nothing that could be overwritten, so nothing of it is lost.
  obtain ⟨hcomments, hcommas⟩ := strict_of_spells hspells .nil
  have hblank : blankRelaxed ('{' :: d) = '{' :: d := by
    unfold blankRelaxed
    rw [hcomments, hcommas]
  have hinside : blankComments .code d = d := by
    rw [blankComments_code (by decide) (by decide)] at hcomments
    exact (List.cons.inj hcomments).2
  have htext : ((Json.object members).render layout).toList = '{' :: d ++ [] := by
    unfold Json.render
    rw [String.toList_ofList, hd, List.append_nil]
  rw [endsInBackslash_cons (by decide), ← hinside] at hends
  have hlost : ∀ c ∈ lost d (blankComments .code d), Unmarked c := by
    rw [hinside, lost_self]
    exact nofun
  have hextract := extract_of_unmarked htext hblank hspells hends hlost
  have hrender : String.ofList ('{' :: d) = (Json.object members).render layout := by
    unfold Json.render
    rw [hd]
  rwa [hrender] at hextract

end Payload
end DesktopMacro
