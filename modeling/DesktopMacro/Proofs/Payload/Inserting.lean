/-
Comments and commas put into a document.

`Annotated` leaves open which blanks stand between the tokens of a document. Here nothing may differ
but what was put in: comments between the tokens, which leave the blanks around them as they were,
and a comma behind the last item of a list or an object that has one. Two things are read off such a
text. It has no comma right behind an opening bracket, if the document has none. And where the only
comment without an end is a comment to the end of the line, a line break behind the text ends it.
-/
import DesktopMacro.Proofs.Payload.Annotation

set_option autoImplicit false

namespace DesktopMacro.Payload

open Json (Gaps Spells Stops)

variable {ends : List Char → Prop} {opened : Bool} {blanks cs d fill last rest t token x : List Char}

/-! ## Insertions -/

/-- **Comments among blanks**: the blanks by themselves, and with the comments. -/
inductive Interspersed : List Char → List Char → Prop where
  | none : Interspersed [] []
  | blank {c : Char} {gaps fill : List Char} (h : Json.isGap c = true) :
    Interspersed gaps fill → Interspersed (c :: gaps) (c :: fill)
  | remark {remark gaps fill : List Char} (h : Remark remark) :
    Interspersed gaps fill → Interspersed gaps (remark ++ fill)

/-- **A comment to the end of the line**, in the last line, or none. -/
inductive LastLine : List Char → Prop where
  | none : LastLine []
  | line {body : List Char} (h : '\n' ∉ body) : LastLine ('/' :: '/' :: body)

/-- **A comment that goes to the end of the text**, for want of a line break or of a star and a
slash, or none. -/
inductive LastRemark : List Char → Prop where
  | line {last : List Char} (h : LastLine last) : LastRemark last
  | block {body : List Char} (h : ¬ ['*', '/'] <:+: body) : LastRemark ('/' :: '*' :: body)

/-- Does a character open a list or an object? -/
def isOpening (c : Char) : Bool := c == '{' || c == '['

/-- Is the token an opening bracket? -/
def opens (token : List Char) : Bool := token == ['{'] || token == ['[']

/-- **A document with insertions**: comments between its tokens, at the end one that may go on to the
end of the text, and commas before closing brackets. At the beginning and right behind an opening
bracket, which is what `opened` tells, there may be no comma. -/
inductive Inserted (ends : List Char → Prop) : Bool → List Char → List Char → Prop where
  | done {opened : Bool} {gaps fill last : List Char} (hfill : Interspersed gaps fill)
    (hlast : ends last) : Inserted ends opened gaps (fill ++ last)
  | token {opened : Bool} {gaps fill token d t : List Char} (hfill : Interspersed gaps fill)
    (hd : Token token d) (ht : Token token t) :
    Inserted ends (opens token) d t →
      Inserted ends opened (gaps ++ (token ++ d)) (fill ++ (token ++ t))
  | trailing {gaps gaps' front back : List Char} {c : Char} {d t : List Char}
    (hfront : Interspersed gaps front) (hback : Interspersed gaps' back)
    (hclosing : isClosing c = true) :
    Inserted ends false d t →
      Inserted ends false (gaps ++ (gaps' ++ c :: d)) (front ++ ',' :: (back ++ c :: t))

theorem Interspersed.isGap (h : Interspersed blanks fill) : ∀ b ∈ blanks, Json.isGap b = true := by
  induction h with
  | none => nofun
  | blank hc _ ih => exact List.forall_mem_cons.2 ⟨hc, ih⟩
  | remark _ _ ih => exact ih

theorem Interspersed.filler (h : Interspersed blanks fill) : Filler fill := by
  induction h with
  | none => exact .none
  | blank hc _ ih => exact .blank hc ih
  | remark hremark _ ih => exact .remark hremark ih

theorem Interspersed.gaps (h : Interspersed blanks fill) (cs : List Char) :
    Gaps (blanks ++ cs) cs :=
  gaps_append h.isGap cs

theorem blankComments_word {run : List Char} (hrun : ∀ c ∈ run, Json.isScalarChar c = true)
    (cs : List Char) : blankComments .code (run ++ cs) = run ++ blankComments .code cs := by
  induction run with
  | nil => rfl
  | cons c run ih =>
    have hc := ne_of_isScalarChar (hrun c List.mem_cons_self)
    rw [List.cons_append, blankComments_code hc.1 hc.2.1,
      ih fun e he => hrun e (List.mem_cons_of_mem c he)]
    rfl

/-- In a token, there are no comments. -/
theorem Token.blankComments (h : Token token rest) (cs : List Char) :
    blankComments .code (token ++ cs) = token ++ blankComments .code cs := by
  cases h with
  | mark hc =>
    refine blankComments_code ?_ ?_ cs
    · rintro rfl
      cases hc
    · rintro rfl
      cases hc
  | word _ hrun => exact blankComments_word hrun cs
  | literal hbody => exact congrArg ('"' :: ·) (hbody.blankComments cs)

/-! ## The end of the text -/

/-- Without an end, a comment to the end of the line goes on. -/
theorem blankComments_lastLine {body : List Char} (h : '\n' ∉ body) :
    blankComments .lineComment body = body.map blankOut := by
  induction body with
  | nil => rfl
  | cons c body ih =>
    rw [List.mem_cons, not_or] at h
    rw [blankComments, if_neg (by simpa using Ne.symm h.1), ih h.2]
    rfl

theorem blankComments_lastBlock {body : List Char} (h : ¬ ['*', '/'] <:+: body) :
    blankComments .blockComment body = body.map blankOut := by
  induction body with
  | nil => rfl
  | cons c body ih =>
    have hbody : ¬ ['*', '/'] <:+: body := fun hinner => h (List.infix_cons_iff.2 (.inr hinner))
    have hopen : ∀ more, c = '*' → body ≠ '/' :: more := by
      rintro more rfl rfl
      exact h ⟨[], more, rfl⟩
    rw [blankComments.eq_9 _ _ hopen, ih hbody]
    rfl

/-- What goes on to the end of the text leaves blanks. -/
theorem LastRemark.isGap (h : LastRemark last) :
    ∀ b ∈ blankComments .code last, Json.isGap b = true := by
  cases h with
  | line hline =>
    cases hline with
    | none => nofun
    | line hbody =>
      rw [blankComments, blankComments_lastLine hbody]
      exact List.forall_mem_cons.2 ⟨rfl, List.forall_mem_cons.2 ⟨rfl, isGap_of_mem_map⟩⟩
  | block hbody =>
    rw [blankComments, blankComments_lastBlock hbody]
    exact List.forall_mem_cons.2 ⟨rfl, List.forall_mem_cons.2 ⟨rfl, isGap_of_mem_map⟩⟩

/-- A line break ends the comment in the last line. -/
theorem LastLine.blankComments (h : LastLine last) (cs : List Char) :
    blankComments .code (last ++ '\n' :: cs)
      = blankComments .code last ++ '\n' :: blankComments .code cs := by
  cases h with
  | none => exact blankComments_code (by decide) (by decide) cs
  | line hbody =>
    simp only [List.cons_append]
    rw [Payload.blankComments, Payload.blankComments, blankComments_line hbody,
      blankComments_lastLine hbody]
    rfl

/-- **Behind a document with complete comments, a line begins anew.** What stands in the next line
is in none of the comments. -/
theorem Inserted.blankComments (h : Inserted LastLine opened d t) (cs : List Char) :
    blankComments .code (t ++ '\n' :: cs)
      = blankComments .code t ++ '\n' :: blankComments .code cs := by
  induction h with
  | @done _ _ fill last hfill hlast =>
    obtain ⟨blanks, -, hblanks⟩ := hfill.filler.blankComments
    rw [List.append_assoc, hblanks, hblanks, hlast.blankComments, List.append_assoc]
  | token hfill _ ht _ ih =>
    obtain ⟨blanks, -, hblanks⟩ := hfill.filler.blankComments
    simp only [List.append_assoc, hblanks, ht.blankComments, ih]
  | @trailing _ _ front back c d t hfront hback hclosing _ ih =>
    obtain ⟨blanks, -, hblanks⟩ := hfront.filler.blankComments
    obtain ⟨blanks', -, hblanks'⟩ := hback.filler.blankComments
    have hc : c ≠ '"' ∧ c ≠ '/' := by
      rcases isClosing_cases hclosing with rfl | rfl <;> decide
    have hcomma : ',' ≠ '"' ∧ ',' ≠ '/' := by decide
    simp only [List.append_assoc, List.cons_append, hblanks, hblanks',
      blankComments_code hcomma.1 hcomma.2, blankComments_code hc.1 hc.2, ih]

/-! ## Commas right behind opening brackets -/

/-- Is the next character that is no blank a comma? -/
def commaNext (cs : List Char) : Bool := (cs.dropWhile Json.isGap).head? == some ','

/-- Does a comma stand right behind an opening bracket, in a text without comments? -/
def hasLoneComma : Region → List Char → Bool
  | _, [] => false
  | .string, c :: cs =>
    hasLoneComma (if c == '\\' then .escape else if c == '"' then .code else .string) cs
  | .escape, _ :: cs => hasLoneComma .string cs
  | region, c :: cs =>
    if c == '"' then hasLoneComma .string cs
    else (isOpening c && commaNext cs) || hasLoneComma region cs

theorem commaNext_gaps (hgaps : Gaps cs rest) : commaNext cs = commaNext rest := by
  induction hgaps with
  | none => rfl
  | more hc _ ih =>
    unfold commaNext at ih ⊢
    rw [List.dropWhile_cons_of_pos hc, ih]

theorem commaNext_char {c : Char} (hc : Json.isGap c = false) (cs : List Char) :
    commaNext (c :: cs) = (c == ',') := by
  unfold commaNext
  rw [List.dropWhile_cons_of_neg (by simpa using hc)]
  rfl

/-- A comma comes next where the token is one. -/
theorem Token.commaNext (h : Token token rest) (x : List Char) :
    commaNext (token ++ x) = (token == [',']) := by
  obtain ⟨c, behind, rfl, hc, -⟩ := h.head
  rw [List.cons_append, commaNext_char hc]
  by_cases hcomma : c = ','
  · subst hcomma
    cases h with
    | mark => rfl
    | word _ hrun => cases hrun ',' List.mem_cons_self
  · simp [hcomma]

theorem hasLoneComma_code {c : Char} (hquote : c ≠ '"') (cs : List Char) :
    hasLoneComma .code (c :: cs) = ((isOpening c && commaNext cs) || hasLoneComma .code cs) := by
  rw [hasLoneComma, if_neg (by simpa using hquote)] <;> simp

/-- A character that opens nothing does not matter. -/
theorem hasLoneComma_plain {c : Char} (hquote : c ≠ '"') (hopening : isOpening c = false)
    (cs : List Char) : hasLoneComma .code (c :: cs) = hasLoneComma .code cs := by
  rw [hasLoneComma_code hquote, hopening, Bool.false_and, Bool.false_or]

theorem hasLoneComma_gaps (hgaps : Gaps cs rest) :
    hasLoneComma .code cs = hasLoneComma .code rest := by
  induction hgaps with
  | none => rfl
  | @more c _ _ hc _ ih =>
    have hopening : isOpening c = false := by
      rcases Json.gap_cases hc with rfl | rfl | rfl | rfl <;> rfl
    rw [hasLoneComma_plain (ne_of_isGap hc).1 hopening, ih]

theorem Literal.hasLoneComma {body : List Char} (h : Literal body) (cs : List Char) :
    hasLoneComma .string (body ++ cs) = hasLoneComma .code cs := by
  induction h with
  | closed => rfl
  | plain hquote hescape _ ih =>
    rw [List.cons_append, Payload.hasLoneComma]
    simp only [beq_iff_eq, hescape, hquote, if_false]
    exact ih
  | escape c _ ih => exact ih

theorem isOpening_of_isScalarChar {c : Char} (h : Json.isScalarChar c = true) :
    isOpening c = false := by
  cases hopening : isOpening c with
  | false => rfl
  | true =>
    rcases Bool.or_eq_true_iff.1 hopening with hc | hc <;> rw [eq_of_beq hc] at h <;> cases h

theorem hasLoneComma_word {run : List Char} (hrun : ∀ c ∈ run, Json.isScalarChar c = true)
    (cs : List Char) : hasLoneComma .code (run ++ cs) = hasLoneComma .code cs := by
  induction run with
  | nil => rfl
  | cons c run ih =>
    have hc := hrun c List.mem_cons_self
    rw [List.cons_append, hasLoneComma_plain (ne_of_isScalarChar hc).1
      (isOpening_of_isScalarChar hc), ih fun e he => hrun e (List.mem_cons_of_mem c he)]

theorem opens_word {run : List Char} (hrun : ∀ c ∈ run, Json.isScalarChar c = true) :
    opens run = false := by
  have hbracket : ∀ c, isOpening c = true → run ≠ [c] := by
    rintro c hc rfl
    rw [isOpening_of_isScalarChar (hrun c List.mem_cons_self)] at hc
    cases hc
  simp [opens, hbracket '{' rfl, hbracket '[' rfl]

/-- **Token by token**: a comma stands right behind an opening bracket where the token is one and a
comma comes next, or further on. -/
theorem Token.hasLoneComma (h : Token token rest) (x : List Char) :
    hasLoneComma .code (token ++ x)
      = ((opens token && Payload.commaNext x) || hasLoneComma .code x) := by
  cases h with
  | @mark c hc =>
    have hquote : c ≠ '"' := by
      rintro rfl
      cases hc
    have hopens : opens [c] = isOpening c := by simp [opens, isOpening]
    rw [hopens]
    exact hasLoneComma_code hquote x
  | word _ hrun => rw [hasLoneComma_word hrun, opens_word hrun, Bool.false_and, Bool.false_or]
  | literal hbody => exact hbody.hasLoneComma x

/-- Does a comma stand right behind an opening bracket, outside of strings and comments? -/
def loneComma (text : List Char) : Bool := hasLoneComma .code (blankComments .code text)

/-- Is the next character that is neither blank nor in a comment a comma? -/
def commaFirst (text : List Char) : Bool := commaNext (blankComments .code text)

theorem Filler.loneComma (h : Filler fill) (cs : List Char) :
    loneComma (fill ++ cs) = loneComma cs := by
  obtain ⟨blanks, hblanks, hfill⟩ := h.blankComments
  unfold Payload.loneComma
  rw [hfill, hasLoneComma_gaps (gaps_append hblanks _)]

theorem Filler.commaFirst (h : Filler fill) (cs : List Char) :
    commaFirst (fill ++ cs) = commaFirst cs := by
  obtain ⟨blanks, hblanks, hfill⟩ := h.blankComments
  unfold Payload.commaFirst
  rw [hfill, commaNext_gaps (gaps_append hblanks _)]

theorem Token.loneComma (h : Token token rest) (cs : List Char) :
    loneComma (token ++ cs) = ((opens token && commaFirst cs) || loneComma cs) := by
  unfold Payload.loneComma
  rw [h.blankComments, h.hasLoneComma]
  rfl

/-- **Insertions put no comma right behind an opening bracket.** -/
theorem Inserted.not_loneComma (h : Inserted LastRemark opened d t)
    (hd : hasLoneComma .code d = false) (hfirst : opened = true → commaNext d = false) :
    loneComma t = false ∧ (opened = true → commaFirst t = false) := by
  induction h with
  | @done _ _ fill last hfill hlast =>
    have hgaps := gaps_append hlast.isGap []
    rw [List.append_nil] at hgaps
    rw [hfill.filler.loneComma, hfill.filler.commaFirst]
    exact ⟨hasLoneComma_gaps hgaps, fun _ => commaNext_gaps hgaps⟩
  | @token opened gaps fill token d t hfill htoken ht _ ih =>
    rw [hasLoneComma_gaps (hfill.gaps _), htoken.hasLoneComma, Bool.or_eq_false_iff] at hd
    have hnext : opens token = true → commaNext d = false := fun hopens => by
      rw [hopens, Bool.true_and] at hd
      exact hd.1
    obtain ⟨hlone, hcomma⟩ := ih hd.2 hnext
    rw [hfill.filler.loneComma, hfill.filler.commaFirst, ht.loneComma, hlone, Bool.or_false]
    constructor
    · cases hopens : opens token with
      | false => rfl
      | true => exact hcomma hopens
    · intro hopened
      have hsame := hfirst hopened
      rw [commaNext_gaps (hfill.gaps _), htoken.commaNext] at hsame
      unfold Payload.commaFirst
      rw [ht.blankComments, ht.commaNext, hsame]
  | @trailing gaps gaps' front back c d t hfront hback hclosing _ ih =>
    have hmark : Token [c] d := .mark (by simp [isMark, hclosing]) d
    have hcomma : Token [','] d := .mark rfl d
    have hopens : opens [c] = false := by
      rcases isClosing_cases hclosing with rfl | rfl <;> rfl
    rw [hasLoneComma_gaps (hfront.gaps _), hasLoneComma_gaps (hback.gaps _)] at hd
    have hrest : hasLoneComma .code d = false := by
      have hsame := hmark.hasLoneComma d
      rw [hopens, Bool.false_and, Bool.false_or] at hsame
      rw [← hsame]
      exact hd
    have hbracket := hmark.loneComma t
    have hfirst := hcomma.loneComma (back ++ c :: t)
    rw [hopens, Bool.false_and, Bool.false_or] at hbracket
    refine ⟨?_, fun hopened => by cases hopened⟩
    rw [hfront.filler.loneComma]
    calc loneComma ([','] ++ (back ++ c :: t))
        = loneComma (back ++ c :: t) := by rw [hfirst]; rfl
      _ = loneComma ([c] ++ t) := hback.filler.loneComma _
      _ = false := by rw [hbracket, (ih hrest fun hopened => by cases hopened).1]

/-! ### Documents have none -/

theorem commaNext_of_beginsValue {c : Char} (hc : Json.beginsValue c = true)
    (hgaps : Gaps cs (c :: rest)) : commaNext cs = false := by
  rw [commaNext_gaps hgaps, commaNext_char (Json.not_isGap_of_beginsValue hc)]
  cases hcomma : c == ',' with
  | false => rfl
  | true =>
    rw [eq_of_beq hcomma] at hc
    cases hc

/-- **What is spelt has no comma right behind an opening bracket.** -/
theorem not_hasLoneComma_of_spells {part : Json.Part} {value : Json} {limits : Json.Limits}
    (hspells : Spells limits part value d rest) (h : hasLoneComma .code rest = false) :
    hasLoneComma .code d = false := by
  have hplain : ∀ {c : Char} {cs : List Char}, c ≠ '"' → isOpening c = false →
      hasLoneComma .code cs = false → hasLoneComma .code (c :: cs) = false :=
    fun hquote hopening hcs => (hasLoneComma_plain hquote hopening _).trans hcs
  have hopen : ∀ {c : Char} {cs : List Char}, c ≠ '"' → commaNext cs = false →
      hasLoneComma .code cs = false → hasLoneComma .code (c :: cs) = false :=
    fun hquote hnext hcs => by rw [hasLoneComma_code hquote, hnext, hcs, Bool.and_false]; rfl
  have hbehind : ∀ {cs next : List Char}, Gaps cs next → hasLoneComma .code next = false →
      hasLoneComma .code cs = false := fun hgaps hnext => (hasLoneComma_gaps hgaps).trans hnext
  have hquoted : ∀ {s : String} {cs behind : List Char}, Json.Quoted s cs behind →
      hasLoneComma .code behind = false → hasLoneComma .code ('"' :: cs) = false := by
    intro s cs behind hs hrest
    obtain ⟨body, hbody, rfl, -⟩ := literal_of_quoted hs
    exact (hbody.hasLoneComma behind).trans hrest
  induction hspells with
  | scalar hrun =>
    rw [hasLoneComma_word hrun, h]
  | text hs => exact hquoted hs h
  | emptyObject _ hclosed | emptyList _ hclosed =>
    refine hopen (by decide) ?_ (hbehind hclosed (hplain (by decide) rfl h))
    rw [commaNext_gaps hclosed]
    rfl
  | object _ hbefore hmembers ih | list _ hbefore hmembers ih =>
    obtain ⟨c, behind, rfl, hc⟩ := hmembers.head
    exact hopen (by decide) (commaNext_of_beginsValue hc hbefore) (hbehind hbefore (ih h))
  | lastItem _ hclosed ih => exact ih (hbehind hclosed (hplain (by decide) rfl h))
  | item _ hcomma hbefore _ ih ih' =>
    exact ih (hbehind hcomma (hplain (by decide) rfl (hbehind hbefore (ih' h))))
  | lastMember hname hcolon hbefore _ hclosed ih =>
    have hvalue := ih (hbehind hclosed (hplain (by decide) rfl h))
    exact hquoted hname (hbehind hcolon (hplain (by decide) rfl (hbehind hbefore hvalue)))
  | member hname hcolon hbefore _ hcomma hbefore' _ ih ih' =>
    have hvalue := ih (hbehind hcomma (hplain (by decide) rfl (hbehind hbefore' (ih' h))))
    exact hquoted hname (hbehind hcolon (hplain (by decide) rfl (hbehind hbefore hvalue)))

/-- **Nothing is put right behind an opening bracket of a document that can be read.** -/
theorem Inserted.not_loneComma_of_read {value : Json} (h : Inserted LastRemark true d t)
    (hread : Json.read (String.ofList d) = .ok value) : loneComma t = false := by
  obtain ⟨start, rest, hgaps, hspells, hrest⟩ := Json.spells_of_read hread
  rw [String.toList_ofList] at hgaps
  obtain ⟨c, behind, rfl, hc⟩ := hspells.head
  have hnone : hasLoneComma .code rest = false := hasLoneComma_gaps hrest
  exact (h.not_loneComma ((hasLoneComma_gaps hgaps).trans (not_hasLoneComma_of_spells hspells hnone))
    fun _ => commaNext_of_beginsValue hc hgaps).1

end DesktopMacro.Payload
