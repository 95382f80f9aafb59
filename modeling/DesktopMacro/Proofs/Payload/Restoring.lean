/-
The document behind a text.

What is read of a text with comments and trailing commas is a text that spells a value, with blanks
where something has been overwritten. Here the way goes back: the text is cut at the tokens that are
spelt, everything between two of them turns out to be comments and blanks, with a comma at most
before a closing bracket, and the tokens with those blanks alone are a document, which spells the
same value. The file says nothing of texts with a comma right behind an opening bracket; such a
comma is overwritten like any other, but there is nothing it could stand behind.
-/
import DesktopMacro.Proofs.Payload.Inserting

set_option autoImplicit false

namespace DesktopMacro.Payload

open Json (Gaps Spells Stops Tight)

variable {cs rest run t x : List Char}

/-! ## Up to the next token -/

/-- A block comment ends at the first star and slash. -/
theorem exists_block {body : List Char} (h : ['*', '/'] <:+: body) :
    ∃ front back, body = front ++ '*' :: '/' :: back ∧ ¬ ['*', '/'] <:+: front := by
  induction body with
  | nil => exact absurd (List.infix_nil.1 h) (by decide)
  | cons c body ih =>
    by_cases hends : ['*', '/'] <+: c :: body
    · obtain ⟨back, hback⟩ := hends
      exact ⟨[], back, hback.symm, fun hnil => absurd (List.infix_nil.1 hnil) (by decide)⟩
    · obtain ⟨front, back, rfl, hfront⟩ := ih ((List.infix_cons_iff.1 h).resolve_left hends)
      refine ⟨c :: front, back, rfl, fun hinner => ?_⟩
      -- A star and a slash that begin here begin the whole, whatever stands behind.
      rcases List.infix_cons_iff.1 hinner with hstarts | hinner
      · exact hends (hstarts.trans ((c :: front).prefix_append _))
      · exact hfront hinner

/-- **A text begins with comments and blanks**, and goes on with a character that is left alone as
long as it is no trailing comma, or with a comment that has no end. -/
theorem exists_interspersed (t : List Char) :
    ∃ blanks fill t', Interspersed blanks fill ∧ t = fill ++ t' ∧ (LastRemark t' ∨
      ∃ c behind more, t' = c :: behind ∧ Json.isGap c = false ∧
        blankComments .code t' = c :: more) := by
  -- Behind a comment, the text goes on with any shorter one.
  induction hlength : t.length using Nat.strong_induction_on generalizing t with
  | _ n ih =>
  have hremark : ∀ {remark : List Char} (back : List Char), Remark remark → t = remark ++ back →
      back.length < n → ∃ blanks fill t', Interspersed blanks fill ∧ t = fill ++ t' ∧
        (LastRemark t' ∨ ∃ c behind more, t' = c :: behind ∧ Json.isGap c = false ∧
          blankComments .code t' = c :: more) := by
    rintro remark back hremark rfl hlt
    obtain ⟨blanks, fill, t', hfill, rfl, hnext⟩ := ih back.length hlt back rfl
    exact ⟨blanks, remark ++ fill, t', .remark hremark hfill, by rw [List.append_assoc], hnext⟩
  by_cases hline : ∃ body, t = '/' :: '/' :: body
  · obtain ⟨body, rfl⟩ := hline
    by_cases hend : '\n' ∈ body
    · obtain ⟨front, back, rfl, hfront⟩ := List.eq_append_cons_of_mem hend
      refine hremark back (.line hfront) (by simp) ?_
      simp only [List.length_cons, List.length_append] at hlength
      omega
    · exact ⟨[], [], _, .none, rfl, .inl (.line (.line hend))⟩
  by_cases hblock : ∃ body, t = '/' :: '*' :: body
  · obtain ⟨body, rfl⟩ := hblock
    by_cases hend : ['*', '/'] <:+: body
    · obtain ⟨front, back, rfl, hfront⟩ := exists_block hend
      refine hremark back (.block hfront) (by simp) ?_
      simp only [List.length_cons, List.length_append] at hlength
      omega
    · exact ⟨[], [], _, .none, rfl, .inl (.block hend)⟩
  cases t with
  | nil => exact ⟨[], [], [], .none, rfl, .inl (.line .none)⟩
  | cons c t =>
    cases hgap : Json.isGap c with
    | true =>
      obtain ⟨blanks, fill, t', hfill, rfl, hnext⟩ := ih t.length (by simp [← hlength]) t rfl
      exact ⟨c :: blanks, c :: fill, t', .blank hgap hfill, rfl, hnext⟩
    | false =>
      have hkept := blankComments.eq_4 c t (fun more hc ht => hline ⟨more, by rw [hc, ht]⟩)
        (fun more hc ht => hblock ⟨more, by rw [hc, ht]⟩)
      exact ⟨[], [], c :: t, .none, rfl, .inr ⟨c, t, _, rfl, hgap, hkept⟩⟩

/-- Whatever stands behind blanks and is none itself is reached through all of them. -/
theorem gaps_of_append {blanks : List Char} (hblanks : ∀ b ∈ blanks, Json.isGap b = true)
    (h : Gaps (blanks ++ cs) x) (hx : Tight x) : Gaps cs x := by
  induction blanks with
  | nil => exact h
  | cons b blanks ih =>
    generalize hwhole : b :: blanks ++ cs = whole at h
    cases h with
    | none =>
      subst hwhole
      have hb := hblanks b List.mem_cons_self
      rw [hx b rfl] at hb
      cases hb
    | more _ hmore =>
      cases hwhole
      exact ih (fun c hc => hblanks c (List.mem_cons_of_mem b hc)) hmore

theorem eq_of_gaps {c : Char} (hc : Json.isGap c = false) (h : Gaps (c :: cs) x) : x = c :: cs := by
  cases h with
  | none => rfl
  | more hgap =>
    rw [hc] at hgap
    cases hgap

/-- Comments and blanks leave blanks, so that they are passed over. -/
theorem Filler.gaps_of_blankRelaxed {fill : List Char} (hfill : Filler fill)
    (h : Gaps (blankRelaxed (fill ++ t)) x) (hx : Tight x) : Gaps (blankRelaxed t) x := by
  obtain ⟨blanks, hblanks, hcomments⟩ := hfill.blankComments
  unfold blankRelaxed at h
  rw [hcomments, blankCommas_gaps hblanks] at h
  exact gaps_of_append hblanks h hx

/-- A text that begins with no blank of any kind. -/
def Plain (cs : List Char) : Prop := ∀ c ∈ cs.head?, Text.isBlank c = false

theorem Plain.tight (h : Plain x) : Tight x := by
  intro c hc
  cases hgap : Json.isGap c with
  | false => rfl
  | true =>
    have hblank := h c hc
    rw [isBlank_of_isGap hgap] at hblank
    cases hblank

/-- **Behind a comma that is overwritten a bracket closes.** -/
theorem exists_closing (hcloses : closesNext (blankComments .code t) = true)
    (h : Gaps (blankRelaxed t) x) (hx : Plain x) :
    ∃ blanks back c t', Interspersed blanks back ∧ isClosing c = true ∧
      t = back ++ c :: t' ∧ x = c :: blankRelaxed t' := by
  obtain ⟨blanks, back, t', hback, rfl, hlast | ⟨c, behind, more, rfl, hgap, hkept⟩⟩ :=
    exists_interspersed t
  · obtain ⟨left, hleft, hcomments⟩ := hback.filler.blankComments
    rw [hcomments, closesNext_gaps hleft, ← List.append_nil (blankComments .code t'),
      closesNext_gaps hlast.isGap] at hcloses
    cases hcloses
  · obtain ⟨left, hleft, hcomments⟩ := hback.filler.blankComments
    rw [hcomments, closesNext_gaps hleft, hkept] at hcloses
    have hnext := hback.filler.gaps_of_blankRelaxed h hx.tight
    cases hblank : Text.isBlank c with
    | true =>
      -- A blank that documents do not have would be the next character that is read.
      have hne : c ≠ '"' ∧ c ≠ '/' ∧ c ≠ ',' := by
        refine ⟨?_, ?_, ?_⟩ <;> rintro rfl <;> exact absurd hblank (by decide)
      rw [blankRelaxed_code hne.1 hne.2.1 hne.2.2] at hnext
      rw [eq_of_gaps hgap hnext] at hx
      rw [hx c rfl] at hblank
      cases hblank
    | false =>
      rw [closesNext_char hblank] at hcloses
      have hne : c ≠ '"' ∧ c ≠ '/' ∧ c ≠ ',' := by
        rcases isClosing_cases hcloses with rfl | rfl <;> decide
      rw [blankRelaxed_code hne.1 hne.2.1 hne.2.2] at hnext
      exact ⟨blanks, back, c, behind, hback, hcloses, rfl, eq_of_gaps hgap hnext⟩

theorem overwritten_blankRelaxed (t : List Char) :
    ∃ mid, Overwritten t mid ∧ Overwritten mid (blankRelaxed t) :=
  ⟨_, overwritten_blankComments .code t, overwritten_blankCommas .code _⟩

/-- What is no blank has not been written over anything. -/
theorem Overwritten.head {c : Char} (hc : Json.isGap c = false) (h : Overwritten t (c :: x)) :
    ∃ t', t = c :: t' := by
  cases h with
  | same => exact ⟨_, rfl⟩
  | blank _ hb =>
    rw [hc] at hb
    cases hb

theorem exists_cons_of_blankRelaxed {c : Char} (hc : Json.isGap c = false)
    (h : c :: rest = blankRelaxed t) : ∃ t', t = c :: t' := by
  obtain ⟨mid, hmid, hwhole⟩ := overwritten_blankRelaxed t
  rw [← h] at hwhole
  obtain ⟨mid', rfl⟩ := hwhole.head hc
  exact hmid.head hc

theorem eq_nil_of_blankRelaxed (h : [] = blankRelaxed t) : t = [] := by
  obtain ⟨mid, hmid, hwhole⟩ := overwritten_blankRelaxed t
  rw [← h] at hwhole
  cases hwhole
  cases hmid
  rfl

theorem blankCommas_head {c : Char} (hcomma : c ≠ ',') (cs : List Char) :
    ∃ more, blankCommas .code (c :: cs) = c :: more := by
  by_cases hquote : c = '"'
  · subst hquote
    exact ⟨_, rfl⟩
  · rw [blankCommas_code hquote, if_neg (by simp [hcomma])]
    exact ⟨_, rfl⟩

/-- **Between two tokens of what is read**, the text has comments and blanks, and before a closing
bracket maybe a comma among them. -/
theorem exists_between (h : Gaps (blankRelaxed t) x) (hx : Plain x) :
    ∃ blanks front t', Interspersed blanks front ∧ t = front ++ t' ∧
      ((x = [] ∧ LastRemark t') ∨ x = blankRelaxed t' ∨
        ∃ blanks' back c behind, Interspersed blanks' back ∧ isClosing c = true ∧
          t' = ',' :: (back ++ c :: behind) ∧ x = c :: blankRelaxed behind) := by
  obtain ⟨blanks, front, t', hfront, rfl, hnext⟩ := exists_interspersed t
  have hgaps := hfront.filler.gaps_of_blankRelaxed h hx.tight
  refine ⟨blanks, front, t', hfront, rfl, ?_⟩
  rcases hnext with hlast | ⟨c, behind, more, rfl, hgap, hkept⟩
  · have hall : blankRelaxed t' = blankComments .code t' ++ [] := by
      have hleft := blankCommas_gaps hlast.isGap []
      rw [List.append_nil] at hleft
      exact hleft
    rw [hall] at hgaps
    cases gaps_of_append hlast.isGap hgaps hx.tight
    exact .inl ⟨rfl, hlast⟩
  · right
    by_cases hcomma : c = ','
    · subst hcomma
      rw [blankRelaxed_comma] at hgaps
      cases hcloses : closesNext (blankComments .code behind) with
      | false =>
        rw [hcloses] at hgaps
        -- The comma is left alone, so it is what is read.
        have hsame := eq_of_gaps rfl hgaps
        left
        rw [hsame, blankRelaxed_comma, hcloses]
      | true =>
        rw [hcloses] at hgaps
        -- The comma is overwritten, and so a bracket is read behind it.
        have hspace : ∀ b ∈ [' '], Json.isGap b = true := List.forall_mem_singleton.2 rfl
        have hbehind := gaps_of_append hspace hgaps hx.tight
        obtain ⟨blanks', back, c, behind', hback, hclosing, rfl, hsame⟩ :=
          exists_closing hcloses hbehind hx
        exact .inr ⟨blanks', back, c, behind', hback, hclosing, rfl, hsame⟩
    · left
      obtain ⟨more', hmore⟩ := blankCommas_head hcomma more
      have hwhole : blankRelaxed (c :: behind) = c :: more' := by
        unfold blankRelaxed
        rw [hkept, hmore]
      rw [hwhole] at hgaps ⊢
      exact eq_of_gaps hgap hgaps

/-! ## Token by token -/

theorem plain_cons {c : Char} (hc : Text.isBlank c = false) (cs : List Char) :
    Plain (c :: cs) := by
  intro first hfirst
  cases Option.some.inj hfirst
  exact hc

theorem not_isClosing_of_beginsValue {c : Char} (hc : Json.beginsValue c = true) :
    isClosing c = false := by
  cases hclosing : isClosing c with
  | false => rfl
  | true => rcases isClosing_cases hclosing with rfl | rfl <;> cases hc

/-- What the text has where a character is read that is no closing bracket. -/
theorem exists_front {c : Char} (hc : Text.isBlank c = false) (hopen : isClosing c = false)
    (h : Gaps (blankRelaxed t) (c :: rest)) :
    ∃ blanks front t', Interspersed blanks front ∧ t = front ++ c :: t' ∧
      c :: rest = blankRelaxed (c :: t') := by
  have hgap := (plain_cons hc rest).tight c rfl
  obtain ⟨blanks, front, t', hfront, rfl, ⟨hnil, -⟩ | hsame |
    ⟨_, _, e, _, _, hclosing, _, hsame⟩⟩ := exists_between h (plain_cons hc rest)
  · cases hnil
  · obtain ⟨behind, rfl⟩ := exists_cons_of_blankRelaxed hgap hsame
    exact ⟨blanks, front, behind, hfront, rfl, hsame⟩
  · rw [← (List.cons.inj hsame).1, hopen] at hclosing
    cases hclosing

theorem isBlank_of_isMark {c : Char} (h : isMark c = true) : Text.isBlank c = false := by
  rcases isMark_cases h with rfl | rfl | rfl | rfl | rfl | rfl <;> decide

/-- A mark is read where one stands. -/
theorem eq_of_blankRelaxed_mark {c : Char} (hmark : isMark c = true)
    (h : c :: rest = blankRelaxed (c :: t)) : rest = blankRelaxed t := by
  by_cases hcomma : c = ','
  · subst hcomma
    rw [blankRelaxed_comma] at h
    exact (List.cons.inj h).2
  · have hne : [c] ≠ [','] := fun heq => hcomma (List.cons.inj heq).1
    exact (List.cons.inj (h.trans ((Token.mark hmark t).blankRelaxed hne))).2

/-- What is behind a token has no comma right behind an opening bracket, and does not begin with one
if the token is such a bracket. -/
theorem not_loneComma_of_token {token front : List Char} (hfront : Filler front)
    (htoken : Token token rest) (h : loneComma (front ++ (token ++ t)) = false) :
    loneComma t = false ∧ (opens token = true → commaFirst t = false) := by
  rw [hfront.loneComma, htoken.loneComma, Bool.or_eq_false_iff, Bool.and_eq_false_iff] at h
  refine ⟨h.2, fun hopens => h.1.resolve_left ?_⟩
  rw [hopens]
  decide

/-- **A mark that is read stands in the text**, and whatever the document is behind it, the mark
stands before it. -/
theorem exists_mark {c : Char} (hmark : isMark c = true)
    (h : Gaps (blankRelaxed t) (c :: rest)) (hlone : loneComma t = false) :
    ∃ t', rest = blankRelaxed t' ∧ loneComma t' = false ∧
      (opens [c] = true → commaFirst t' = false) ∧
      ∀ opened d', (isClosing c = true → opened = true → commaFirst t = false) →
        Inserted LastRemark (opens [c]) d' t' →
          ∃ d, Gaps d (c :: d') ∧ Inserted LastRemark opened d t := by
  have hgap := (plain_cons (isBlank_of_isMark hmark) rest).tight c rfl
  obtain ⟨blanks, front, t', hfront, rfl, ⟨hnil, -⟩ | hsame |
    ⟨blanks', back, e, behind, hback, hclosing, rfl, hsame⟩⟩ :=
      exists_between h (plain_cons (isBlank_of_isMark hmark) rest)
  · cases hnil
  · obtain ⟨behind, rfl⟩ := exists_cons_of_blankRelaxed hgap hsame
    have hbehind := not_loneComma_of_token hfront.filler (.mark hmark behind) hlone
    exact ⟨behind, eq_of_blankRelaxed_mark hmark hsame, hbehind.1, hbehind.2,
      fun _ d' _ hd => ⟨blanks ++ c :: d', hfront.gaps _,
        .token hfront (.mark hmark d') (.mark hmark behind) hd⟩⟩
  · obtain ⟨rfl, rfl⟩ := List.cons.inj hsame
    have hopens : opens [c] = false := by
      rcases isClosing_cases hclosing with rfl | rfl <;> rfl
    have hbehind : loneComma behind = false := by
      have hcomma : loneComma (back ++ c :: behind) = false :=
        (not_loneComma_of_token hfront.filler (Token.mark (c := ',') rfl []) hlone).1
      exact (not_loneComma_of_token hback.filler (.mark hmark behind) hcomma).1
    rw [hopens]
    refine ⟨behind, rfl, hbehind, nofun, fun opened d' hopened hd => ?_⟩
    cases opened with
    | false =>
      exact ⟨blanks ++ (blanks' ++ c :: d'), (hfront.gaps _).trans (hback.gaps _),
        .trailing hfront hback hclosing hd⟩
    | true =>
      -- Here the comma would be the first thing behind an opening bracket.
      have hfirst := hopened hclosing rfl
      rw [hfront.filler.commaFirst] at hfirst
      unfold commaFirst at hfirst
      rw [blankComments_code (by decide) (by decide), commaNext_char rfl] at hfirst
      cases hfirst

theorem string_head (c : Char) (t : List Char) :
    ∃ more, blankCommas .string (blankComments .string (c :: t)) = c :: more := by
  rw [blankComments, blankCommas]
  exact ⟨_, rfl⟩

/-- **A string that is read stands in the text.** -/
theorem exists_body {body : List Char} (hbody : Literal body)
    (h : body ++ rest = blankCommas .string (blankComments .string t)) :
    ∃ t', t = body ++ t' ∧ rest = blankRelaxed t' := by
  have hhead : ∀ {c e : Char} {cs t : List Char},
      c :: cs = blankCommas .string (blankComments .string (e :: t)) → c = e := by
    intro c e cs t hsame
    obtain ⟨more, hmore⟩ := string_head e t
    exact (List.cons.inj (hsame.trans hmore)).1
  induction hbody generalizing t with
  | closed =>
    cases t with
    | nil => cases h
    | cons c t =>
      obtain rfl := hhead h
      exact ⟨t, rfl, (List.cons.inj h).2⟩
  | @plain c body hquote hescape _ ih =>
    cases t with
    | nil => cases h
    | cons e t =>
      obtain rfl := hhead h
      rw [blankComments_string hquote hescape, blankCommas_string hquote hescape] at h
      obtain ⟨t', rfl, hrest⟩ := ih (List.cons.inj h).2
      exact ⟨t', rfl, hrest⟩
  | @escape c body _ ih =>
    cases t with
    | nil => cases h
    | cons e t =>
      obtain rfl := hhead h
      cases t with
      | nil => cases h
      | cons e t =>
        rw [blankComments_escape, blankCommas_escape] at h
        obtain ⟨rfl, hmore⟩ := List.cons.inj (List.cons.inj h).2
        obtain ⟨t', rfl, hrest⟩ := ih hmore
        exact ⟨t', rfl, hrest⟩

/-- **A number or a word that is read stands in the text.** -/
theorem exists_run (hrun : ∀ c ∈ run, Json.isScalarChar c = true)
    (h : run ++ rest = blankRelaxed t) : ∃ t', t = run ++ t' ∧ rest = blankRelaxed t' := by
  induction run generalizing t with
  | nil => exact ⟨t, rfl, h⟩
  | cons c run ih =>
    have hc := hrun c List.mem_cons_self
    have hgap : Json.isGap c = false := by
      cases hgap : Json.isGap c with
      | false => rfl
      | true =>
        rw [Json.not_isScalarChar_of_isGap hgap] at hc
        cases hc
    obtain ⟨t, rfl⟩ := exists_cons_of_blankRelaxed hgap h
    have hne := ne_of_isScalarChar hc
    rw [blankRelaxed_code hne.1 hne.2.1 hne.2.2] at h
    obtain ⟨t', rfl, hrest⟩ :=
      ih (fun b hb => hrun b (List.mem_cons_of_mem c hb)) (List.cons.inj h).2
    exact ⟨t', rfl, hrest⟩

/-- The text goes on with what stops a number or a word, as what is read of it does. -/
theorem stops_of_blankRelaxed (h : Stops (blankRelaxed t)) : Stops t := by
  intro c hc
  cases t with
  | nil => cases hc
  | cons e t =>
    obtain rfl := Option.some.inj hc
    cases hscalar : Json.isScalarChar e with
    | false => rfl
    | true =>
      have hne := ne_of_isScalarChar hscalar
      rw [blankRelaxed_code hne.1 hne.2.1 hne.2.2] at h
      rw [h.head] at hscalar
      cases hscalar

theorem exists_literal {s : String} (hquoted : Json.Quoted s cs rest)
    (h : Gaps (blankRelaxed t) ('"' :: cs)) (hlone : loneComma t = false) :
    ∃ t', rest = blankRelaxed t' ∧ loneComma t' = false ∧
      ∀ opened d', Inserted LastRemark false d' t' → ∃ d start, Gaps d ('"' :: start) ∧
        Json.Quoted s start d' ∧ Inserted LastRemark opened d t := by
  obtain ⟨blanks, front, t', hfront, rfl, hsame⟩ := exists_front (by decide) rfl h
  obtain ⟨body, hbody, rfl, hother⟩ := literal_of_quoted hquoted
  obtain ⟨behind, rfl, hrest⟩ := exists_body hbody (List.cons.inj hsame).2
  have hbehind := not_loneComma_of_token hfront.filler (.literal hbody behind) hlone
  have hopens : opens ('"' :: body) = false := rfl
  refine ⟨behind, hrest, hbehind.1, fun _ d' hd => ?_⟩
  exact ⟨blanks ++ '"' :: (body ++ d'), body ++ d', hfront.gaps _, hother d',
    .token hfront (.literal hbody d') (.literal hbody behind) (hopens ▸ hd)⟩

/-! ## Values -/

/-- Whatever the document is behind a part, the part stands before it. -/
def Restores (limits : Json.Limits) (part : Json.Part) (value : Json) (t t' : List Char) : Prop :=
  ∀ opened d', Inserted LastRemark false d' t' → Stops d' →
    ∃ d start, Gaps d start ∧ Spells limits part value start d' ∧ Inserted LastRemark opened d t

/-- **What is spelt by what is read of a text is spelt by a document**, from which the text arises
by insertions. -/
theorem restores {limits : Json.Limits} {part : Json.Part} {value : Json}
    (hspells : Spells limits part value x rest) (h : Gaps (blankRelaxed t) x)
    (hlone : loneComma t = false) :
    ∃ t', rest = blankRelaxed t' ∧ loneComma t' = false ∧ Restores limits part value t t' := by
  induction hspells generalizing t with
  | @scalar depth value run rest hrun hread hrest =>
    have hne := Json.ne_nil_of_readScalar hread
    obtain ⟨c, behind, rfl⟩ := List.exists_cons_of_ne_nil hne
    have hc : Json.beginsValue c = true := by
      unfold Json.beginsValue
      rw [hrun c List.mem_cons_self, Bool.or_true]
    have hopen : isClosing c = false := not_isClosing_of_beginsValue hc
    obtain ⟨blanks, front, t', hfront, rfl, hsame⟩ :=
      exists_front (not_isBlank_of_beginsValue hc) hopen h
    obtain ⟨t'', hword, hrest'⟩ := exists_run hrun hsame
    obtain rfl := (List.cons.inj hword).2
    -- A comment may stand right behind the word, and it stops the word, too.
    have hstops : Stops t'' := stops_of_blankRelaxed (hrest' ▸ hrest)
    have hbehind := not_loneComma_of_token hfront.filler (.word hne hrun hstops) hlone
    refine ⟨t'', hrest', hbehind.1, fun opened d' hd hends => ?_⟩
    exact ⟨blanks ++ (c :: behind ++ d'), _, hfront.gaps _, .scalar hrun hread hends,
      .token hfront (.word hne hrun hends) (.word hne hrun hstops) ((opens_word hrun).symm ▸ hd)⟩
  | text hquoted =>
    obtain ⟨t', hrest, hbehind, hback⟩ := exists_literal hquoted h hlone
    refine ⟨t', hrest, hbehind, fun opened d' hd _ => ?_⟩
    obtain ⟨d, start, hgaps, hstart, hinserted⟩ := hback opened d' hd
    exact ⟨d, _, hgaps, .text hstart, hinserted⟩
  | emptyObject hallow hclosed =>
    -- Nothing is spelt between the brackets, so no comma may be put there: `hfirst` has it.
    obtain ⟨t₁, rfl, hlone₁, hfirst, hopening⟩ := exists_mark rfl h hlone
    obtain ⟨t', hrest, hbehind, -, hclosing⟩ := exists_mark rfl hclosed hlone₁
    refine ⟨t', hrest, hbehind, fun opened d' hd _ => ?_⟩
    obtain ⟨d₁, hgaps₁, hd₁⟩ := hclosing _ d' (fun _ _ => hfirst rfl) hd
    obtain ⟨d, hgaps, hinserted⟩ := hopening opened d₁ nofun hd₁
    exact ⟨d, _, hgaps, .emptyObject hallow hgaps₁, hinserted⟩
  | emptyList hallow hclosed =>
    obtain ⟨t₁, rfl, hlone₁, hfirst, hopening⟩ := exists_mark rfl h hlone
    obtain ⟨t', hrest, hbehind, -, hclosing⟩ := exists_mark rfl hclosed hlone₁
    refine ⟨t', hrest, hbehind, fun opened d' hd _ => ?_⟩
    obtain ⟨d₁, hgaps₁, hd₁⟩ := hclosing _ d' (fun _ _ => hfirst rfl) hd
    obtain ⟨d, hgaps, hinserted⟩ := hopening opened d₁ nofun hd₁
    exact ⟨d, _, hgaps, .emptyList hallow hgaps₁, hinserted⟩
  -- From here on the text is cut from the front, and the document is put together from behind.
  | object hallow hbefore _ ih =>
    obtain ⟨t₁, rfl, hlone₁, -, hopening⟩ := exists_mark rfl h hlone
    obtain ⟨t', hrest, hbehind, hmembers⟩ := ih hbefore hlone₁
    refine ⟨t', hrest, hbehind, fun opened d' hd hends => ?_⟩
    obtain ⟨d₁, start, hgaps₁, hstart, hd₁⟩ := hmembers _ d' hd hends
    obtain ⟨d, hgaps, hinserted⟩ := hopening opened d₁ nofun hd₁
    exact ⟨d, _, hgaps, .object hallow hgaps₁ hstart, hinserted⟩
  | list hallow hbefore _ ih =>
    obtain ⟨t₁, rfl, hlone₁, -, hopening⟩ := exists_mark rfl h hlone
    obtain ⟨t', hrest, hbehind, hitems⟩ := ih hbefore hlone₁
    refine ⟨t', hrest, hbehind, fun opened d' hd hends => ?_⟩
    obtain ⟨d₁, start, hgaps₁, hstart, hd₁⟩ := hitems _ d' hd hends
    obtain ⟨d, hgaps, hinserted⟩ := hopening opened d₁ nofun hd₁
    exact ⟨d, _, hgaps, .list hallow hgaps₁ hstart, hinserted⟩
  | lastItem _ hclosed ih =>
    obtain ⟨t₁, rfl, hlone₁, hitem⟩ := ih h hlone
    obtain ⟨t', hrest, hbehind, -, hclosing⟩ := exists_mark rfl hclosed hlone₁
    refine ⟨t', hrest, hbehind, fun opened d' hd _ => ?_⟩
    obtain ⟨d₁, hgaps₁, hd₁⟩ := hclosing false d' nofun hd
    obtain ⟨d, start, hgaps, hstart, hinserted⟩ :=
      hitem opened d₁ hd₁ (hgaps₁.stops (Json.stops_cons rfl d'))
    exact ⟨d, start, hgaps, .lastItem hstart hgaps₁, hinserted⟩
  | item _ hcomma hbefore _ ih ih' =>
    obtain ⟨t₁, rfl, hlone₁, hitem⟩ := ih h hlone
    obtain ⟨t₂, rfl, hlone₂, -, hcomma'⟩ := exists_mark rfl hcomma hlone₁
    obtain ⟨t', hrest, hbehind, hitems⟩ := ih' hbefore hlone₂
    refine ⟨t', hrest, hbehind, fun opened d' hd hends => ?_⟩
    obtain ⟨d₂, next, hgaps₂, hnext, hd₂⟩ := hitems _ d' hd hends
    obtain ⟨d₁, hgaps₁, hd₁⟩ := hcomma' false d₂ nofun hd₂
    obtain ⟨d, start, hgaps, hstart, hinserted⟩ :=
      hitem opened d₁ hd₁ (hgaps₁.stops (Json.stops_cons rfl d₂))
    exact ⟨d, start, hgaps, .item hstart hgaps₁ hgaps₂ hnext, hinserted⟩
  | lastMember hname hcolon hbefore _ hclosed ih =>
    obtain ⟨t₁, rfl, hlone₁, hname'⟩ := exists_literal hname h hlone
    obtain ⟨t₂, rfl, hlone₂, -, hcolon'⟩ := exists_mark rfl hcolon hlone₁
    obtain ⟨t₃, rfl, hlone₃, hvalue⟩ := ih hbefore hlone₂
    obtain ⟨t', hrest, hbehind, -, hclosing⟩ := exists_mark rfl hclosed hlone₃
    refine ⟨t', hrest, hbehind, fun opened d' hd _ => ?_⟩
    obtain ⟨d₃, hgaps₃, hd₃⟩ := hclosing false d' nofun hd
    obtain ⟨d₂, start, hgaps₂, hstart, hd₂⟩ :=
      hvalue _ d₃ hd₃ (hgaps₃.stops (Json.stops_cons rfl d'))
    obtain ⟨d₁, hgaps₁, hd₁⟩ := hcolon' false d₂ nofun hd₂
    obtain ⟨d, first, hgaps, hfirst, hinserted⟩ := hname' opened d₁ hd₁
    exact ⟨d, _, hgaps, .lastMember hfirst hgaps₁ hgaps₂ hstart hgaps₃, hinserted⟩
  | member hname hcolon hbefore _ hcomma hbefore' _ ih ih' =>
    obtain ⟨t₁, rfl, hlone₁, hname'⟩ := exists_literal hname h hlone
    obtain ⟨t₂, rfl, hlone₂, -, hcolon'⟩ := exists_mark rfl hcolon hlone₁
    obtain ⟨t₃, rfl, hlone₃, hvalue⟩ := ih hbefore hlone₂
    obtain ⟨t₄, rfl, hlone₄, -, hcomma'⟩ := exists_mark rfl hcomma hlone₃
    obtain ⟨t', hrest, hbehind, hmembers⟩ := ih' hbefore' hlone₄
    refine ⟨t', hrest, hbehind, fun opened d' hd hends => ?_⟩
    obtain ⟨d₄, next, hgaps₄, hnext, hd₄⟩ := hmembers _ d' hd hends
    obtain ⟨d₃, hgaps₃, hd₃⟩ := hcomma' false d₄ nofun hd₄
    obtain ⟨d₂, start, hgaps₂, hstart, hd₂⟩ :=
      hvalue _ d₃ hd₃ (hgaps₃.stops (Json.stops_cons rfl d₄))
    obtain ⟨d₁, hgaps₁, hd₁⟩ := hcolon' false d₂ nofun hd₂
    obtain ⟨d, first, hgaps, hfirst, hinserted⟩ := hname' opened d₁ hd₁
    exact ⟨d, _, hgaps, .member hfirst hgaps₁ hgaps₂ hstart hgaps₃ hgaps₄ hnext, hinserted⟩

/-- Behind the document, the text has comments and blanks only. -/
theorem exists_end (h : Gaps (blankRelaxed t) []) :
    ∃ d, Gaps d [] ∧ Inserted LastRemark false d t := by
  obtain ⟨blanks, front, t', hfront, rfl, ⟨-, hlast⟩ | hsame | ⟨_, _, _, _, _, _, _, hsame⟩⟩ :=
    exists_between h nofun
  · have hgaps := hfront.gaps []
    rw [List.append_nil] at hgaps
    exact ⟨blanks, hgaps, .done hfront hlast⟩
  · obtain rfl := eq_nil_of_blankRelaxed hsame
    have hgaps := hfront.gaps []
    rw [List.append_nil] at hgaps
    exact ⟨blanks, hgaps, .done hfront (.line .none)⟩
  · cases hsame

/-- **Nothing is read but documents with comments and trailing commas.** Where no comma stands right
behind an opening bracket, a text that is read arises from a document with the same value, by
comments between the tokens and one comma at most behind the last of some items or members. -/
theorem exists_document_of_readRelaxed {text : List Char} {value : Json}
    (h : readRelaxed text = .ok value) (hlone : loneComma text = false) :
    ∃ document, Json.read (String.ofList document) = .ok value ∧
      Inserted LastRemark true document text := by
  obtain ⟨start, rest, hgaps, hspells, hrest⟩ := Json.spells_of_read h
  rw [String.toList_ofList] at hgaps
  obtain ⟨t', rfl, -, hback⟩ := restores hspells hgaps hlone
  obtain ⟨d', hblank, hd'⟩ := exists_end hrest
  obtain ⟨d, start', hgaps', hspells', hinserted⟩ :=
    hback true d' hd' (hblank.stops Json.stops_nil)
  exact ⟨d, hspells'.read_padded hgaps' hblank, hinserted⟩

theorem readRelaxed_of_readChars {text : List Char} {value : Json}
    (h : Json.readChars .usual (blankRelaxed text) = .ok value) : readRelaxed text = .ok value :=
  Json.read_of_readChars (by rw [String.toList_ofList, h])

/-- A list with a comma behind its only item and a comment that nothing ends. -/
theorem exists_document_item :
    readRelaxed ['[', '1', ',', ']', '/', '*'] = .ok (.list [.int 1]) ∧
      loneComma ['[', '1', ',', ']', '/', '*'] = false ∧
        ∃ document, Json.read (String.ofList document) = .ok (.list [.int 1]) ∧
          Inserted LastRemark true document ['[', '1', ',', ']', '/', '*'] := by
  have hread : readRelaxed ['[', '1', ',', ']', '/', '*'] = .ok (.list [.int 1]) :=
    readRelaxed_of_readChars rfl
  have hlone : loneComma ['[', '1', ',', ']', '/', '*'] = false := by decide
  exact ⟨hread, hlone, exists_document_of_readRelaxed hread hlone⟩

/-- **What is read beyond complete comments and trailing commas.** A block comment without an end is
read, although a next line would be in it; and a comma by itself is read in a list without items,
which no insertion puts there. -/
theorem readRelaxed_incomplete :
    (readRelaxed ['[', '1', ']', '/', '*'] = .ok (.list [.int 1]) ∧
      ¬∃ document value, Json.read (String.ofList document) = .ok value ∧
        Inserted LastLine true document ['[', '1', ']', '/', '*']) ∧
    readRelaxed ['[', ',', ']'] = .ok (.list []) ∧
      ¬∃ document value, Json.read (String.ofList document) = .ok value ∧
        Inserted LastRemark true document ['[', ',', ']'] := by
  refine ⟨⟨readRelaxed_of_readChars rfl, ?_⟩, readRelaxed_of_readChars rfl, ?_⟩
  -- If it arose by complete comments, a digit behind it would be code; but it is in the comment.
  · rintro ⟨document, value, -, hinserted⟩
    have hnext := hinserted.blankComments ['1']
    exact absurd hnext (by decide)
  · rintro ⟨document, value, hread, hinserted⟩
    have hlone := hinserted.not_loneComma_of_read hread
    exact absurd hlone (by decide)

end DesktopMacro.Payload
