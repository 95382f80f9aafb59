/-
Documents with remarks.

Whoever writes a document by hand puts remarks into it. Between any two tokens, and at either end,
there may be comments and blanks, and a comma may stand behind the last item of a list or an object.
`Annotated` says that one text is another one with such additions: the tokens are the same, in the
same order. When comments and trailing commas have been overwritten, what is left of an annotated
document is the document with other blanks between its tokens, and blanks do not matter to what a
text spells. A document without any additions is left as it is.
-/
import DesktopMacro.Proofs.Payload.Widening

set_option autoImplicit false

namespace DesktopMacro.Payload

open Json (Gaps Spells Stops)

variable {a b cs d fill rest t token x y : List Char}

/-! ## Comments and blanks -/

/-- **A comment**: from two slashes to the end of the line, or from a slash and a star to the next
star and slash. -/
inductive Remark : List Char → Prop where
  | line {body : List Char} (h : '\n' ∉ body) : Remark ('/' :: '/' :: (body ++ ['\n']))
  | block {body : List Char} (h : ¬ ['*', '/'] <:+: body) :
    Remark ('/' :: '*' :: (body ++ ['*', '/']))

/-- **What may stand between tokens**: comments and blanks. -/
inductive Filler : List Char → Prop where
  | none : Filler []
  | blank {c : Char} {fill : List Char} (h : Json.isGap c = true) : Filler fill → Filler (c :: fill)
  | remark {remark fill : List Char} (h : Remark remark) : Filler fill → Filler (remark ++ fill)

theorem isGap_blankOut (c : Char) : Json.isGap (blankOut c) = true := by
  unfold blankOut
  split
  · next h =>
    rcases Bool.or_eq_true_iff.1 h with hline | hline <;> rw [eq_of_beq hline] <;> rfl
  · rfl

theorem isGap_of_mem_map {body : List Char} : ∀ b ∈ body.map blankOut, Json.isGap b = true := by
  intro b hb
  obtain ⟨c, -, rfl⟩ := List.mem_map.1 hb
  exact isGap_blankOut c

theorem blankComments_line {body : List Char} (h : '\n' ∉ body) (cs : List Char) :
    blankComments .lineComment (body ++ '\n' :: cs)
      = body.map blankOut ++ '\n' :: blankComments .code cs := by
  induction body with
  | nil => rfl
  | cons c body ih =>
    rw [List.mem_cons, not_or] at h
    have hc : ¬(c == '\n') = true := by simpa using Ne.symm h.1
    rw [List.cons_append, blankComments, if_neg hc, ih h.2]
    rfl

theorem blankComments_block {body : List Char} (h : ¬ ['*', '/'] <:+: body) (cs : List Char) :
    blankComments .blockComment (body ++ '*' :: '/' :: cs)
      = body.map blankOut ++ ' ' :: ' ' :: blankComments .code cs := by
  induction body with
  | nil => rfl
  | cons c body ih =>
    have hbody : ¬ ['*', '/'] <:+: body := fun hinner => h (hinner.trans (List.infix_cons_iff.2
      (.inr (List.infix_refl body))))
    -- The comment does not end here: a slash behind a star would be inside of it.
    have hopen : ∀ more, c = '*' → body ++ '*' :: '/' :: cs ≠ '/' :: more := by
      rintro more rfl heq
      cases body with
      | nil => cases heq
      | cons e body =>
        cases heq
        exact h ⟨[], body, rfl⟩
    rw [List.cons_append, blankComments.eq_9 _ _ hopen, ih hbody]
    rfl

/-- A comment is overwritten character by character. -/
theorem Remark.blankComments {remark : List Char} (h : Remark remark) (cs : List Char) :
    blankComments .code (remark ++ cs) = remark.map blankOut ++ blankComments .code cs := by
  cases h with
  | line hbody =>
    simp only [List.cons_append, List.append_assoc, List.nil_append, List.map_cons,
      List.map_append, List.map_nil]
    rw [Payload.blankComments, blankComments_line hbody]
    rfl
  | block hbody =>
    simp only [List.cons_append, List.append_assoc, List.nil_append, List.map_cons,
      List.map_append, List.map_nil]
    rw [Payload.blankComments, blankComments_block hbody]
    rfl

theorem blankComments_code {c : Char} (hquote : c ≠ '"') (hslash : c ≠ '/') (cs : List Char) :
    blankComments .code (c :: cs) = c :: blankComments .code cs := by
  rw [blankComments.eq_4 _ _ (fun _ h _ => hslash h) (fun _ h _ => hslash h),
    if_neg (by simpa using hquote)]

theorem blankComments_head {c : Char} (hslash : c ≠ '/') (cs : List Char) :
    ∃ more, blankComments .code (c :: cs) = c :: more := by
  rw [blankComments.eq_4 _ _ (fun _ h _ => hslash h) (fun _ h _ => hslash h)]
  exact ⟨_, rfl⟩

theorem blankCommas_code {c : Char} (hquote : c ≠ '"') (cs : List Char) :
    blankCommas .code (c :: cs)
      = (if c == ',' && closesNext cs then ' ' else c) :: blankCommas .code cs := by
  rw [blankCommas.eq_4 .code c cs (by simp) (by simp), if_neg (by simpa using hquote)]

theorem ne_of_isGap {c : Char} (h : Json.isGap c = true) : c ≠ '"' ∧ c ≠ '/' ∧ c ≠ ',' := by
  rcases Json.gap_cases h with rfl | rfl | rfl | rfl <;> decide

/-- What stands between tokens leaves blanks. -/
theorem Filler.blankComments (h : Filler fill) : ∃ blanks,
    (∀ b ∈ blanks, Json.isGap b = true) ∧
      ∀ cs, blankComments .code (fill ++ cs) = blanks ++ blankComments .code cs := by
  induction h with
  | none => exact ⟨[], nofun, fun cs => rfl⟩
  | @blank c fill hc _ ih =>
    obtain ⟨blanks, hblanks, hfill⟩ := ih
    refine ⟨c :: blanks, List.forall_mem_cons.2 ⟨hc, hblanks⟩, fun cs => ?_⟩
    rw [List.cons_append, blankComments_code (ne_of_isGap hc).1 (ne_of_isGap hc).2.1, hfill]
    rfl
  | @remark remark fill hremark _ ih =>
    obtain ⟨blanks, hblanks, hfill⟩ := ih
    refine ⟨remark.map blankOut ++ blanks,
      List.forall_mem_append.2 ⟨isGap_of_mem_map, hblanks⟩, fun cs => ?_⟩
    rw [List.append_assoc, hremark.blankComments, hfill, List.append_assoc]

theorem blankCommas_gaps {blanks : List Char} (hblanks : ∀ b ∈ blanks, Json.isGap b = true)
    (cs : List Char) : blankCommas .code (blanks ++ cs) = blanks ++ blankCommas .code cs := by
  induction blanks with
  | nil => rfl
  | cons b blanks ih =>
    have hb := ne_of_isGap (hblanks b List.mem_cons_self)
    rw [List.cons_append, blankCommas_code hb.1, if_neg (by simp [hb.2.2]),
      ih fun c hc => hblanks c (List.mem_cons_of_mem b hc)]
    rfl

/-- **Between tokens, only blanks are read.** -/
theorem Filler.gaps (h : Filler fill) (cs : List Char) :
    Gaps (blankRelaxed (fill ++ cs)) (blankRelaxed cs) := by
  obtain ⟨blanks, hblanks, hfill⟩ := h.blankComments
  unfold blankRelaxed
  rw [hfill, blankCommas_gaps hblanks]
  exact gaps_append hblanks _

/-! ## Tokens -/

/-- A character that is a token by itself. -/
def isMark (c : Char) : Bool := isClosing c || c == '{' || c == '[' || c == ':' || c == ','

/-- **A string literal**, from behind its opening quote. -/
inductive Literal : List Char → Prop where
  | closed : Literal ['"']
  | plain {c : Char} {body : List Char} (hquote : c ≠ '"') (hescape : c ≠ '\\') :
    Literal body → Literal (c :: body)
  | escape (c : Char) {body : List Char} : Literal body → Literal ('\\' :: c :: body)

/-- **A token** in front of the rest of a text: a mark, a number or a word as long as it goes on, or
a string literal. -/
inductive Token : List Char → List Char → Prop where
  | mark {c : Char} (h : isMark c = true) (rest : List Char) : Token [c] rest
  | word {run rest : List Char} (hne : run ≠ []) (hrun : ∀ c ∈ run, Json.isScalarChar c = true)
    (hrest : Stops rest) : Token run rest
  | literal {body : List Char} (h : Literal body) (rest : List Char) : Token ('"' :: body) rest

/-- **A document, annotated**: the tokens are the same, but there may be other blanks and comments
between them and at both ends, and one comma may stand before a closing bracket. -/
inductive Annotated : List Char → List Char → Prop where
  | done {gaps fill : List Char} (hgaps : ∀ b ∈ gaps, Json.isGap b = true) (hfill : Filler fill) :
    Annotated gaps fill
  | token {gaps fill token d t : List Char} (hgaps : ∀ b ∈ gaps, Json.isGap b = true)
    (hfill : Filler fill) (hd : Token token d) (ht : Token token t) :
    Annotated d t → Annotated (gaps ++ (token ++ d)) (fill ++ (token ++ t))
  | trailing {gaps front back : List Char} {c : Char} {d t : List Char}
    (hgaps : ∀ b ∈ gaps, Json.isGap b = true) (hfront : Filler front) (hback : Filler back)
    (hclosing : isClosing c = true) :
    Annotated d t → Annotated (gaps ++ c :: d) (front ++ ',' :: (back ++ c :: t))

theorem isMark_cases {c : Char} (h : isMark c = true) :
    c = '}' ∨ c = ']' ∨ c = '{' ∨ c = '[' ∨ c = ':' ∨ c = ',' := by
  simpa [isMark, isClosing, or_assoc] using h

/-- A token begins with a character of its own. -/
theorem Token.head (h : Token token rest) : ∃ c behind, token = c :: behind ∧
    Json.isGap c = false ∧ c ≠ '/' := by
  cases h with
  | @mark c hc =>
    refine ⟨c, [], rfl, ?_⟩
    rcases isMark_cases hc with rfl | rfl | rfl | rfl | rfl | rfl <;> decide
  | @word run _ hne hrun =>
    obtain ⟨c, behind, rfl⟩ := List.exists_cons_of_ne_nil hne
    have hc := hrun c List.mem_cons_self
    refine ⟨c, behind, rfl, ?_, ?_⟩
    · cases hgap : Json.isGap c with
      | false => rfl
      | true =>
        rw [Json.not_isScalarChar_of_isGap hgap] at hc
        cases hc
    · rintro rfl
      cases hc
  | literal => exact ⟨'"', _, rfl, rfl, by decide⟩

/-- A literal ends where it ends, whatever stands behind. -/
theorem Literal.unique (h : Literal a) (h' : Literal b) (heq : a ++ x = b ++ y) : a = b := by
  induction h generalizing b with
  | closed =>
    cases h' with
    | closed => rfl
    | plain hquote => exact absurd (List.cons.inj heq).1.symm hquote
    | escape => cases heq
  | @plain c body hquote hescape _ ih =>
    cases h' with
    | closed => exact absurd (List.cons.inj heq).1 hquote
    | plain _ _ hbody =>
      obtain ⟨rfl, hrest⟩ := List.cons.inj heq
      rw [ih hbody hrest]
    | escape => exact absurd (List.cons.inj heq).1 hescape
  | @escape c body _ ih =>
    cases h' with
    | closed => cases heq
    | plain _ hescape => exact absurd (List.cons.inj heq).1.symm hescape
    | escape d hbody =>
      obtain ⟨-, hmore⟩ := List.cons.inj heq
      obtain ⟨rfl, hrest⟩ := List.cons.inj hmore
      rw [ih hbody hrest]

theorem takeWhile_word (hrun : ∀ c ∈ a, Json.isScalarChar c = true) (hrest : Stops x) :
    (a ++ x).takeWhile Json.isScalarChar = a := by
  rw [Json.takeWhile_append (fun _ h => h) hrest]
  exact List.takeWhile_eq_self_iff.2 hrun

/-- **A text begins with one token only.** -/
theorem Token.unique (h : Token a x) (h' : Token b y) (heq : a ++ x = b ++ y) : a = b := by
  have hscalar : ∀ {c : Char}, isMark c = true ∨ c = '"' → Json.isScalarChar c = false := by
    rintro c (hmark | rfl)
    · rcases isMark_cases hmark with rfl | rfl | rfl | rfl | rfl | rfl <;> rfl
    · rfl
  have hword : ∀ {c : Char} {run rest tail : List Char}, isMark c = true ∨ c = '"' → run ≠ [] →
      (∀ c ∈ run, Json.isScalarChar c = true) → c :: tail ≠ run ++ rest := by
    rintro c run rest tail hc hne hrun hsame
    obtain ⟨d, behind, rfl⟩ := List.exists_cons_of_ne_nil hne
    cases hsame
    have hd := hrun c List.mem_cons_self
    rw [hscalar hc] at hd
    cases hd
  cases h with
  | mark hc =>
    cases h' with
    | mark => rw [(List.cons.inj heq).1]
    | word hne hrun => exact absurd heq (hword (.inl hc) hne hrun)
    | literal =>
      rw [(List.cons.inj heq).1] at hc
      cases hc
  | word hne hrun hrest =>
    cases h' with
    | mark hc => exact absurd heq.symm (hword (.inl hc) hne hrun)
    | word _ hrun' hrest' => rw [← takeWhile_word hrun hrest, heq, takeWhile_word hrun' hrest']
    | literal => exact absurd heq.symm (hword (.inr rfl) hne hrun)
  | literal hbody =>
    cases h' with
    | mark hc =>
      rw [← (List.cons.inj heq).1] at hc
      cases hc
    | word hne hrun => exact absurd heq (hword (.inr rfl) hne hrun)
    | literal hbody' => rw [hbody.unique hbody' (List.cons.inj heq).2]

/-- The pieces of a string are those of a literal, whatever stands behind it. -/
theorem literal_of_pieces {pieces : List Json.Piece} (h : Json.Pieces pieces cs rest) :
    ∃ body, Literal body ∧ cs = body ++ rest ∧
      ∀ other, Json.Pieces pieces (body ++ other) other := by
  induction h with
  | closed rest => exact ⟨['"'], .closed, rfl, fun other => .closed other⟩
  | @unit a b c e n pieces cs rest hnumber _ ih =>
    obtain ⟨body, hbody, rfl, hpieces⟩ := ih
    have hdigits : ∀ digits : List Char, (∀ c ∈ digits, c ≠ '"' ∧ c ≠ '\\' ∧ 32 ≤ c.toNat) →
        Literal (digits ++ body) := by
      intro digits hplain
      induction digits with
      | nil => exact hbody
      | cons c digits ih =>
        obtain ⟨hquote, hescape, -⟩ := hplain c List.mem_cons_self
        exact .plain hquote hescape (ih fun d hd => hplain d (List.mem_cons_of_mem c hd))
    exact ⟨'\\' :: 'u' :: a :: b :: c :: e :: body,
      .escape 'u' (hdigits [a, b, c, e] (plain_of_hexNumber? hnumber)), rfl,
      fun other => .unit hnumber (hpieces other)⟩
  | @escape c x pieces cs rest hescape _ ih =>
    obtain ⟨body, hbody, rfl, hpieces⟩ := ih
    exact ⟨'\\' :: c :: body, .escape c hbody, rfl, fun other => .escape hescape (hpieces other)⟩
  | @plain c pieces cs rest hquote hescape hcontrol _ ih =>
    obtain ⟨body, hbody, rfl, hpieces⟩ := ih
    exact ⟨c :: body, .plain hquote hescape hbody, rfl,
      fun other => .plain hquote hescape hcontrol (hpieces other)⟩

theorem literal_of_quoted {s : String} (h : Json.Quoted s cs rest) :
    ∃ body, Literal body ∧ cs = body ++ rest ∧ ∀ other, Json.Quoted s (body ++ other) other := by
  obtain ⟨pieces, hs, hpieces⟩ := h
  obtain ⟨body, hbody, hcs, hother⟩ := literal_of_pieces hpieces
  exact ⟨body, hbody, hcs, fun other => ⟨pieces, hs, hother other⟩⟩

/-! ## Tokens are left alone -/

theorem Literal.blankComments (h : Literal a) (cs : List Char) :
    blankComments .string (a ++ cs) = a ++ blankComments .code cs := by
  induction h with
  | closed => rfl
  | plain hquote hescape _ ih =>
    rw [List.cons_append, blankComments_string hquote hescape, ih]
    rfl
  | escape c _ ih =>
    rw [List.cons_append, List.cons_append, blankComments_escape, ih]
    rfl

theorem Literal.blankCommas (h : Literal a) (cs : List Char) :
    blankCommas .string (a ++ cs) = a ++ blankCommas .code cs := by
  induction h with
  | closed => rfl
  | plain hquote hescape _ ih =>
    rw [List.cons_append, blankCommas_string hquote hescape, ih]
    rfl
  | escape c _ ih =>
    rw [List.cons_append, List.cons_append, blankCommas_escape, ih]
    rfl

theorem blankRelaxed_code {c : Char} (hquote : c ≠ '"') (hslash : c ≠ '/') (hcomma : c ≠ ',')
    (cs : List Char) : blankRelaxed (c :: cs) = c :: blankRelaxed cs := by
  unfold blankRelaxed
  rw [blankComments_code hquote hslash, blankCommas_code hquote, if_neg (by simp [hcomma])]

theorem blankRelaxed_comma (cs : List Char) :
    blankRelaxed (',' :: cs)
      = (if closesNext (blankComments .code cs) then ' ' else ',') :: blankRelaxed cs := by
  unfold blankRelaxed
  rw [blankComments_code (by decide) (by decide), blankCommas_code (by decide)]
  rfl

theorem ne_of_isScalarChar {c : Char} (h : Json.isScalarChar c = true) :
    c ≠ '"' ∧ c ≠ '/' ∧ c ≠ ',' := by
  refine ⟨?_, ?_, ?_⟩
  · rintro rfl
    cases h
  · rintro rfl
    cases h
  · rintro rfl
    cases h

theorem blankRelaxed_word {run : List Char} (hrun : ∀ c ∈ run, Json.isScalarChar c = true)
    (cs : List Char) : blankRelaxed (run ++ cs) = run ++ blankRelaxed cs := by
  induction run with
  | nil => rfl
  | cons c run ih =>
    have hc := ne_of_isScalarChar (hrun c List.mem_cons_self)
    rw [List.cons_append, blankRelaxed_code hc.1 hc.2.1 hc.2.2,
      ih fun d hd => hrun d (List.mem_cons_of_mem c hd)]
    rfl

/-- A token stays, unless it is a comma. -/
theorem Token.blankRelaxed (h : Token token t) (hcomma : token ≠ [',']) :
    blankRelaxed (token ++ t) = token ++ blankRelaxed t := by
  cases h with
  | mark hc =>
    have hne := fun heq => hcomma (congrArg (fun c => [c]) heq)
    refine blankRelaxed_code ?_ ?_ hne t
    · rintro rfl
      cases hc
    · rintro rfl
      cases hc
  | word _ hrun => exact blankRelaxed_word hrun t
  | literal hbody =>
    unfold Payload.blankRelaxed
    have hcomments : blankComments .code ('"' :: (_ ++ t)) = '"' :: _ :=
      congrArg ('"' :: ·) (hbody.blankComments t)
    have hcommas := congrArg ('"' :: ·) (hbody.blankCommas (blankComments .code t))
    rw [List.cons_append, hcomments]
    exact hcommas

/-! ## Characters keep their places -/

/-- **Some characters of a text overwritten with blanks.** -/
inductive Overwritten : List Char → List Char → Prop where
  | nil : Overwritten [] []
  | same (c : Char) {cs bs : List Char} : Overwritten cs bs → Overwritten (c :: cs) (c :: bs)
  | blank (c : Char) {b : Char} {cs bs : List Char} (h : Json.isGap b = true) :
    Overwritten cs bs → Overwritten (c :: cs) (b :: bs)

theorem overwritten_blankComments (region : Region) (cs : List Char) :
    Overwritten cs (blankComments region cs) := by
  fun_induction blankComments region cs with
  | case1 => exact .nil
  | case2 _ ih | case3 _ ih | case9 _ ih => exact .blank _ rfl (.blank _ rfl ih)
  | case4 _ _ _ _ ih | case5 _ _ ih | case6 _ _ ih | case7 _ _ _ ih => exact .same _ ih
  | case8 _ _ _ ih | case10 _ _ _ ih => exact .blank _ (isGap_blankOut _) ih

theorem overwritten_blankCommas (region : Region) (cs : List Char) :
    Overwritten cs (blankCommas region cs) := by
  fun_induction blankCommas region cs with
  | case1 => exact .nil
  | case2 _ _ ih | case3 _ _ ih | case4 _ _ _ _ _ _ ih => exact .same _ ih
  | case5 _ _ _ _ _ _ ih =>
    split
    · exact .blank _ rfl ih
    · exact .same _ ih

/-- A number or a word stops where it did. -/
theorem Overwritten.stops (h : Overwritten t x) (ht : Stops t) : Stops x := by
  cases h with
  | nil => exact ht
  | same c => exact Json.stops_cons ht.head _
  | blank c hb => exact Json.stops_cons (Json.not_isScalarChar_of_isGap hb) _

theorem stops_blankRelaxed (h : Stops t) : Stops (blankRelaxed t) :=
  (overwritten_blankCommas .code _).stops ((overwritten_blankComments .code t).stops h)

/-! ## The tokens of an annotated document -/

namespace Annotated

/-- A blank of the document does not have to be there. -/
theorem of_gap {c : Char} (hc : Json.isGap c = true) (h : Annotated (c :: d) t) :
    Annotated d t := by
  generalize hwhole : c :: d = whole at h
  cases h with
  | done hgaps hfill =>
    subst hwhole
    exact .done (fun b hb => hgaps b (List.mem_cons_of_mem c hb)) hfill
  | @token gaps fill token d' t' hgaps hfill hd ht hmore =>
    cases gaps with
    | nil =>
      obtain ⟨first, behind, rfl, hfirst, -⟩ := hd.head
      cases hwhole
      rw [hc] at hfirst
      cases hfirst
    | cons b gaps =>
      cases hwhole
      exact .token (fun e he => hgaps e (List.mem_cons_of_mem c he)) hfill hd ht hmore
  | @trailing gaps front back first d' t' hgaps hfront hback hclosing hmore =>
    cases gaps with
    | nil =>
      cases hwhole
      rw [Widened.not_isGap_of_isClosing hclosing] at hc
      cases hc
    | cons b gaps =>
      cases hwhole
      exact .trailing (fun e he => hgaps e (List.mem_cons_of_mem c he)) hfront hback hclosing hmore

theorem of_gaps (h : Annotated d t) (hgaps : Gaps d rest) : Annotated rest t := by
  induction hgaps with
  | none => exact h
  | more hc _ ih => exact ih (h.of_gap hc)

theorem eq_nil_of_token {gaps : List Char} (hgaps : ∀ b ∈ gaps, Json.isGap b = true)
    (htoken : Token token rest) (heq : token ++ rest = gaps ++ x) : gaps = [] := by
  obtain ⟨c, behind, rfl, hc, -⟩ := htoken.head
  cases gaps with
  | nil => rfl
  | cons b gaps =>
    rw [(List.cons.inj heq).1, hgaps b List.mem_cons_self] at hc
    cases hc

/-- **A token of the document stands in the annotated one**, behind comments and blanks; before a
closing bracket there may be a comma among them. -/
theorem of_token (htoken : Token token rest) (h : Annotated (token ++ rest) t) :
    ∃ t', Annotated rest t' ∧
      ((Token token t' ∧ ∃ fill, Filler fill ∧ t = fill ++ (token ++ t')) ∨
        ∃ front back c, Filler front ∧ Filler back ∧ isClosing c = true ∧ token = [c] ∧
          t = front ++ ',' :: (back ++ c :: t')) := by
  generalize hwhole : token ++ rest = whole at h
  cases h with
  | done hgaps hfill =>
    rw [← List.append_nil whole] at hwhole
    obtain ⟨c, behind, rfl, -⟩ := htoken.head
    cases eq_nil_of_token hgaps htoken hwhole
    cases hwhole
  | @token gaps fill token' d' t' hgaps hfill hd ht hmore =>
    cases eq_nil_of_token hgaps htoken hwhole
    obtain rfl := htoken.unique hd hwhole
    obtain rfl := List.append_cancel_left hwhole
    exact ⟨t', hmore, .inl ⟨ht, fill, hfill, rfl⟩⟩
  | @trailing gaps front back c d' t' hgaps hfront hback hclosing hmore =>
    cases eq_nil_of_token hgaps htoken hwhole
    have hmark : Token [c] d' := .mark (by simp [isMark, hclosing]) d'
    obtain rfl := htoken.unique hmark hwhole
    obtain rfl := (List.cons.inj hwhole).2
    exact ⟨t', hmore, .inr ⟨front, back, c, hfront, hback, hclosing, rfl, rfl⟩⟩

/-- A comma before a closing bracket becomes a blank. -/
theorem gaps_trailing {back : List Char} {c : Char} (hback : Filler back)
    (hclosing : isClosing c = true) (t : List Char) :
    Gaps (blankRelaxed (',' :: (back ++ c :: t))) (c :: blankRelaxed t) := by
  have hc : c ≠ '"' ∧ c ≠ '/' ∧ c ≠ ',' := by
    rcases isClosing_cases hclosing with rfl | rfl <;> decide
  have hcloses : closesNext (blankComments .code (back ++ c :: t)) = true := by
    obtain ⟨blanks, hblanks, hfill⟩ := hback.blankComments
    rw [hfill, closesNext_gaps hblanks, blankComments_code hc.1 hc.2.1]
    exact closesNext_closing hclosing _
  have hgaps := hback.gaps (c :: t)
  rw [blankRelaxed_code hc.1 hc.2.1 hc.2.2] at hgaps
  rw [blankRelaxed_comma, if_pos hcloses]
  exact .more rfl hgaps

/-- What is read of an annotated document begins with the token of the document, apart from
blanks. -/
theorem gaps_token (htoken : Token token rest) (hcomma : token ≠ [','])
    (h : Annotated (token ++ rest) t) :
    ∃ t', Gaps (blankRelaxed t) (token ++ blankRelaxed t') ∧ Annotated rest t' ∧
      (Token token t' ∨ ∃ c, isClosing c = true ∧ token = [c]) := by
  obtain ⟨t', hmore, ⟨ht, fill, hfill, rfl⟩ | ⟨front, back, c, hfront, hback, hclosing, rfl, rfl⟩⟩
    := h.of_token htoken
  · have hgaps := hfill.gaps (token ++ t')
    rw [ht.blankRelaxed hcomma] at hgaps
    exact ⟨t', hgaps, hmore, .inl ht⟩
  · exact ⟨t', (hfront.gaps _).trans (gaps_trailing hback hclosing t'), hmore,
      .inr ⟨c, hclosing, rfl⟩⟩

/-- A mark behind blanks, as it is read of an annotated document. -/
theorem gaps_mark {c : Char} (hmark : isMark c = true) (hcomma : c ≠ ',') (h : Annotated d t)
    (hgaps : Gaps d (c :: rest)) :
    ∃ t', Gaps (blankRelaxed t) (c :: blankRelaxed t') ∧ Annotated rest t' := by
  have hne : [c] ≠ [','] := fun heq => hcomma (List.cons.inj heq).1
  obtain ⟨t', hread, hmore, -⟩ := gaps_token (.mark hmark rest) hne (h.of_gaps hgaps)
  exact ⟨t', hread, hmore⟩

theorem gaps_literal {body : List Char} (hbody : Literal body)
    (h : Annotated ('"' :: (body ++ rest)) t) :
    ∃ t', Gaps (blankRelaxed t) ('"' :: (body ++ blankRelaxed t')) ∧ Annotated rest t' := by
  have hne : '"' :: body ≠ [','] := fun heq => absurd (List.cons.inj heq).1 (by decide)
  obtain ⟨t', hread, hmore, -⟩ := gaps_token (.literal hbody rest) hne h
  exact ⟨t', hread, hmore⟩

/-- Before a value, no closing bracket is next. -/
theorem not_closesNext {c : Char} (hc : Json.beginsValue c = true) (h : Annotated d t)
    (hgaps : Gaps d (c :: rest)) : closesNext (blankComments .code t) = false := by
  have hgap := Json.not_isGap_of_beginsValue hc
  have hopen : isClosing c = false := by
    cases hclosing : isClosing c with
    | false => rfl
    | true => rcases isClosing_cases hclosing with rfl | rfl <;> cases hc
  have hannotated := h.of_gaps hgaps
  generalize hwhole : c :: rest = whole at hannotated
  cases hannotated with
  | done hblanks =>
    rw [← hwhole] at hblanks
    rw [hblanks c List.mem_cons_self] at hgap
    cases hgap
  | @token gaps fill token d' t' hblanks hfill hd ht _ =>
    obtain ⟨first, behind, rfl, hfirst, hslash⟩ := ht.head
    obtain ⟨blanks, hleft, hcomments⟩ := hfill.blankComments
    cases gaps with
    | cons b gaps =>
      rw [(List.cons.inj hwhole).1, hblanks b List.mem_cons_self] at hgap
      cases hgap
    | nil =>
      obtain rfl := (List.cons.inj hwhole).1
      obtain ⟨more, hmore⟩ := blankComments_head hslash (behind ++ t')
      rw [hcomments, closesNext_gaps hleft, List.cons_append, hmore,
        closesNext_char (not_isBlank_of_beginsValue hc), hopen]
  | @trailing gaps front back closing d' t' hblanks _ _ hclosing _ =>
    cases gaps with
    | cons b gaps =>
      rw [(List.cons.inj hwhole).1, hblanks b List.mem_cons_self] at hgap
      cases hgap
    | nil =>
      obtain rfl := (List.cons.inj hwhole).1
      rw [hopen] at hclosing
      cases hclosing

/-- **A comma before a value is read.** -/
theorem gaps_comma {c : Char} {behind : List Char} (hc : Json.beginsValue c = true)
    (h : Annotated d t) (hgaps : Gaps d (',' :: rest)) (hnext : Gaps rest (c :: behind)) :
    ∃ t', Gaps (blankRelaxed t) (',' :: blankRelaxed t') ∧ Annotated rest t' := by
  obtain ⟨t', hmore, ⟨ht, fill, hfill, rfl⟩ | ⟨_, _, closing, _, _, hclosing, hsame, _⟩⟩ :=
    of_token (.mark rfl rest) (h.of_gaps hgaps)
  · have hread := hfill.gaps (',' :: t')
    rw [blankRelaxed_comma, if_neg (by simp [hmore.not_closesNext hc hnext])] at hread
    exact ⟨t', hread, hmore⟩
  · cases hsame
    cases hclosing

/-- A number or a word of an annotated document ends where that of the document does. -/
theorem gaps_word {run : List Char} (hne : run ≠ []) (hrun : ∀ c ∈ run, Json.isScalarChar c = true)
    (hrest : Stops rest) (h : Annotated (run ++ rest) t) :
    ∃ t', Gaps (blankRelaxed t) (run ++ blankRelaxed t') ∧ Stops (blankRelaxed t') ∧
      Annotated rest t' := by
  have hmark : ∀ c, isMark c = true → run ≠ [c] := by
    rintro c hc rfl
    have hscalar := hrun c List.mem_cons_self
    rcases isMark_cases hc with rfl | rfl | rfl | rfl | rfl | rfl <;> cases hscalar
  obtain ⟨t', hread, hmore, ht | ⟨c, hclosing, hsame⟩⟩ :=
    gaps_token (.word hne hrun hrest) (hmark ',' rfl) h
  · refine ⟨t', hread, ?_, hmore⟩
    cases ht with
    | mark hc => exact absurd rfl (hmark _ hc)
    | word _ _ hstops => exact stops_blankRelaxed hstops
    | literal => cases hrun '"' List.mem_cons_self
  · exact absurd hsame (hmark c (by simp [isMark, hclosing]))

/-- At the end of the document nothing is left but comments and blanks. -/
theorem gaps_end (h : Annotated [] t) : Gaps (blankRelaxed t) [] := by
  generalize hwhole : [] = whole at h
  cases h with
  | done _ hfill =>
    subst hwhole
    have hgaps := hfill.gaps []
    rwa [List.append_nil] at hgaps
  | token _ _ hd =>
    obtain ⟨c, behind, rfl, -⟩ := hd.head
    simp at hwhole
  | trailing => simp at hwhole

/-- **What a part of a document spells, it spells when it is annotated**, behind blanks. -/
theorem spells {part : Json.Part} {value : Json} {limits : Json.Limits}
    (hspells : Spells limits part value d rest) (h : Annotated d t) :
    ∃ start t', Gaps (blankRelaxed t) start ∧ Spells limits part value start (blankRelaxed t') ∧
      Annotated rest t' := by
  induction hspells generalizing t with
  | scalar hrun hread hrest =>
    obtain ⟨t', hgaps, hstops, hmore⟩ := h.gaps_word (Json.ne_nil_of_readScalar hread) hrun hrest
    exact ⟨_, t', hgaps, .scalar hrun hread hstops, hmore⟩
  | text hquoted =>
    obtain ⟨body, hbody, rfl, hother⟩ := literal_of_quoted hquoted
    obtain ⟨t', hgaps, hmore⟩ := h.gaps_literal hbody
    exact ⟨_, t', hgaps, .text (hother _), hmore⟩
  | emptyObject hallow hclosed =>
    obtain ⟨t', hgaps, hmore⟩ := h.gaps_mark rfl (by decide) (.none _)
    obtain ⟨t'', hgaps', hrest⟩ := hmore.gaps_mark rfl (by decide) hclosed
    exact ⟨_, t'', hgaps, .emptyObject hallow hgaps', hrest⟩
  | object hallow hbefore _ ih =>
    obtain ⟨t', hgaps, hmore⟩ := h.gaps_mark rfl (by decide) (.none _)
    obtain ⟨start, t'', hgaps', hmembers, hrest⟩ := ih (hmore.of_gaps hbefore)
    exact ⟨_, t'', hgaps, .object hallow hgaps' hmembers, hrest⟩
  | emptyList hallow hclosed =>
    obtain ⟨t', hgaps, hmore⟩ := h.gaps_mark rfl (by decide) (.none _)
    obtain ⟨t'', hgaps', hrest⟩ := hmore.gaps_mark rfl (by decide) hclosed
    exact ⟨_, t'', hgaps, .emptyList hallow hgaps', hrest⟩
  | list hallow hbefore _ ih =>
    obtain ⟨t', hgaps, hmore⟩ := h.gaps_mark rfl (by decide) (.none _)
    obtain ⟨start, t'', hgaps', hitems, hrest⟩ := ih (hmore.of_gaps hbefore)
    exact ⟨_, t'', hgaps, .list hallow hgaps' hitems, hrest⟩
  | lastItem _ hclosed ih =>
    obtain ⟨start, t', hgaps, hitem, hmore⟩ := ih h
    obtain ⟨t'', hgaps', hrest⟩ := hmore.gaps_mark rfl (by decide) hclosed
    exact ⟨start, t'', hgaps, .lastItem hitem hgaps', hrest⟩
  | item _ hcomma hbefore hnext ih ih' =>
    obtain ⟨c, behind, rfl, hc⟩ := hnext.head
    obtain ⟨start, t', hgaps, hitem, hmore⟩ := ih h
    obtain ⟨t'', hgaps', hmore'⟩ := hmore.gaps_comma hc hcomma hbefore
    obtain ⟨start', t₃, hgaps'', hitems, hrest⟩ := ih' (hmore'.of_gaps hbefore)
    exact ⟨start, t₃, hgaps, .item hitem hgaps' hgaps'' hitems, hrest⟩
  | lastMember hname hcolon hbefore _ hclosed ih =>
    obtain ⟨body, hbody, rfl, hother⟩ := literal_of_quoted hname
    obtain ⟨t₁, hgaps, hmore⟩ := h.gaps_literal hbody
    obtain ⟨t₂, hgaps₂, hmore₂⟩ := hmore.gaps_mark rfl (by decide) hcolon
    obtain ⟨start, t₃, hgaps₃, hvalue, hmore₃⟩ := ih (hmore₂.of_gaps hbefore)
    obtain ⟨t₄, hgaps₄, hrest⟩ := hmore₃.gaps_mark rfl (by decide) hclosed
    exact ⟨_, t₄, hgaps, .lastMember (hother _) hgaps₂ hgaps₃ hvalue hgaps₄, hrest⟩
  | member hname hcolon hbefore _ hcomma hbefore' hnext ih ih' =>
    obtain ⟨c, behind, rfl, hc⟩ := hnext.head
    obtain ⟨body, hbody, rfl, hother⟩ := literal_of_quoted hname
    obtain ⟨t₁, hgaps, hmore⟩ := h.gaps_literal hbody
    obtain ⟨t₂, hgaps₂, hmore₂⟩ := hmore.gaps_mark rfl (by decide) hcolon
    obtain ⟨start, t₃, hgaps₃, hvalue, hmore₃⟩ := ih (hmore₂.of_gaps hbefore)
    obtain ⟨t₄, hgaps₄, hmore₄⟩ := hmore₃.gaps_comma hc hcomma hbefore'
    obtain ⟨start', t₅, hgaps₅, hmembers, hrest⟩ := ih' (hmore₄.of_gaps hbefore')
    exact ⟨_, t₅, hgaps, .member (hother _) hgaps₂ hgaps₃ hvalue hgaps₄ hgaps₅ hmembers, hrest⟩

end Annotated

/-! ## Documents without additions -/

/-- Nothing in the text is overwritten. -/
def Strict (cs : List Char) : Prop := blankComments .code cs = cs ∧ blankCommas .code cs = cs

namespace Strict

theorem nil : Strict [] := ⟨rfl, rfl⟩

theorem cons {c : Char} (hquote : c ≠ '"') (hslash : c ≠ '/')
    (hcomma : c = ',' → closesNext cs = false) (h : Strict cs) : Strict (c :: cs) := by
  constructor
  · rw [blankComments_code hquote hslash, h.1]
  · have hkept : ¬(c == ',' && closesNext cs) = true := by
      intro hblanked
      obtain ⟨hc, hcloses⟩ := Bool.and_eq_true_iff.1 hblanked
      rw [hcomma (eq_of_beq hc)] at hcloses
      cases hcloses
    rw [blankCommas_code hquote, if_neg hkept, h.2]

theorem mark {c : Char} (hmark : isMark c = true) (hcomma : c ≠ ',') (h : Strict cs) :
    Strict (c :: cs) := by
  refine h.cons ?_ ?_ fun hc => absurd hc hcomma
  · rintro rfl
    cases hmark
  · rintro rfl
    cases hmark

theorem gaps (hgaps : Gaps d cs) (h : Strict cs) : Strict d := by
  induction hgaps with
  | none => exact h
  | more hc _ ih =>
    have hne := ne_of_isGap hc
    exact (ih h).cons hne.1 hne.2.1 fun hcomma => absurd hcomma hne.2.2

theorem word {run : List Char} (hrun : ∀ c ∈ run, Json.isScalarChar c = true) (h : Strict cs) :
    Strict (run ++ cs) := by
  induction run with
  | nil => exact h
  | cons c run ih =>
    have hne := ne_of_isScalarChar (hrun c List.mem_cons_self)
    exact (ih fun d hd => hrun d (List.mem_cons_of_mem c hd)).cons hne.1 hne.2.1
      fun hcomma => absurd hcomma hne.2.2

theorem literal {s : String} (hquoted : Json.Quoted s d cs) (h : Strict cs) :
    Strict ('"' :: d) := by
  obtain ⟨body, hbody, rfl, -⟩ := literal_of_quoted hquoted
  have hcomments := congrArg ('"' :: ·) (hbody.blankComments cs)
  have hcommas := congrArg ('"' :: ·) (hbody.blankCommas cs)
  rw [h.1] at hcomments
  rw [h.2] at hcommas
  exact ⟨hcomments, hcommas⟩

theorem comma {c : Char} {behind gap : List Char} (hc : Json.beginsValue c = true)
    (hnext : Gaps gap (c :: behind)) (h : Strict (c :: behind)) : Strict (',' :: gap) :=
  (gaps hnext h).cons (by decide) (by decide) fun _ => Payload.not_closesNext hc hnext

end Strict

/-- **In what is spelt, nothing is overwritten.** -/
theorem strict_of_spells {part : Json.Part} {value : Json} {limits : Json.Limits}
    (hspells : Spells limits part value d rest) (h : Strict rest) : Strict d := by
  induction hspells with
  | scalar hrun => exact .word hrun h
  | text hquoted => exact .literal hquoted h
  | emptyObject _ hclosed | emptyList _ hclosed =>
    have hinside := Strict.gaps hclosed (.mark rfl (by decide) h)
    exact hinside.mark rfl (by decide)
  | object _ hbefore _ ih | list _ hbefore _ ih =>
    exact (Strict.gaps hbefore (ih h)).mark rfl (by decide)
  | lastItem _ hclosed ih => exact ih (.gaps hclosed (h.mark rfl (by decide)))
  | item _ hcomma hbefore hnext ih ih' =>
    obtain ⟨c, behind, rfl, hc⟩ := hnext.head
    exact ih (.gaps hcomma (.comma hc hbefore (ih' h)))
  | lastMember hname hcolon hbefore _ hclosed ih =>
    have hvalue := Strict.gaps hbefore (ih (.gaps hclosed (h.mark rfl (by decide))))
    exact .literal hname (.gaps hcolon (hvalue.mark rfl (by decide)))
  | member hname hcolon hbefore _ hcomma hbefore' hnext ih ih' =>
    obtain ⟨c, behind, rfl, hc⟩ := hnext.head
    have hvalue := Strict.gaps hbefore (ih (.gaps hcomma (.comma hc hbefore' (ih' h))))
    exact .literal hname (.gaps hcolon (hvalue.mark rfl (by decide)))

/-- **Comments and trailing commas do not change a document.** A document that can be read is not
changed by overwriting, and with comments between its tokens and commas behind its last items it is
still read as the same value. -/
theorem readRelaxed_annotated {document : String} {value : Json}
    (h : Json.read document = .ok value) :
    blankRelaxed document.toList = document.toList ∧
      ∀ text, Annotated document.toList text → readRelaxed text = .ok value := by
  obtain ⟨start, rest, hgaps, hspells, hrest⟩ := Json.spells_of_read h
  constructor
  · obtain ⟨hcomments, hcommas⟩ :=
      Strict.gaps hgaps (strict_of_spells hspells (.gaps hrest .nil))
    unfold blankRelaxed
    rw [hcomments, hcommas]
  · intro text hannotated
    obtain ⟨start', text', hgaps', hspells', hmore⟩ := (hannotated.of_gaps hgaps).spells hspells
    unfold readRelaxed
    exact hspells'.read_padded hgaps' (hmore.of_gaps hrest).gaps_end

/-- A list with brackets in its comments and a comma behind its only item. -/
theorem readRelaxed_annotated_item :
    blankRelaxed "[1]".toList = "[1]".toList ∧
      readRelaxed "[1/*]*/, //[\n]".toList = .ok (.list [.int 1]) := by
  have hread : Json.read "[1]" = .ok (.list [.int 1]) := Json.read_of_readChars rfl
  have hblock : Remark ('/' :: '*' :: ([']'] ++ ['*', '/'])) := .block (by decide)
  have hline : Remark ('/' :: '/' :: (['['] ++ ['\n'])) := .line (by decide)
  have hback : Filler [' ', '/', '/', '[', '\n'] := .blank rfl (.remark hline .none)
  have hlist : Annotated ['[', '1', ']']
      ['[', '1', '/', '*', ']', '*', '/', ',', ' ', '/', '/', '[', '\n', ']'] := by
    refine @Annotated.token [] [] ['['] _ _ nofun .none (.mark rfl _) (.mark rfl _) ?_
    have hword : ∀ c ∈ ['1'], Json.isScalarChar c = true := List.forall_mem_singleton.2 rfl
    refine @Annotated.token [] [] ['1'] _ _ nofun .none
      (.word (by decide) hword (Json.stops_cons rfl _))
      (.word (by decide) hword (Json.stops_cons rfl _)) ?_
    exact @Annotated.trailing [] _ _ ']' [] [] nofun (.remark hblock .none) hback rfl
      (.done nofun .none)
  have h := readRelaxed_annotated hread
  exact ⟨h.1, h.2 _ hlist⟩

end DesktopMacro.Payload
