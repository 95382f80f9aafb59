/-
What can be read is found.

The search for a payload goes over a text before the reader does. It counts curly brackets and knows
of strings, but of no comments, and neither does the clean-up that follows: a bracket or a quote in
a comment counts for them as if it were one of the document. Where the comments of an object have
neither, the search ends at the last brace of the object, the clean-up changes nothing, and the
payload is what the reader makes of the whole text.
-/
import DesktopMacro.Proofs.Payload.Cutting

set_option autoImplicit false

namespace DesktopMacro.Payload

open Json (Spells)

variable {cs d r : List Char} {value : Json}

/-! ## What the search and the clean-up see -/

/-- The characters of a text for which another text has something else. -/
def lost : List Char → List Char → List Char
  | c :: cs, b :: bs => if c == b then lost cs bs else c :: lost cs bs
  | _, _ => []

theorem forall_lost_cons {p : Char → Prop} {c b : Char} {bs : List Char} :
    (∀ e ∈ lost (c :: cs) (b :: bs), p e) ↔ (c = b ∨ p c) ∧ ∀ e ∈ lost cs bs, p e := by
  rw [lost]
  split
  · next h => simp [eq_of_beq h]
  · next h =>
    have hne : c ≠ b := by simpa using h
    simp [hne]

/-- Behind a character outside of strings, a regular document ends or goes on. -/
theorem Regular.tail {depth : Nat} {c : Char} (hquote : c ≠ '"')
    (h : Regular depth .outside (c :: d)) : d = [] ∨ ∃ depth', Regular depth' .outside d := by
  cases h with
  | last => exact .inl rfl
  | closed hrest | opened hrest | comma _ hrest | code _ hrest => exact .inr ⟨_, hrest⟩
  | quote => exact absurd rfl hquote

theorem Regular.of_plain {depth : Nat} {c : Char} (hquote : c ≠ '"') (hescape : c ≠ '\\')
    (h : Regular depth .inside (c :: d)) : controlLetter? c = none ∧ Regular depth .inside d := by
  cases h with
  | plain _ _ hcontrol hrest => exact ⟨hcontrol, hrest⟩
  | unquote => exact absurd rfl hquote
  | escape => exact absurd rfl hescape

/-- A character that neither the search nor the clean-up stops at outside of strings. -/
def Unmarked (c : Char) : Prop := c ≠ '"' ∧ c ≠ '{' ∧ c ≠ '}'

theorem unmarked_of_isGap {c : Char} (h : Json.isGap c = true) : Unmarked c := by
  rcases Json.gap_cases h with rfl | rfl | rfl | rfl <;> exact ⟨by decide, by decide, by decide⟩

/-- **What the search and the clean-up make of the rest of an object**: the bracket that closes the
object is found at the end, and nothing is changed. -/
structure Passes (depth : Nat) (position : Position) (previous : Option Char) (escaped : Bool)
    (r behind : List Char) : Prop where
  closes : ClosesAtEnd (Scan.at depth position previous) r behind
  kept : sanitizeFrom position escaped r = r

namespace Passes

variable {depth : Nat} {previous : Option Char} {escaped : Bool} {behind : List Char} {c : Char}

/-- A character of a comment, with more of the comment behind it. -/
theorem hidden (hc : Unmarked c)
    (h : ∀ previous escaped, Passes depth .outside previous escaped r behind)
    (previous : Option Char) (escaped : Bool) :
    Passes depth .outside previous escaped (c :: r) behind := by
  obtain ⟨hquote, hopening, hclosing⟩ := hc
  refine ⟨(h (some c) false).closes.cons (step_other hquote hopening hclosing), ?_⟩
  cases escaped with
  | true => rw [sanitizeFrom, (h none false).kept]
  | false =>
    rw [sanitizeFrom]
    split
    · rw [(h none true).kept]
    · rw [if_neg (by simpa using hquote), (h none false).kept]

/-- The last character of a comment, or one that is in none. -/
theorem shown (hc : Unmarked c) (hescape : c ≠ '\\')
    (h : Passes depth .outside (some c) false r behind) (previous : Option Char) (escaped : Bool) :
    Passes depth .outside previous escaped (c :: r) behind := by
  obtain ⟨hquote, hopening, hclosing⟩ := hc
  refine ⟨h.closes.cons (step_other hquote hopening hclosing), ?_⟩
  cases escaped with
  | true => rw [sanitizeFrom, h.kept]
  | false =>
    rw [sanitizeFrom, if_neg (by simpa using hescape), if_neg (by simpa using hquote), h.kept]

theorem quote (hprevious : previous ≠ some '\\') {position : Position}
    (h : Passes depth position.cross (some '"') false r behind) :
    Passes depth position previous false ('"' :: r) behind := by
  refine ⟨h.closes.cons (step_quote hprevious _ _), ?_⟩
  cases position with
  | outside => rw [sanitizeFrom, if_neg (by decide), if_pos (by decide), h.kept]
  | inside => rw [sanitizeFrom, if_neg (by decide), if_pos (by decide), h.kept]

theorem backslash (h : Passes depth .inside (some '\\') true r behind) :
    Passes depth .inside previous false ('\\' :: r) behind := by
  refine ⟨h.closes.cons (step_inside (fun heq => absurd heq (by decide)) _), ?_⟩
  rw [sanitizeFrom, if_pos (by decide), h.kept]

theorem escaped_char (h : Passes depth .inside (some c) false r behind) :
    Passes depth .inside (some '\\') true (c :: r) behind := by
  refine ⟨h.closes.cons (step_inside (fun _ => rfl) _), ?_⟩
  rw [sanitizeFrom, h.kept]

theorem plain (hquote : c ≠ '"') (hescape : c ≠ '\\') (hcontrol : controlLetter? c = none)
    (h : Passes depth .inside (some c) false r behind) :
    Passes depth .inside previous false (c :: r) behind := by
  refine ⟨h.closes.cons (step_inside (fun heq => absurd heq hquote) _), ?_⟩
  rw [sanitizeFrom, if_neg (by simpa using hescape), if_neg (by simpa using hquote), escapeControl,
    hcontrol, h.kept]
  rfl

/-- A character of the document outside of strings. -/
theorem code (hquote : c ≠ '"') (hr : Regular depth .outside (c :: d)) (hd : d = [] → r = [])
    (ih : ∀ {depth}, Regular depth .outside d → ∀ previous ≠ some '\\',
      Passes depth .outside previous false r behind) :
    Passes depth .outside previous false (c :: r) behind := by
  refine ⟨closesAtEnd_code hquote hr hd (fun hrest previous hprevious =>
    (ih hrest previous hprevious).closes) previous, ?_⟩
  have hkept : sanitizeFrom .outside false r = r := by
    rcases hr.tail hquote with hnil | ⟨depth', hrest⟩
    · rw [hd hnil]
      rfl
    · exact (ih hrest none nofun).kept
  have hescape := (hr.ne_of_code hquote).1
  rw [sanitizeFrom, if_neg (by simpa using hescape), if_neg (by simpa using hquote), hkept]

end Passes

/-! ### Regions -/

/-- What overwriting commas takes a region for when comments are gone. -/
def Region.uncommented : Region → Region
  | lineComment | blockComment => code
  | region => region

/-- What is left of a regular document in a region. Behind a backslash, the backslash is put
back. -/
def RegularIn (depth : Nat) : Region → List Char → Prop
  | .string, u => Regular depth .inside u
  | .escape, u => Regular depth .inside ('\\' :: u)
  | _, u => Regular depth .outside u

/-- Does a string literal of the rest end in an escaped backslash? -/
def endsInBackslashIn : Region → List Char → Bool
  | .string, b => endsInBackslash .inside b
  | .escape, b => endsInBackslash .inside ('\\' :: b)
  | _, b => endsInBackslash .outside b

/-- Where the search and the clean-up stand in a region. Inside of a comment they may have taken any
backslash for one that counts. -/
inductive Reaches : Region → List Char → Position → Option Char → Bool → Prop where
  | code {b : List Char} {previous : Option Char} (h : b.head? = some '"' → previous ≠ some '\\') :
    Reaches .code b .outside previous false
  | string {b : List Char} {previous : Option Char}
    (h : b.head? = some '"' → previous ≠ some '\\') : Reaches .string b .inside previous false
  | escape (b : List Char) : Reaches .escape b .inside (some '\\') true
  | line (b : List Char) (previous : Option Char) (escaped : Bool) :
    Reaches .lineComment b .outside previous escaped
  | block (b : List Char) (previous : Option Char) (escaped : Bool) :
    Reaches .blockComment b .outside previous escaped

theorem Overwritten.nil_of_nil (h : Overwritten cs []) : cs = [] := by
  cases h
  rfl

/-- A blank that is left of a comment is passed over. -/
theorem of_blank {depth : Nat} {b c : Char} {bs : List Char} (hb : Json.isGap b = true)
    (hlost : ∀ e ∈ lost (c :: cs) (b :: bs), Unmarked e)
    (hr : Regular depth .outside (blankCommas .code (b :: bs)))
    (hends : endsInBackslash .outside (b :: bs) = false) :
    Unmarked c ∧ (∀ e ∈ lost cs bs, Unmarked e) ∧
      Regular depth .outside (blankCommas .code bs) ∧ endsInBackslash .outside bs = false := by
  have hgap : ∀ e ∈ [b], Json.isGap e = true := List.forall_mem_singleton.2 hb
  have hquote : ∀ e ∈ [b], e ≠ '"' := List.forall_mem_singleton.2 (ne_of_isGap hb).1
  obtain ⟨hc, hmore⟩ := forall_lost_cons.1 hlost
  refine ⟨?_, hmore, ?_, ?_⟩
  · rcases hc with rfl | hunmarked
    · exact unmarked_of_isGap hb
    · exact hunmarked
  · rw [← List.singleton_append, blankCommas_gaps hgap] at hr
    exact hr.of_gaps hgap
  · rwa [← List.singleton_append, endsInBackslash_append hquote] at hends

/-- **Comments without quotes and curly brackets do not matter.** -/
theorem passes_of_unmarked {region : Region} {depth : Nat} {position : Position}
    {previous : Option Char} {escaped : Bool}
    (hlost : ∀ e ∈ lost r (blankComments region r), Unmarked e)
    (hr : RegularIn depth region (blankCommas region.uncommented (blankComments region r)))
    (hends : endsInBackslashIn region (blankComments region r) = false)
    (hreaches : Reaches region (blankComments region r) position previous escaped)
    (behind : List Char) : Passes depth position previous escaped r behind := by
  fun_induction blankComments region r generalizing depth position previous escaped with
  | case1 region =>
    cases region with
    | escape =>
      cases hr with
      | plain _ hescape => exact absurd rfl hescape
    | code | string | lineComment | blockComment => cases hr
  | case2 cs ih =>
    obtain ⟨hslash, hlost, hr, hends⟩ := of_blank rfl hlost hr hends
    obtain ⟨-, hlost, hr, hends⟩ := of_blank rfl hlost hr hends
    cases hreaches
    exact .hidden hslash (.hidden hslash fun previous escaped =>
      ih hlost hr hends (.line _ previous escaped)) _ _
  | case3 cs ih =>
    obtain ⟨hslash, hlost, hr, hends⟩ := of_blank rfl hlost hr hends
    obtain ⟨hstar, hlost, hr, hends⟩ := of_blank rfl hlost hr hends
    cases hreaches
    exact .hidden hslash (.hidden hstar fun previous escaped =>
      ih hlost hr hends (.block _ previous escaped)) _ _
  | case4 c cs hline hblock ih =>
    obtain ⟨-, hlost⟩ := forall_lost_cons.1 hlost
    cases hreaches with
    | code hprevious =>
    by_cases hquote : c = '"'
    · subst hquote
      cases hr with
      | quote hr => exact .quote (hprevious rfl) (ih hlost hr hends (.string fun _ => by decide))
      | code hcode => cases hcode
    · rw [if_neg (by simpa using hquote)] at ih hlost hr hends
      have hends' : endsInBackslash .outside (blankComments .code cs) = false := by
        rw [← List.singleton_append] at hends
        exact (endsInBackslash_append (List.forall_mem_singleton.2 hquote)).symm.trans hends
      have hr : Regular depth .outside (blankCommas .code (c :: blankComments .code cs)) := hr
      rw [blankCommas_code hquote] at hr
      cases hblanked : c == ',' && closesNext (blankComments .code cs) with
      | true =>
        -- A comma that becomes a blank is no character of the document.
        rw [hblanked] at hr
        obtain rfl := eq_of_beq (Bool.and_eq_true_iff.1 hblanked).1
        have hr' : Regular depth .outside (blankCommas .code (blankComments .code cs)) :=
          hr.of_code rfl
        exact .shown ⟨by decide, by decide, by decide⟩ (by decide)
          (ih hlost hr' hends' (.code fun _ => by decide)) _ _
      | false =>
        rw [hblanked] at hr
        refine .code hquote hr (fun hnil => ?_) fun hr' previous hprevious =>
          ih hlost hr' hends' (.code fun _ => hprevious)
        have hcommas := overwritten_blankCommas .code (blankComments .code cs)
        rw [hnil] at hcommas
        have hcomments := overwritten_blankComments .code cs
        rw [hcommas.nil_of_nil] at hcomments
        exact hcomments.nil_of_nil
  | case5 c cs ih =>
    obtain ⟨-, hlost⟩ := forall_lost_cons.1 hlost
    cases hreaches with
    | string hprevious =>
    by_cases hescape : c = '\\'
    · subst hescape
      exact .backslash (ih hlost hr hends (.escape _))
    rw [if_neg (by simpa using hescape)] at ih hlost hr hends
    by_cases hquote : c = '"'
    · subst hquote
      cases hr with
      | unquote hr => exact .quote (hprevious rfl) (ih hlost hr hends (.code fun _ => by decide))
      | plain hquote => exact absurd rfl hquote
    · rw [if_neg (by simpa using hquote)] at ih hlost hr hends
      have hends' : endsInBackslash .inside (blankComments .string cs) = false :=
        (endsInBackslash_plain hquote hescape _).symm.trans hends
      have hr : Regular depth .inside (blankCommas .string (c :: blankComments .string cs)) := hr
      rw [blankCommas_string hquote hescape] at hr
      obtain ⟨hcontrol, hr⟩ := hr.of_plain hquote hescape
      exact .plain hquote hescape hcontrol (ih hlost hr hends'
        (.string fun _ heq => hescape (Option.some.inj heq)))
  | case6 c cs ih =>
    obtain ⟨-, hlost⟩ := forall_lost_cons.1 hlost
    cases hreaches
    have hboth : (c == '\\' && (blankComments .string cs).head? == some '"') = false
        ∧ endsInBackslash .inside (blankComments .string cs) = false := Bool.or_eq_false_iff.1 hends
    cases hr with
    | plain _ hescape => exact absurd rfl hescape
    | escape _ hr =>
      refine .escaped_char (ih hlost hr hboth.2 (.string fun hquote heq => ?_))
      -- An escaped backslash right before a quote would end the literal.
      have hnot := hboth.1
      rw [Option.some.inj heq, hquote] at hnot
      cases hnot
  | case7 c cs hc ih =>
    obtain rfl := eq_of_beq hc
    obtain ⟨hbreak, hlost, hr, hends⟩ := of_blank rfl hlost hr hends
    cases hreaches
    exact .shown hbreak (by decide) (ih hlost hr hends (.code fun _ => by decide)) _ _
  | case8 c cs hc ih =>
    obtain ⟨hunmarked, hlost, hr, hends⟩ := of_blank (isGap_blankOut c) hlost hr hends
    cases hreaches
    exact .hidden hunmarked (fun previous escaped =>
      ih hlost hr hends (.line _ previous escaped)) _ _
  | case9 cs ih =>
    obtain ⟨hstar, hlost, hr, hends⟩ := of_blank rfl hlost hr hends
    obtain ⟨hslash, hlost, hr, hends⟩ := of_blank rfl hlost hr hends
    cases hreaches
    have hbehind : Passes depth .outside (some '/') false cs behind :=
      ih hlost hr hends (.code fun _ => by decide)
    exact .hidden hstar (.shown hslash (by decide) hbehind) _ _
  | case10 c cs hopen ih =>
    obtain ⟨hunmarked, hlost, hr, hends⟩ := of_blank (isGap_blankOut c) hlost hr hends
    cases hreaches
    exact .hidden hunmarked (fun previous escaped =>
      ih hlost hr hends (.block _ previous escaped)) _ _

/-! ## Extraction -/

theorem attempt_of_read {text : List Char} (hclean : sanitize text = text)
    (hread : readRelaxed text = .ok value) :
    attempt text = .found ⟨String.ofList text, value, none⟩ := by
  unfold attempt attemptRead
  rw [hclean, hread]

theorem attempt_of_complaint {text : List Char} {what : Json.Complaint} {place : Json.Place}
    (hclean : sanitize text = text) (hrepaired : repairStrings text = text)
    (hread : readRelaxed text = .error (.complaint what place))
    (hplace : repairAt? text place.line place.column = none) :
    attempt text = .complaint what place := by
  unfold attempt attemptRead
  simp only [hclean, hrepaired, hread, hplace]

/-- **An object that starts a text is its payload**, if it is spelt when its comments and trailing
commas are gone, and nothing in it misleads the search. -/
theorem extract_of_unmarked {text : String} {behind : List Char}
    (htext : text.toList = '{' :: r ++ behind) (hblank : blankRelaxed ('{' :: r) = '{' :: d)
    (hspells : Spells .usual (.value 0) value ('{' :: d) [])
    (hends : endsInBackslash .outside (blankComments .code r) = false)
    (hlost : ∀ c ∈ lost r (blankComments .code r), Unmarked c) :
    extract text = .ok ⟨String.ofList ('{' :: r), value, none⟩ := by
  have hregular : Regular 0 .outside (blankRelaxed r) := by
    have hcode := blankRelaxed_code (c := '{') (by decide) (by decide) (by decide) r
    rw [← hblank, hcode] at hspells
    exact regular_of_object hspells
  have hpasses : Passes 0 .outside none false r behind :=
    passes_of_unmarked hlost hregular hends (.code fun _ => by decide) behind
  have hcandidate : candidate? .curly text.toList = some ('{' :: r) := by
    have hnone : '{' ∉ ([] : List Char) := List.not_mem_nil
    rw [htext]
    exact candidate?_curly hnone hpasses.closes
  have hclean : sanitize ('{' :: r) = '{' :: r := by
    unfold sanitize
    rw [sanitizeFrom, if_neg (by decide), if_neg (by decide), hpasses.kept]
  have hobject : readRelaxed ('{' :: r) = .ok value := by
    unfold readRelaxed
    rw [hblank]
    exact hspells.read_document (.none [])
  unfold extract candidates
  simp only [List.filterMap_cons, hcandidate, extractFrom, attempt_of_read hclean hobject]

/-- **What the reader accepts, the extraction finds.** Where an object that starts a text can be
read with its comments and trailing commas, the payload of the text is that object, with the value
that was read: if no string of it ends in an escaped backslash, and no comment in it has a quote or
a curly bracket. -/
theorem extract_readable (text : String) (value : Json)
    (hread : readRelaxed text.toList = .ok value) (hopens : text.toList.head? = some '{')
    (hends : endsInBackslash .outside (blankComments .code (upToLastBrace text.toList)) = false)
    (hcomments : ∀ c ∈ lost (upToLastBrace text.toList)
      (blankComments .code (upToLastBrace text.toList)), c ≠ '"' ∧ c ≠ '{' ∧ c ≠ '}') :
    extract text = .ok ⟨String.ofList (upToLastBrace text.toList), value, none⟩ := by
  obtain ⟨r, d, behind, hupTo, htext, hblank, hspells⟩ := spells_upToLastBrace hread hopens
  rw [hupTo] at hends hcomments ⊢
  rw [blankComments_code (by decide) (by decide)] at hends hcomments
  exact extract_of_unmarked htext hblank hspells hends (forall_lost_cons.1 hcomments).2

/-- An object with a remark in it and a comma behind its only member, and a remark with a brace
behind the object. -/
theorem extract_readable_remark :
    extract "\x7b\"a\": 1 /* one */, \x7d // \x7d"
      = .ok ⟨String.ofList (upToLastBrace "\x7b\"a\": 1 /* one */, \x7d // \x7d".toList),
        .object [("a", .int 1)], none⟩ := by
  have hchars : "\x7b\"a\": 1 /* one */, \x7d // \x7d".toList
      = ['{', '"', 'a', '"', ':', ' ', '1', ' ', '/', '*', ' ', 'o', 'n', 'e', ' ', '*', '/', ',',
        ' ', '}', ' ', '/', '/', ' ', '}'] := by
    decide +kernel
  have hread : readRelaxed "\x7b\"a\": 1 /* one */, \x7d // \x7d".toList
      = .ok (.object [("a", .int 1)]) := by
    refine Json.read_of_readChars ?_
    rw [String.toList_ofList, hchars]
    rfl
  have hlost : lost (upToLastBrace "\x7b\"a\": 1 /* one */, \x7d // \x7d".toList)
      (blankComments .code (upToLastBrace "\x7b\"a\": 1 /* one */, \x7d // \x7d".toList))
        = ['/', '*', 'o', 'n', 'e', '*', '/'] := by
    rw [hchars]
    decide +kernel
  refine extract_readable _ _ hread (by rw [hchars]; rfl) ?_ ?_
  · rw [hchars]
    decide +kernel
  · rw [hlost]
    simp

/-- **A brace in a comment ends the search too early.** The reader reads an object here, but for the
extraction the first candidate ends in the middle of the comment, and what it finds is the list
inside of the object. -/
theorem extract_brace_in_comment :
    readRelaxed "\x7b\"a\": []/*\x7d*/\x7d".toList = .ok (.object [("a", .list [])]) ∧
      "\x7b\"a\": []/*\x7d*/\x7d".toList.head? = some '{' ∧
      endsInBackslash .outside (blankComments .code "\x7b\"a\": []/*\x7d*/\x7d".toList) = false ∧
      extract "\x7b\"a\": []/*\x7d*/\x7d" = .ok ⟨"[]", .list [], none⟩ := by
  have hchars : "\x7b\"a\": []/*\x7d*/\x7d".toList
      = ['{', '"', 'a', '"', ':', ' ', '[', ']', '/', '*', '}', '*', '/', '}'] := by
    decide +kernel
  rw [hchars]
  refine ⟨?_, rfl, by decide, ?_⟩
  · refine Json.read_of_readChars ?_
    rw [String.toList_ofList]
    rfl
  have hcandidates : candidates
      ['{', '"', 'a', '"', ':', ' ', '[', ']', '/', '*', '}', '*', '/', '}']
      = [['{', '"', 'a', '"', ':', ' ', '[', ']', '/', '*', '}'], ['[', ']']] := by
    decide +kernel
  have hobject : attempt ['{', '"', 'a', '"', ':', ' ', '[', ']', '/', '*', '}']
      = .complaint .expectingComma ⟨1, 12, 11⟩ := by
    refine attempt_of_complaint rfl rfl ?_ rfl
    unfold readRelaxed Json.read Json.readWithin
    rw [String.toList_ofList]
    rfl
  have hlist : attempt ['[', ']'] = .found ⟨"[]", .list [], none⟩ := by
    refine attempt_of_read rfl (Json.read_of_readChars ?_)
    rw [String.toList_ofList]
    rfl
  unfold extract
  rw [hchars, hcandidates]
  simp only [extractFrom, hobject, hlist]

end DesktopMacro.Payload
