/-
Texts cut behind a brace.

What is spelt at the beginning of a text is spelt whatever stands behind it, and what comments and
trailing commas leave of a text up to a brace does not depend on what stands behind the brace. So
an object that is read at the beginning of a text is an object when the text is cut behind its last
brace.
-/
import DesktopMacro.Proofs.Payload.Annotation
import DesktopMacro.Proofs.Payload.Extraction

set_option autoImplicit false

namespace DesktopMacro.Payload

open Json (Gaps Spells Stops)

variable {cs d rest : List Char} {value : Json}

/-! ## What is spelt, without what stands behind it -/

theorem cut_gaps (h : Gaps cs rest) :
    ∃ front, cs = front ++ rest ∧ ∀ other, Gaps (front ++ other) other := by
  induction h with
  | none cs => exact ⟨[], rfl, .none⟩
  | @more c cs rest hc _ ih =>
    obtain ⟨front, rfl, hother⟩ := ih
    exact ⟨c :: front, rfl, fun other => .more hc (hother other)⟩

/-- Blanks and a mark behind them. -/
theorem cut_mark {c : Char} (hc : Json.isScalarChar c = false) (h : Gaps cs (c :: rest)) :
    ∃ front, cs = front ++ rest ∧ ∀ other,
      Gaps (front ++ other) (c :: other) ∧ Stops (front ++ other) := by
  obtain ⟨front, rfl, hother⟩ := cut_gaps h
  refine ⟨front ++ [c], (List.append_cons front c rest), fun other => ?_⟩
  rw [List.append_assoc]
  have hgaps : Gaps (front ++ c :: other) (c :: other) := hother (c :: other)
  exact ⟨hgaps, hgaps.stops (Json.stops_cons hc other)⟩

theorem cut_quoted {s : String} (h : Json.Quoted s cs rest) :
    ∃ front, cs = front ++ rest ∧ ∀ other, Json.Quoted s (front ++ other) other := by
  obtain ⟨front, -, hcs, hother⟩ := literal_of_quoted h
  exact ⟨front, hcs, hother⟩

/-- **What is spelt does not depend on what stands behind it**, as long as a number or a word cannot
go on there. -/
theorem cut_spells {limits : Json.Limits} {part : Json.Part}
    (h : Spells limits part value cs rest) :
    ∃ front, cs = front ++ rest ∧
      ∀ other, Stops other → Spells limits part value (front ++ other) other := by
  induction h with
  | @scalar _ _ run _ hrun hread => exact ⟨run, rfl, fun other hother => .scalar hrun hread hother⟩
  | text hquoted =>
    obtain ⟨front, rfl, hother⟩ := cut_quoted hquoted
    exact ⟨'"' :: front, rfl, fun other _ => .text (hother other)⟩
  | emptyObject hallow hclosed =>
    obtain ⟨front, rfl, hother⟩ := cut_mark rfl hclosed
    exact ⟨'{' :: front, rfl, fun other _ => .emptyObject hallow (hother other).1⟩
  | object hallow hbefore _ ih =>
    obtain ⟨gaps, rfl, hgaps⟩ := cut_gaps hbefore
    obtain ⟨front, rfl, hmembers⟩ := ih
    refine ⟨'{' :: (gaps ++ front), by simp, fun other hother => ?_⟩
    rw [List.cons_append, List.append_assoc]
    exact .object hallow (hgaps _) (hmembers other hother)
  | emptyList hallow hclosed =>
    obtain ⟨front, rfl, hother⟩ := cut_mark rfl hclosed
    exact ⟨'[' :: front, rfl, fun other _ => .emptyList hallow (hother other).1⟩
  | list hallow hbefore _ ih =>
    obtain ⟨gaps, rfl, hgaps⟩ := cut_gaps hbefore
    obtain ⟨front, rfl, hitems⟩ := ih
    refine ⟨'[' :: (gaps ++ front), by simp, fun other hother => ?_⟩
    rw [List.cons_append, List.append_assoc]
    exact .list hallow (hgaps _) (hitems other hother)
  | lastItem _ hclosed ih =>
    obtain ⟨closing, rfl, hclosing⟩ := cut_mark rfl hclosed
    obtain ⟨front, rfl, hitem⟩ := ih
    refine ⟨front ++ closing, by simp, fun other _ => ?_⟩
    rw [List.append_assoc]
    exact .lastItem (hitem _ (hclosing other).2) (hclosing other).1
  | item _ hcomma hbefore _ ih ih' =>
    obtain ⟨front', rfl, hmore⟩ := ih'
    obtain ⟨gaps, rfl, hgaps⟩ := cut_gaps hbefore
    obtain ⟨comma, rfl, hcomma'⟩ := cut_mark rfl hcomma
    obtain ⟨front, rfl, hitem⟩ := ih
    refine ⟨front ++ (comma ++ (gaps ++ front')), by simp, fun other hother => ?_⟩
    simp only [List.append_assoc]
    exact .item (hitem _ (hcomma' _).2) (hcomma' _).1 (hgaps _) (hmore other hother)
  | lastMember hname hcolon hbefore _ hclosed ih =>
    obtain ⟨closing, rfl, hclosing⟩ := cut_mark rfl hclosed
    obtain ⟨front, rfl, hvalue⟩ := ih
    obtain ⟨gaps, rfl, hgaps⟩ := cut_gaps hbefore
    obtain ⟨colon, rfl, hcolon'⟩ := cut_mark rfl hcolon
    obtain ⟨body, rfl, hbody⟩ := cut_quoted hname
    refine ⟨'"' :: (body ++ (colon ++ (gaps ++ (front ++ closing)))), by simp, fun other _ => ?_⟩
    simp only [List.cons_append, List.append_assoc]
    exact .lastMember (hbody _) (hcolon' _).1 (hgaps _) (hvalue _ (hclosing other).2)
      (hclosing other).1
  | member hname hcolon hbefore _ hcomma hbefore' _ ih ih' =>
    obtain ⟨front', rfl, hmore⟩ := ih'
    obtain ⟨gaps', rfl, hgaps'⟩ := cut_gaps hbefore'
    obtain ⟨comma, rfl, hcomma'⟩ := cut_mark rfl hcomma
    obtain ⟨front, rfl, hvalue⟩ := ih
    obtain ⟨gaps, rfl, hgaps⟩ := cut_gaps hbefore
    obtain ⟨colon, rfl, hcolon'⟩ := cut_mark rfl hcolon
    obtain ⟨body, rfl, hbody⟩ := cut_quoted hname
    refine ⟨'"' :: (body ++ (colon ++ (gaps ++ (front ++ (comma ++ (gaps' ++ front')))))), by simp,
      fun other hother => ?_⟩
    simp only [List.cons_append, List.append_assoc]
    exact .member (hbody _) (hcolon' _).1 (hgaps _) (hvalue _ (hcomma' _).2) (hcomma' _).1
      (hgaps' _) (hmore other hother)

/-! ## The text of an object -/

/-- The text up to its last closing brace, those in comments apart. -/
def upToLastBrace (text : List Char) : List Char :=
  text.take ((blankRelaxed text).reverse.dropWhile (· != '}')).length

theorem ne_brace_of_isGap {c : Char} (h : Json.isGap c = true) : c ≠ '}' := by
  rintro rfl
  cases h

/-- **What is left of a text up to a brace** is what is left of the text that ends there. -/
def LeftUpTo (blank : List Char → List Char) (cs w : List Char) : Prop :=
  ∃ s y, cs = s ++ '}' :: y ∧ s.length = w.length ∧ blank (s ++ ['}']) = w ++ ['}']

namespace LeftUpTo

variable {blank blank' : List Char → List Char} {c : Char} {w x : List Char}

/-- Behind a character that stays. -/
theorem cons (h : c :: blank' cs = w ++ '}' :: x) (hbrace : blank ['}'] = ['}'])
    (hblank : ∀ s y, cs = s ++ '}' :: y → blank (c :: (s ++ ['}'])) = c :: blank' (s ++ ['}']))
    (ih : ∀ {w}, blank' cs = w ++ '}' :: x → LeftUpTo blank' cs w) :
    LeftUpTo blank (c :: cs) w := by
  cases w with
  | nil =>
    obtain ⟨rfl, -⟩ := List.cons.inj h
    exact ⟨[], cs, rfl, rfl, hbrace⟩
  | cons d w =>
    obtain ⟨rfl, htail⟩ := List.cons.inj h
    obtain ⟨s, y, rfl, hlength, hleft⟩ := ih htail
    refine ⟨c :: s, y, rfl, congrArg (· + 1) hlength, ?_⟩
    rw [List.cons_append, hblank s y rfl, hleft]
    rfl

/-- Behind characters that become blanks. -/
theorem append (front left : List Char) (hgaps : ∀ b ∈ left, Json.isGap b = true)
    (hsame : front.length = left.length) (h : left ++ blank' cs = w ++ '}' :: x)
    (hblank : ∀ s y, cs = s ++ '}' :: y →
      blank (front ++ (s ++ ['}'])) = left ++ blank' (s ++ ['}']))
    (ih : ∀ {w}, blank' cs = w ++ '}' :: x → LeftUpTo blank' cs w) :
    LeftUpTo blank (front ++ cs) w := by
  obtain ⟨w, rfl, htail⟩ : ∃ w', w = left ++ w' ∧ blank' cs = w' ++ '}' :: x := by
    rcases List.append_eq_append_iff.1 h with ⟨w', hw, hx⟩ | ⟨more, hleft, hx⟩
    · exact ⟨w', hw, hx⟩
    · cases more with
      | nil => exact ⟨[], by simpa using hleft.symm, by simpa using hx.symm⟩
      | cons b more =>
        -- A brace would be among the blanks.
        obtain rfl := (List.cons.inj hx).1
        rw [hleft] at hgaps
        cases hgaps '}' (List.mem_append_right w List.mem_cons_self)
  obtain ⟨s, y, rfl, hlength, hleft⟩ := ih htail
  refine ⟨front ++ s, y, by rw [List.append_assoc], by simp [hsame, hlength], ?_⟩
  rw [List.append_assoc, hblank s y rfl, hleft, List.append_assoc]

end LeftUpTo

/-- What stands behind a character where the text is cut stood there before. -/
theorem head_upTo {s y more : List Char} {e : Char} (h : s ++ ['}'] = e :: more) :
    ∃ more', s ++ '}' :: y = e :: more' := by
  cases s with
  | nil => exact ⟨y, by rw [← (List.cons.inj h).1]; rfl⟩
  | cons f s => exact ⟨s ++ '}' :: y, by rw [← (List.cons.inj h).1]; rfl⟩

theorem blankComments_upTo {region : Region} {w x : List Char}
    (h : blankComments region cs = w ++ '}' :: x) : LeftUpTo (blankComments region) cs w := by
  have hblanks : ∀ b ∈ [' ', ' '], Json.isGap b = true :=
    List.forall_mem_cons.2 ⟨rfl, List.forall_mem_singleton.2 rfl⟩
  have hblank : ∀ c, ∀ b ∈ [blankOut c], Json.isGap b = true :=
    fun c => List.forall_mem_singleton.2 (isGap_blankOut c)
  fun_induction blankComments region cs generalizing w with
  | case1 => simp at h
  | case2 cs ih => exact .append ['/', '/'] [' ', ' '] hblanks rfl h (fun s y hs => rfl) ih
  | case3 cs ih => exact .append ['/', '*'] [' ', ' '] hblanks rfl h (fun s y hs => rfl) ih
  | case4 c cs hline hblock ih =>
    refine .cons h rfl (fun s y hs => ?_) ih
    refine blankComments.eq_4 c (s ++ ['}']) (fun more hc heq => ?_) (fun more hc heq => ?_)
    · obtain ⟨more', heq'⟩ := head_upTo (y := y) heq
      exact hline more' hc (hs.trans heq')
    · obtain ⟨more', heq'⟩ := head_upTo (y := y) heq
      exact hblock more' hc (hs.trans heq')
  | case5 c cs ih => exact .cons h rfl (fun s y hs => by rw [blankComments]) ih
  | case6 c cs ih => exact .cons h rfl (fun s y hs => by rw [blankComments]) ih
  | case7 c cs hc ih =>
    have hbreak : ∀ b ∈ [c], Json.isGap b = true := by
      rw [eq_of_beq hc]
      exact List.forall_mem_singleton.2 rfl
    refine .append [c] [c] hbreak rfl h (fun s y hs => ?_) ih
    rw [List.singleton_append, blankComments, if_pos hc]
    rfl
  | case8 c cs hc ih =>
    refine .append [c] [blankOut c] (hblank c) rfl h (fun s y hs => ?_) ih
    rw [List.singleton_append, blankComments, if_neg hc]
    rfl
  | case9 cs ih => exact .append ['*', '/'] [' ', ' '] hblanks rfl h (fun s y hs => rfl) ih
  | case10 c cs hopen ih =>
    refine .append [c] [blankOut c] (hblank c) rfl h (fun s y hs => ?_) ih
    refine blankComments.eq_9 c (s ++ ['}']) fun more hc heq => ?_
    obtain ⟨more', heq'⟩ := head_upTo (y := y) heq
    exact hopen more' hc (hs.trans heq')

/-- Whether a closing bracket is next is settled where the text is cut. -/
theorem closesNext_upTo (s y : List Char) :
    closesNext (s ++ ['}']) = closesNext (s ++ '}' :: y) := by
  induction s with
  | nil => rfl
  | cons c s ih =>
    cases hc : Text.isBlank c with
    | true => rw [List.cons_append, List.cons_append, closesNext_blank hc, closesNext_blank hc, ih]
    | false => rw [List.cons_append, List.cons_append, closesNext_char hc, closesNext_char hc]

theorem blankCommas_upTo {region : Region} {w x : List Char}
    (h : blankCommas region cs = w ++ '}' :: x) : LeftUpTo (blankCommas region) cs w := by
  have hbrace : ∀ region, blankCommas region ['}'] = ['}'] := by
    intro region
    cases region <;> rfl
  fun_induction blankCommas region cs generalizing w with
  | case1 => simp at h
  | case2 c cs ih => exact .cons h (hbrace _) (fun s y hs => by rw [blankCommas]) ih
  | case3 c cs ih => exact .cons h (hbrace _) (fun s y hs => by rw [blankCommas]) ih
  | case4 region c cs hstring hescape hc ih =>
    refine .cons h (hbrace _) (fun s y hs => ?_) ih
    rw [blankCommas.eq_4 _ _ _ hstring hescape, if_pos hc]
  | case5 region c cs hstring hescape hc ih =>
    have hread : ∀ s y, cs = s ++ '}' :: y → blankCommas region (c :: (s ++ ['}']))
        = (if c == ',' && closesNext cs then ' ' else c) :: blankCommas region (s ++ ['}']) := by
      intro s y hs
      rw [blankCommas.eq_4 _ _ _ hstring hescape, if_neg hc, closesNext_upTo s y, ← hs]
    cases hblanked : c == ',' && closesNext cs with
    | true =>
      rw [hblanked] at h hread
      exact .append [c] [' '] (List.forall_mem_singleton.2 rfl) rfl h hread ih
    | false =>
      rw [hblanked] at h hread
      exact .cons h (hbrace _) hread ih

theorem blankRelaxed_upTo {w x : List Char} (h : blankRelaxed cs = w ++ '}' :: x) :
    LeftUpTo blankRelaxed cs w := by
  obtain ⟨s, y, hs, hlength, hleft⟩ := blankCommas_upTo h
  obtain ⟨s', y', rfl, hlength', hleft'⟩ := blankComments_upTo hs
  refine ⟨s', y', rfl, hlength'.trans hlength, ?_⟩
  unfold blankRelaxed
  rw [hleft', hleft]

theorem Regular.ends {depth : Nat} {position : Position} (h : Regular depth position d) :
    ∃ w, d = w ++ ['}'] := by
  induction h with
  | last => exact ⟨[], rfl⟩
  | closed _ ih | opened _ ih | comma _ _ ih | code _ _ ih | quote _ ih | unquote _ ih
  | plain _ _ _ _ ih =>
    obtain ⟨w, rfl⟩ := ih
    exact ⟨_ :: w, rfl⟩
  | escape c _ ih =>
    obtain ⟨w, rfl⟩ := ih
    exact ⟨'\\' :: c :: w, rfl⟩

theorem upToLastBrace_eq {front left : List Char} (hleft : blankRelaxed cs = left ++ '}' :: rest)
    (hrest : ∀ c ∈ rest, Json.isGap c = true) (hlength : front.length = left.length)
    (y : List Char) (hcs : cs = front ++ '}' :: y) : upToLastBrace cs = front ++ ['}'] := by
  have hdrop : (blankRelaxed cs).reverse.dropWhile (· != '}') = '}' :: left.reverse := by
    rw [hleft, List.reverse_append, List.reverse_cons, List.append_assoc,
      List.dropWhile_append_of_pos]
    · rfl
    · intro c hc
      exact bne_iff_ne.2 (ne_brace_of_isGap (hrest c (List.mem_reverse.1 hc)))
  unfold upToLastBrace
  rw [hdrop, List.length_cons, List.length_reverse, ← hlength, hcs, List.append_cons,
    List.take_left' (by simp)]

/-- **An object ends at its last brace.** What is read as an object is an object up to the last
brace, with nothing but comments and blanks behind it. -/
theorem spells_upToLastBrace {text : List Char} (hread : readRelaxed text = .ok value)
    (hopens : text.head? = some '{') :
    ∃ r d behind, upToLastBrace text = '{' :: r ∧ text = '{' :: r ++ behind ∧
      blankRelaxed ('{' :: r) = '{' :: d ∧ Spells .usual (.value 0) value ('{' :: d) [] := by
  obtain ⟨cs, rfl⟩ := List.head?_eq_some_iff.1 hopens
  obtain ⟨start, rest, hgaps, hspells, hrest⟩ := Json.spells_of_read hread
  rw [String.toList_ofList] at hgaps
  have hopen : blankRelaxed ('{' :: cs) = '{' :: blankRelaxed cs :=
    blankRelaxed_code (by decide) (by decide) (by decide) cs
  have hstart : start = blankRelaxed ('{' :: cs) := by
    rw [hopen] at hgaps ⊢
    cases hgaps with
    | none => rfl
    | more hc => cases hc
  obtain ⟨front, hfront, hcut⟩ := cut_spells hspells
  have hobject := hcut [] Json.stops_nil
  rw [List.append_nil] at hobject
  obtain ⟨c, d, rfl, -⟩ := hobject.head
  rw [hstart] at hfront
  obtain rfl : '{' = c := (List.cons.inj (hopen.symm.trans hfront)).1
  obtain ⟨w, rfl⟩ := (regular_of_object hobject).ends
  have hleft : blankRelaxed ('{' :: cs) = ('{' :: w) ++ '}' :: rest := by simpa using hfront
  obtain ⟨s, y, htext, hlength, hcut'⟩ := blankRelaxed_upTo hleft
  have hupTo := upToLastBrace_eq hleft (isGap_of_mem hrest) hlength y htext
  cases s with
  | nil => cases htext
  | cons e s =>
    obtain ⟨rfl, rfl⟩ := List.cons.inj htext
    exact ⟨s ++ ['}'], w ++ ['}'], y, hupTo, by simp, hcut', hobject⟩

end DesktopMacro.Payload
