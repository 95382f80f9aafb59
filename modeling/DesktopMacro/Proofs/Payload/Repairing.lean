/-
The repair hits the character that was reported.

A reader reports a line and a column, and the repair cuts the text into lines and changes one of
them. The place of an offset leads back to the offset: the character there is the only one that is
replaced, a line break behind a line like any other, and a line and a column that no offset has are
refused.

What is reported was found in a text with its comments and trailing commas overwritten. Every
character of it stands where it stood, and a line break is never overwritten, so the place means the
same offset in the text as it was given.
-/
import DesktopMacro.Payload.Extraction
import DesktopMacro.Proofs.Files.Paths
import DesktopMacro.Proofs.Payload.Annotation
import Mathlib.Data.List.TakeWhile

set_option autoImplicit false

namespace DesktopMacro

variable {front rest piece text : List Char}

/-! ## Line by line -/

namespace Payload

theorem joinLines_cons (line : List Char) {lines : List (List Char)} (h : lines ≠ []) :
    joinLines (line :: lines) = line ++ '\n' :: joinLines lines := by
  obtain ⟨next, more, rfl⟩ := List.exists_cons_of_ne_nil h
  unfold joinLines
  rw [List.intercalate_cons_cons, List.append_assoc]
  rfl

theorem splitAt_line (h : '\n' ∉ piece) (rest : List Char) :
    Text.splitAt (· == '\n') (piece ++ '\n' :: rest) = piece :: Text.splitAt (· == '\n') rest :=
  Text.splitAt_append (fun c hc => by simpa using fun heq : c = '\n' => h (heq ▸ hc)) rfl rest

theorem splitAt_last (h : '\n' ∉ piece) : Text.splitAt (· == '\n') piece = [piece] :=
  Text.splitAt_plain fun c hc => by simpa using fun heq : c = '\n' => h (heq ▸ hc)

/-- The first line of a text, and what is left from its line break on. -/
theorem firstLine (cs : List Char) : ∃ line tail, cs = line ++ tail ∧ '\n' ∉ line ∧
    (tail = [] ∨ ∃ rest, tail = '\n' :: rest) := by
  refine ⟨cs.takeWhile (· != '\n'), cs.dropWhile (· != '\n'), List.takeWhile_append_dropWhile.symm,
    fun hmem => ?_, ?_⟩
  · simpa using List.mem_takeWhile_imp hmem
  · have hhead := List.head?_dropWhile_not (· != '\n') cs
    cases hdrop : cs.dropWhile (· != '\n') with
    | nil => exact .inl rfl
    | cons c rest =>
      rw [hdrop] at hhead
      have hc : c = '\n' := by simpa using hhead
      exact .inr ⟨rest, by rw [hc]⟩

/-- **Every text is read line by line**: it is a line without a line break, or one with a line break
and a text behind it. -/
theorem line_induction {motive : List Char → Prop} (last : ∀ piece, '\n' ∉ piece → motive piece)
    (more : ∀ piece rest, '\n' ∉ piece → motive rest → motive (piece ++ '\n' :: rest))
    (cs : List Char) : motive cs := by
  obtain ⟨line, tail, hcs, hline, rfl | ⟨rest, rfl⟩⟩ := firstLine cs
  · rw [hcs, List.append_nil]
    exact last line hline
  · rw [hcs]
    exact more line rest hline (line_induction last more rest)
termination_by cs.length
decreasing_by
  rw [hcs, List.length_append, List.length_cons]
  omega

theorem joinLines_splitAt (cs : List Char) : joinLines (Text.splitAt (· == '\n') cs) = cs := by
  induction cs using line_induction with
  | last piece h =>
    rw [splitAt_last h]
    exact List.intercalate_singleton
  | more piece rest h ih => rw [splitAt_line h, joinLines_cons piece (Text.splitAt_ne_nil rest), ih]

end Payload

/-! ## The place of an offset -/

namespace Json.Place

theorem after_last (h : '\n' ∉ front) :
    (after front).line = 1 ∧ (after front).column = front.length + 1 := by
  have hplain : front.reverse.takeWhile (· != '\n') = front.reverse :=
    List.takeWhile_eq_self_iff.2 fun c hc => by
      simpa using fun heq : c = '\n' => h (heq ▸ List.mem_reverse.1 hc)
  unfold after
  rw [List.count_eq_zero_of_not_mem h, hplain, List.length_reverse]
  exact ⟨rfl, rfl⟩

/-- A line in front counts as one line, and not for the column. -/
theorem after_more (h : '\n' ∉ piece) (front : List Char) :
    (after (piece ++ '\n' :: front)).line = (after front).line + 1 ∧
      (after (piece ++ '\n' :: front)).column = (after front).column := by
  unfold after
  constructor
  · rw [List.count_append, List.count_eq_zero_of_not_mem h, List.count_cons_self, Nat.zero_add]
  · have hstop : (front.reverse ++ '\n' :: piece.reverse).takeWhile (· != '\n')
        = front.reverse.takeWhile (· != '\n') := by
      rw [List.takeWhile_append]
      split
      · next hall =>
        rw [List.takeWhile_cons_of_neg (by simp), List.append_nil]
        exact ((List.takeWhile_prefix _).eq_of_length hall).symm
      · rfl
    rw [List.reverse_append, List.reverse_cons, List.append_assoc, List.singleton_append, hstop]

/-- **A line and a column belong to one offset.** -/
theorem eq_of_after {front' : List Char} (hgrown : front <+: front')
    (hline : (after front).line = (after front').line)
    (hcolumn : (after front).column = (after front').column) : front = front' := by
  obtain ⟨between, rfl⟩ := hgrown
  have hplain : '\n' ∉ between := by
    simp only [after, List.count_append] at hline
    exact List.count_eq_zero.1 (by omega)
  have hwhole : between.reverse.takeWhile (· != '\n') = between.reverse :=
    List.takeWhile_eq_self_iff.2 fun c hc => by
      simpa using fun heq : c = '\n' => hplain (heq ▸ List.mem_reverse.1 hc)
  have hlonger : ((front ++ between).reverse.takeWhile (· != '\n')).length
      = between.length + (front.reverse.takeWhile (· != '\n')).length := by
    rw [List.reverse_append, List.takeWhile_append, if_pos (by rw [hwhole]), List.length_append,
      List.length_reverse]
  -- A line that goes on would have another column.
  have hempty : between.length = 0 := by
    simp only [after, hlonger] at hcolumn
    omega
  rw [List.length_eq_zero_iff.1 hempty, List.append_nil]

end Json.Place

/-! ## The repair -/

namespace Payload

/-- **What a repair puts in place of a character** that stands behind others. -/
def replacement (front : List Char) (c : Char) : List Char :=
  if c = '\n' then ['\\', 'n']
  else if c = '\r' then ['\\', 'r']
  else if c = '\t' then ['\\', 't']
  else if c = '"' ∧ front.getLast? ≠ some '\\' then ['\\', '"']
  else []

/-- **A text with the character at an offset replaced**, if there is one. -/
def replaceAt? (text : List Char) (offset : Nat) : Option (List Char) :=
  match text.drop offset with
  | [] => none
  | c :: rest => some (text.take offset ++ replacement (text.take offset) c ++ rest)

theorem replaceAt?_append (front : List Char) (c : Char) (rest : List Char) :
    replaceAt? (front ++ c :: rest) front.length = some (front ++ replacement front c ++ rest) := by
  unfold replaceAt?
  rw [List.drop_left, List.take_left]

/-- What is replaced in a line is replaced in the text around it. -/
theorem replacement_append (piece : List Char) (front : List Char) (c : Char) :
    replacement (piece ++ '\n' :: front) c = replacement front c := by
  have hlast : (piece ++ '\n' :: front).getLast? ≠ some '\\' ↔ front.getLast? ≠ some '\\' := by
    cases front with
    | nil => simp
    | cons d front => simp [List.getLast?_append, List.getLast?_cons_cons]
  unfold replacement
  simp only [hlast]

/-- In a line, the character at an index is the one that is repaired. -/
theorem repairLine?_eq {line : List Char} (h : '\n' ∉ line) (index : Nat) :
    repairLine? line index = replaceAt? line index := by
  unfold repairLine? replaceAt?
  cases hdrop : line.drop index with
  | nil => rfl
  | cons c rest =>
    have hc : c ≠ '\n' := by
      rintro rfl
      exact h (List.mem_of_mem_drop (hdrop ▸ List.mem_cons_self))
    unfold replacement
    by_cases hreturn : c = '\r'
    · simp [hreturn, escapeControl, controlLetter?]
    · by_cases htab : c = '\t'
      · simp [htab, escapeControl, controlLetter?]
      · simp only [beq_iff_eq, Bool.or_eq_true, Bool.and_eq_true, bne_iff_ne, hreturn, htab, hc,
          or_self, if_false]
        split <;> simp

/-- The last line of a text. -/
theorem repairAt?_last (h : '\n' ∉ piece) (line index : Nat) :
    repairAt? piece (line + 1) (index + 1)
      = if line = 0 then replaceAt? piece index else none := by
  unfold repairAt?
  rw [splitAt_last h, if_neg (by simp)]
  cases line with
  | zero =>
    have hjoin : ∀ l : List Char, joinLines [l] = l := fun l => List.intercalate_singleton
    simp [hjoin, repairLine?_eq h]
  | succ line => simp

/-- The first line of a text, up to its line break. -/
theorem repairAt?_first (h : '\n' ∉ piece) (rest : List Char) (index : Nat) :
    repairAt? (piece ++ '\n' :: rest) 1 (index + 1)
      = if index = piece.length then some (piece ++ '\\' :: 'n' :: rest)
        else (replaceAt? piece index).map (· ++ '\n' :: rest) := by
  obtain ⟨next, after, hnext⟩ := List.exists_cons_of_ne_nil (Text.splitAt_ne_nil rest)
  have hrest : joinLines (next :: after) = rest := by rw [← hnext, joinLines_splitAt]
  have hfirst : ∀ line : List Char, joinLines (line :: next :: after) = line ++ '\n' :: rest :=
    fun line => by rw [joinLines_cons line (List.cons_ne_nil _ _), hrest]
  have hmerged : joinLines ((piece ++ '\\' :: 'n' :: next) :: after)
      = piece ++ '\\' :: 'n' :: rest := by
    rw [← hrest]
    cases after with
    | nil => simp [joinLines, List.intercalate_singleton]
    | cons l after => simp [joinLines_cons]
  unfold repairAt?
  rw [splitAt_line h, hnext, if_neg (by simp)]
  simp [hmerged, hfirst, repairLine?_eq h]

/-- The lines behind the first one. -/
theorem repairAt?_more (h : '\n' ∉ piece) (rest : List Char) (line column : Nat) :
    repairAt? (piece ++ '\n' :: rest) (line + 2) column
      = (repairAt? rest (line + 1) column).map (piece ++ '\n' :: ·) := by
  have hcons : ∀ (before : List (List Char)) (current : List Char) (after : List (List Char)),
      joinLines (piece :: (before ++ current :: after))
        = piece ++ '\n' :: joinLines (before ++ current :: after) := fun before current after =>
    joinLines_cons piece (by simp)
  unfold repairAt?
  rw [splitAt_line h]
  by_cases hcolumn : column = 0
  · simp [hcolumn]
  · rw [if_neg (by simp [hcolumn]), if_neg (by simp [hcolumn])]
    simp only [Nat.add_sub_cancel, show line + 2 - 1 = line + 1 from rfl, List.take_succ_cons,
      List.drop_succ_cons]
    cases hdrop : (Text.splitAt (· == '\n') rest).drop line with
    | nil => rfl
    | cons current after =>
      cases after with
      | nil => simp [hcons, Function.comp_def]
      | cons next after =>
        simp only
        split
        · simp [hcons]
        · simp [hcons, Function.comp_def]

/-! ### From offsets to places -/

theorem replaceAt?_front {offset : Nat} (h : offset < text.length) (tail : List Char) :
    (replaceAt? text offset).map (· ++ tail) = replaceAt? (text ++ tail) offset := by
  unfold replaceAt?
  rw [List.drop_append_of_le_length (Nat.le_of_lt h),
    List.take_append_of_le_length (Nat.le_of_lt h)]
  cases hdrop : text.drop offset with
  | nil => exact absurd (List.drop_eq_nil_iff.1 hdrop) (Nat.not_le.2 h)
  | cons c rest => simp

theorem take_behind (piece rest : List Char) (offset : Nat) :
    (piece ++ '\n' :: rest).take (piece.length + (offset + 1))
      = piece ++ '\n' :: rest.take offset := by
  rw [List.take_append, List.take_of_length_le (Nat.le_add_right _ _), Nat.add_sub_cancel_left,
    List.take_succ_cons]

theorem replaceAt?_behind (piece rest : List Char) (offset : Nat) :
    (replaceAt? rest offset).map (piece ++ '\n' :: ·)
      = replaceAt? (piece ++ '\n' :: rest) (piece.length + (offset + 1)) := by
  have hdrop : (piece ++ '\n' :: rest).drop (piece.length + (offset + 1)) = rest.drop offset := by
    rw [← List.drop_drop, List.drop_left, List.drop_succ_cons]
  unfold replaceAt?
  rw [hdrop, take_behind]
  cases rest.drop offset with
  | nil => rfl
  | cons c more => simp [replacement_append]

/-- **The place of an offset leads the repair to the offset.** -/
theorem repairAt?_place (text : List Char) {offset : Nat} (h : offset ≤ text.length) :
    repairAt? text (Json.Place.after (text.take offset)).line
      (Json.Place.after (text.take offset)).column = replaceAt? text offset := by
  induction text using line_induction generalizing offset with
  | last piece hpiece =>
    obtain ⟨hline, hcolumn⟩ := Json.Place.after_last fun hmem => hpiece (List.mem_of_mem_take hmem)
    rw [hline, hcolumn, List.length_take_of_le h]
    exact repairAt?_last hpiece 0 offset
  | more piece rest hpiece ih =>
    by_cases hfirst : offset ≤ piece.length
    · obtain ⟨hline, hcolumn⟩ :=
        Json.Place.after_last fun hmem : '\n' ∈ piece.take offset =>
          hpiece (List.mem_of_mem_take hmem)
      rw [List.take_append_of_le_length hfirst, hline, hcolumn, List.length_take_of_le hfirst,
        repairAt?_first hpiece]
      split
      · next hend =>
        rw [hend, replaceAt?_append, replacement, if_pos rfl, List.append_assoc]
        rfl
      · exact replaceAt?_front (by omega) _
    · obtain ⟨behind, rfl⟩ : ∃ behind, offset = piece.length + (behind + 1) :=
        ⟨offset - piece.length - 1, by omega⟩
      have hbehind : behind ≤ rest.length := by
        rw [List.length_append, List.length_cons] at h
        omega
      obtain ⟨hline, hcolumn⟩ := Json.Place.after_more hpiece (rest.take behind)
      rw [take_behind, hline, hcolumn, ← replaceAt?_behind, ← ih hbehind]
      exact repairAt?_more hpiece rest _ _

/-- **Only the place of an offset is repaired.** -/
theorem offset_of_repairAt? {line column : Nat} {repaired : List Char}
    (h : repairAt? text line column = some repaired) : ∃ offset ≤ text.length,
      (Json.Place.after (text.take offset)).line = line ∧
        (Json.Place.after (text.take offset)).column = column := by
  induction text using line_induction generalizing line column repaired with
  | last piece hpiece =>
    match line, column with
    | 0, _ => simp [repairAt?] at h
    | _ + 1, 0 => simp [repairAt?] at h
    | line + 1, index + 1 =>
      rw [repairAt?_last hpiece] at h
      split at h
      · next hline =>
        have hindex : index < piece.length := by
          refine Nat.lt_of_not_le fun hle => ?_
          rw [replaceAt?, List.drop_of_length_le hle] at h
          cases h
        obtain ⟨hone, hcolumn⟩ := Json.Place.after_last fun hmem : '\n' ∈ piece.take index =>
          hpiece (List.mem_of_mem_take hmem)
        rw [List.length_take_of_le (by omega)] at hcolumn
        exact ⟨index, by omega, by rw [hone, hline], hcolumn⟩
      · cases h
  | more piece rest hpiece ih =>
    match line, column with
    | 0, _ => simp [repairAt?] at h
    | 1, 0 => simp [repairAt?] at h
    | 1, index + 1 =>
      have hindex : index ≤ piece.length := by
        refine Nat.le_of_not_lt fun hlt => ?_
        rw [repairAt?_first hpiece, if_neg (by omega), replaceAt?,
          List.drop_of_length_le (by omega)] at h
        cases h
      obtain ⟨hone, hcolumn⟩ := Json.Place.after_last fun hmem : '\n' ∈ piece.take index =>
        hpiece (List.mem_of_mem_take hmem)
      rw [List.length_take_of_le hindex] at hcolumn
      refine ⟨index, by rw [List.length_append]; omega, ?_⟩
      rw [List.take_append_of_le_length hindex]
      exact ⟨hone, hcolumn⟩
    | line + 2, column =>
      rw [repairAt?_more hpiece, Option.map_eq_some_iff] at h
      obtain ⟨repairedRest, hrest, -⟩ := h
      obtain ⟨offset, hoffset, hline, hcolumn⟩ := ih hrest
      obtain ⟨hline', hcolumn'⟩ := Json.Place.after_more hpiece (rest.take offset)
      refine ⟨piece.length + (offset + 1), ?_, ?_⟩
      · rw [List.length_append, List.length_cons]
        omega
      · rw [take_behind, hline', hcolumn', hline, hcolumn]
        exact ⟨rfl, rfl⟩

/-! ## Characters keep their places -/

/-- Does a region belong to a comment? -/
def Region.isComment : Region → Bool
  | .lineComment | .blockComment => true
  | _ => false

/-- **What the characters of a text belong to**, behind a text that ends in a region. The line break
behind a line comment is not part of it. -/
def regionsFrom : Region → List Char → List Region
  | _, [] => []
  | .code, '/' :: '/' :: cs => .lineComment :: .lineComment :: regionsFrom .lineComment cs
  | .code, '/' :: '*' :: cs => .blockComment :: .blockComment :: regionsFrom .blockComment cs
  | .code, c :: cs =>
    if c == '"' then .string :: regionsFrom .string cs else .code :: regionsFrom .code cs
  | .string, c :: cs =>
    .string :: regionsFrom (if c == '\\' then .escape else if c == '"' then .code else .string) cs
  | .escape, _ :: cs => .escape :: regionsFrom .string cs
  | .lineComment, c :: cs =>
    if c == '\n' then .code :: regionsFrom .code cs
    else .lineComment :: regionsFrom .lineComment cs
  | .blockComment, '*' :: '/' :: cs => .blockComment :: .blockComment :: regionsFrom .code cs
  | .blockComment, _ :: cs => .blockComment :: regionsFrom .blockComment cs

/-- **A text with comments and commas overwritten**: a character stays, unless it is one of a
comment and breaks no line, or a comma outside of strings and comments. -/
inductive Blanked : List Region → List Char → List Char → Prop where
  | nil : Blanked [] [] []
  | same (region : Region) (c : Char) {regions : List Region} {cs bs : List Char} :
    Blanked regions cs bs → Blanked (region :: regions) (c :: cs) (c :: bs)
  | comment {region : Region} (hregion : region.isComment = true) {c : Char} (hline : c ≠ '\n')
    (hreturn : c ≠ '\r') {regions : List Region} {cs bs : List Char} :
    Blanked regions cs bs → Blanked (region :: regions) (c :: cs) (' ' :: bs)
  | comma {regions : List Region} {cs bs : List Char} :
    Blanked regions cs bs → Blanked (.code :: regions) (',' :: cs) (' ' :: bs)

/-- Where the second pass stands when the first one stands in a region: comments are gone. -/
def Region.withoutComments : Region → Region
  | .lineComment | .blockComment => .code
  | region => region

/-- A character of a comment is overwritten, or it breaks the line. -/
theorem Blanked.blankOut {region : Region} (hregion : region.isComment = true) (c : Char)
    {regions : List Region} {cs bs : List Char} (h : Blanked regions cs bs) :
    Blanked (region :: regions) (c :: cs) (blankOut c :: bs) := by
  unfold Payload.blankOut
  split
  · exact .same region c h
  · next hbreak =>
    simp only [Bool.or_eq_true, beq_iff_eq, not_or] at hbreak
    exact .comment hregion hbreak.1 hbreak.2 h

/-- The second pass leaves a character alone that the first one has overwritten. -/
theorem blankCommas_blankOut (c : Char) (cs : List Char) :
    blankCommas .code (blankOut c :: cs) = blankOut c :: blankCommas .code cs :=
  blankCommas_gaps (List.forall_mem_singleton.2 (isGap_blankOut c)) cs

/-- The two passes together, from a region on. The induction follows the first pass; the second one
stands in the same region, but knows of no comments. -/
theorem blanked_passes (region : Region) (cs : List Char) :
    Blanked (regionsFrom region cs) cs
      (blankCommas region.withoutComments (blankComments region cs)) := by
  fun_induction blankComments region cs with
  | case1 region =>
    cases region <;> exact .nil
  | case2 cs ih | case3 cs ih =>
    exact .comment rfl (by decide) (by decide) (.comment rfl (by decide) (by decide) ih)
  | case4 c cs hline hblock ih =>
    rw [regionsFrom.eq_4 _ _ hline hblock]
    by_cases hquote : c = '"'
    · subst hquote
      exact .same _ _ ih
    · have hother : ¬ (c == '"') = true := by simpa using hquote
      rw [if_neg hother] at ih ⊢
      rw [if_neg hother]
      show Blanked _ _ (blankCommas .code _)
      rw [blankCommas_code hquote]
      split
      · next hcomma =>
        obtain ⟨hc, -⟩ := Bool.and_eq_true_iff.1 hcomma
        rw [eq_of_beq hc]
        exact .comma ih
      · exact .same _ c ih
  | case5 c cs ih =>
    -- From inside a string, no comment begins with the next character.
    have hsame : (if c == '\\' then Region.escape
        else if c == '"' then .code else .string).withoutComments
        = if c == '\\' then .escape else if c == '"' then .code else .string := by
      split
      · rfl
      · split <;> rfl
    rw [hsame] at ih
    simp only [regionsFrom, Region.withoutComments, blankCommas]
    exact .same .string c ih
  | case6 c cs ih =>
    simp only [regionsFrom, Region.withoutComments, blankCommas]
    exact .same .escape c ih
  | case7 c cs hbreak ih =>
    rw [eq_of_beq hbreak]
    exact .same .code '\n' ih
  | case8 c cs hbreak ih =>
    rw [regionsFrom, if_neg hbreak]
    show Blanked _ _ (blankCommas .code _)
    rw [blankCommas_blankOut]
    exact ih.blankOut rfl c
  | case9 cs ih =>
    exact .comment rfl (by decide) (by decide) (.comment rfl (by decide) (by decide) ih)
  | case10 c cs hopen ih =>
    rw [regionsFrom.eq_9 _ _ hopen]
    show Blanked _ _ (blankCommas .code _)
    rw [blankCommas_blankOut]
    exact ih.blankOut rfl c

/-- **Overwriting changes comments and commas outside of strings only**, and no line break. -/
theorem blanked_blankRelaxed (text : List Char) :
    Blanked (regionsFrom .code text) text (blankRelaxed text) :=
  blanked_passes .code text

namespace Blanked

variable {regions : List Region} {cs bs : List Char}

theorem length (h : Blanked regions cs bs) : bs.length = cs.length := by
  induction h with
  | nil => rfl
  | same _ _ _ ih | comment _ _ _ _ ih | comma _ ih =>
    rw [List.length_cons, List.length_cons, ih]

theorem take (h : Blanked regions cs bs) (offset : Nat) :
    Blanked (regions.take offset) (cs.take offset) (bs.take offset) := by
  induction h generalizing offset with
  | nil => simpa using Blanked.nil
  | same region c _ ih =>
    cases offset with
    | zero => exact .nil
    | succ offset => exact .same region c (ih offset)
  | comment hregion hline hreturn _ ih =>
    cases offset with
    | zero => exact .nil
    | succ offset => exact .comment hregion hline hreturn (ih offset)
  | comma _ ih =>
    cases offset with
    | zero => exact .nil
    | succ offset => exact .comma (ih offset)

/-- The line breaks are where they were. -/
theorem breaks (h : Blanked regions cs bs) : bs.map (· != '\n') = cs.map (· != '\n') := by
  induction h with
  | nil => rfl
  | same _ c _ ih => rw [List.map_cons, List.map_cons, ih]
  | comment _ hline _ _ ih =>
    rw [List.map_cons, List.map_cons, ih]
    simp [hline]
  | comma _ ih =>
    rw [List.map_cons, List.map_cons, ih]
    rfl

end Blanked

/-- The place at the end of a text depends on its length and its line breaks only. -/
theorem after_congr {cs bs : List Char} (h : bs.map (· != '\n') = cs.map (· != '\n')) :
    Json.Place.after bs = Json.Place.after cs := by
  have hlength : bs.length = cs.length := by
    simpa using congrArg List.length h
  have hcount : ∀ l : List Char, l.count '\n' = (l.map (· != '\n')).count false := fun l => by
    rw [List.count_eq_countP, List.count_eq_countP, List.countP_map]
    congr 1
    funext c
    simp [bne]
  have hwhile : ∀ l : List Char, (l.reverse.takeWhile (· != '\n')).length
      = ((l.map (· != '\n')).reverse.takeWhile id).length := fun l => by
    rw [← List.map_reverse, List.takeWhile_map, List.length_map]
    rfl
  unfold Json.Place.after
  rw [hcount bs, hcount cs, hwhile bs, hwhile cs, h, hlength]

/-- **An offset has the same place in the text and in what is left of it.** -/
theorem after_blankRelaxed (text : List Char) (offset : Nat) :
    Json.Place.after ((blankRelaxed text).take offset) = Json.Place.after (text.take offset) :=
  after_congr ((blanked_blankRelaxed text).take offset).breaks

/-! ## The complaints of the reader -/

/-- A complaint is about the place of an offset. -/
theorem place_of_read {text : String} {what : Json.Complaint} {place : Json.Place}
    (h : Json.read text = .error (.complaint what place)) : place.offset ≤ text.toList.length ∧
      place = Json.Place.after (text.toList.take place.offset) := by
  unfold Json.read Json.readWithin at h
  dsimp only at h
  split at h
  · cases h
  · next _ rest _ =>
    cases h
    have hoffset : (Json.locate text.toList rest).offset
        = text.toList.length - rest.length := by
      show (text.toList.take _).length = _
      rw [List.length_take]
      omega
    rw [hoffset]
    exact ⟨Nat.sub_le _ _, rfl⟩
  · cases h
  · cases h

/-- **The repair hits exactly the reported character.** The place of an offset leads the repair to
the character at the offset and to no other one, and a line and a column that no offset has lead it
nowhere. Overwriting comments and trailing commas moves nothing and touches nothing else, so a
complaint about what is left of a text is about the same offset, and no other one, of the text as it
was given. -/
theorem repair_hits_reported (text : List Char) :
    (∀ offset ≤ text.length, repairAt? text (Json.Place.after (text.take offset)).line
      (Json.Place.after (text.take offset)).column = replaceAt? text offset) ∧
    (∀ line column : Int, (∀ offset ≤ text.length,
        ¬(((Json.Place.after (text.take offset)).line : Int) = line ∧
          ((Json.Place.after (text.take offset)).column : Int) = column)) →
      repairAt? text line.toNat column.toNat = none) ∧
    Blanked (regionsFrom .code text) text (blankRelaxed text) ∧
    (∀ what place, readRelaxed text = .error (.complaint what place) →
      place.offset ≤ text.length ∧
        place = Json.Place.after ((blankRelaxed text).take place.offset) ∧
        place = Json.Place.after (text.take place.offset) ∧
        (∀ offset ≤ text.length, (Json.Place.after (text.take offset)).line = place.line →
          (Json.Place.after (text.take offset)).column = place.column → offset = place.offset) ∧
        repairAt? text place.line place.column = replaceAt? text place.offset) := by
  refine ⟨fun offset => repairAt?_place text, fun line column hnowhere => ?_,
    blanked_blankRelaxed text, fun what place hread => ?_⟩
  · cases hrepaired : repairAt? text line.toNat column.toNat with
    | none => rfl
    | some repaired =>
      obtain ⟨offset, hoffset, hline, hcolumn⟩ := offset_of_repairAt? hrepaired
      have hpositive : 0 < (Json.Place.after (text.take offset)).line ∧
          0 < (Json.Place.after (text.take offset)).column :=
        ⟨Nat.succ_pos _, Nat.succ_pos _⟩
      exact absurd ⟨by omega, by omega⟩ (hnowhere offset hoffset)
  · have hlength : (blankRelaxed text).length = text.length := (blanked_blankRelaxed text).length
    obtain ⟨hoffset, hplace⟩ := place_of_read hread
    rw [String.toList_ofList] at hoffset hplace
    have hgiven : place = Json.Place.after (text.take place.offset) := by
      rw [← after_blankRelaxed]
      exact hplace
    rw [hlength] at hoffset
    refine ⟨hoffset, hplace, hgiven, fun offset hle hline hcolumn => ?_, ?_⟩
    · rw [hgiven] at hline hcolumn
      -- Of two offsets of a text, one part of the text is the beginning of the other.
      have hsame : text.take offset = text.take place.offset := by
        rcases Nat.le_total offset place.offset with hle' | hle'
        · exact Json.Place.eq_of_after (List.take_prefix_take_left hle') hline hcolumn
        · exact (Json.Place.eq_of_after (List.take_prefix_take_left hle') hline.symm
            hcolumn.symm).symm
      have hlengths := congrArg List.length hsame
      rwa [List.length_take_of_le hle, List.length_take_of_le hoffset] at hlengths
    · rw [congrArg Json.Place.line hgiven, congrArg Json.Place.column hgiven]
      exact repairAt?_place text hoffset

/-- A string with a tab in it, behind a comment. -/
def tabbed : List Char := ['/', '/', ',', '\n', '"', '\t', '"']

/-- The reader complains about the tab, and the tab is repaired; a third line there is not. -/
theorem repair_hits_tab :
    readRelaxed tabbed = .error (.complaint .controlCharacter ⟨2, 2, 5⟩) ∧
      repairAt? tabbed 2 2 = some ['/', '/', ',', '\n', '"', '\\', 't', '"'] ∧
      repairAt? tabbed 2 1 = some ['/', '/', ',', '\n', '\\', '"', '\t', '"'] ∧
      repairAt? tabbed 3 1 = none := by
  obtain ⟨hplaces, hnowhere, -, hcomplaints⟩ := repair_hits_reported tabbed
  have hread : readRelaxed tabbed = .error (.complaint .controlCharacter ⟨2, 2, 5⟩) := by rfl
  obtain ⟨-, -, -, -, hrepaired⟩ := hcomplaints _ _ hread
  exact ⟨hread, hrepaired, hplaces 4 (by decide), hnowhere 3 1 (by decide)⟩

end Payload
end DesktopMacro
