/-
Texts in pieces.

A text is cut at its separators, and two texts with a separator between them are cut as each of them
is alone, whatever stands at their ends. Pieces that are joined with a separator come apart again if
none of them has one. Lines are cut a little differently: a carriage return and the line feed after
it are one end, and nothing comes behind the last end. Once the empty pieces are left out that makes
no difference, so the lines of a text that are not empty are its pieces between line ends.
-/
import DesktopMacro.Text.Pieces
import Mathlib.Data.List.Basic

set_option autoImplicit false

namespace DesktopMacro.Text

variable {isSeparator : Char → Bool}

/-! ## Cutting -/

theorem splitAt_ne_nil (cs : List Char) : splitAt isSeparator cs ≠ [] := by
  cases cs with
  | nil => exact List.cons_ne_nil _ _
  | cons c cs =>
    unfold splitAt
    split
    · exact List.cons_ne_nil _ _
    · split <;> exact List.cons_ne_nil _ _

theorem splitAt_separator {c : Char} (hc : isSeparator c = true) (cs : List Char) :
    splitAt isSeparator (c :: cs) = [] :: splitAt isSeparator cs := by
  simp only [splitAt, hc, if_true]

/-- A character that is no separator goes to the front of the first piece. -/
theorem splitAt_other {c : Char} (hc : isSeparator c = false) {cs piece : List Char}
    {pieces : List (List Char)} (hcs : splitAt isSeparator cs = piece :: pieces) :
    splitAt isSeparator (c :: cs) = (c :: piece) :: pieces := by
  simp only [splitAt, hc, hcs]
  rfl

/-- Characters without a separator are one piece. -/
theorem splitAt_plain {cs : List Char} (h : ∀ c ∈ cs, isSeparator c = false) :
    splitAt isSeparator cs = [cs] := by
  induction cs with
  | nil => rfl
  | cons c cs ih =>
    obtain ⟨hc, hcs⟩ := List.forall_mem_cons.1 h
    exact splitAt_other hc (ih hcs)

/-- **Two texts with a separator between them** are cut as each of them is alone. -/
theorem splitAt_between (front : List Char) {c : Char} (hc : isSeparator c = true)
    (back : List Char) : splitAt isSeparator (front ++ c :: back)
      = splitAt isSeparator front ++ splitAt isSeparator back := by
  induction front with
  | nil => exact splitAt_separator hc back
  | cons d front ih =>
    rw [List.cons_append]
    by_cases hd : isSeparator d = true
    · rw [splitAt_separator hd, splitAt_separator hd, ih, List.cons_append]
    · -- The first piece of the front is the first piece of the whole, too.
      have hplain : isSeparator d = false := by simpa using hd
      obtain ⟨piece, pieces, hfront⟩ := List.exists_cons_of_ne_nil (splitAt_ne_nil front)
      rw [hfront, List.cons_append] at ih
      rw [splitAt_other hplain ih, splitAt_other hplain hfront, List.cons_append]

/-- A piece ends at its separator. -/
theorem splitAt_append {piece : List Char} (h : ∀ c ∈ piece, isSeparator c = false) {c : Char}
    (hc : isSeparator c = true) (cs : List Char) :
    splitAt isSeparator (piece ++ c :: cs) = piece :: splitAt isSeparator cs := by
  rw [splitAt_between piece hc, splitAt_plain h, List.singleton_append]

/-- No separator is in a piece. -/
theorem not_separator_of_splitAt {cs piece : List Char} (h : piece ∈ splitAt isSeparator cs) :
    ∀ c ∈ piece, isSeparator c = false := by
  induction cs generalizing piece with
  | nil =>
    rw [List.mem_singleton.1 h]
    exact nofun
  | cons c cs ih =>
    by_cases hc : isSeparator c = true
    · rw [splitAt_separator hc] at h
      rcases List.mem_cons.1 h with rfl | hmem
      · exact nofun
      · exact ih hmem
    · have hplain : isSeparator c = false := by simpa using hc
      obtain ⟨first, more, hcs⟩ := List.exists_cons_of_ne_nil (splitAt_ne_nil cs)
      rw [splitAt_other hplain hcs] at h
      rw [hcs] at ih
      rcases List.mem_cons.1 h with rfl | hmem
      · exact List.forall_mem_cons.2 ⟨hplain, ih List.mem_cons_self⟩
      · exact ih (List.mem_cons_of_mem _ hmem)

/-- A piece has characters of the text only. -/
theorem subset_of_splitAt {cs piece : List Char} (h : piece ∈ splitAt isSeparator cs) :
    piece ⊆ cs := by
  induction cs generalizing piece with
  | nil =>
    rw [List.mem_singleton.1 h]
    exact List.Subset.refl _
  | cons c cs ih =>
    by_cases hc : isSeparator c = true
    · rw [splitAt_separator hc] at h
      rcases List.mem_cons.1 h with rfl | hmem
      · exact List.nil_subset _
      · exact List.subset_cons_of_subset _ (ih hmem)
    · have hplain : isSeparator c = false := by simpa using hc
      obtain ⟨first, more, hcs⟩ := List.exists_cons_of_ne_nil (splitAt_ne_nil cs)
      rw [splitAt_other hplain hcs] at h
      rw [hcs] at ih
      rcases List.mem_cons.1 h with rfl | hmem
      · exact List.cons_subset_cons _ (ih List.mem_cons_self)
      · exact List.subset_cons_of_subset _ (ih (List.mem_cons_of_mem _ hmem))

/-- **Pieces with a separator between them** are cut into the pieces again. -/
theorem splitAt_intercalate {separator : Char} {pieces : List String} (hne : pieces ≠ [])
    (h : ∀ piece ∈ pieces, ∀ c ∈ piece.toList, (c == separator) = false) :
    splitAt (· == separator) ((String.singleton separator).intercalate pieces).toList
      = pieces.map String.toList := by
  induction pieces with
  | nil => exact absurd rfl hne
  | cons piece pieces ih =>
    obtain ⟨hpiece, hpieces⟩ := List.forall_mem_cons.1 h
    cases pieces with
    | nil =>
      rw [String.intercalate_singleton, splitAt_plain hpiece]
      rfl
    | cons next pieces =>
      rw [String.intercalate_cons_cons, String.toList_append, String.toList_append,
        String.toList_singleton, List.append_assoc, List.singleton_append,
        splitAt_append hpiece (beq_self_eq_true separator), ih (List.cons_ne_nil _ _) hpieces]
      rfl

/-! ## Pieces that are not empty -/

/-- The pieces of a text between separators, empty ones left out. -/
def fullPieces (s : String) (isSeparator : Char → Bool) : List String :=
  (splitOn s isSeparator).filter (fun piece => !piece.isEmpty)

@[simp] theorem fullPieces_empty : fullPieces "" isSeparator = [] := rfl

/-- A text that has something put behind it, with a separator between unless it is empty. -/
theorem fullPieces_extended (s addition : String) {c : Char} (hc : isSeparator c = true) :
    fullPieces ((if s.isEmpty then "" else s ++ String.singleton c) ++ addition) isSeparator
      = fullPieces s isSeparator ++ fullPieces addition isSeparator := by
  by_cases hempty : s.isEmpty = true
  · rw [if_pos hempty, String.empty_append, String.isEmpty_iff.1 hempty, fullPieces_empty,
      List.nil_append]
  · have hchars : (s ++ String.singleton c ++ addition).toList
        = s.toList ++ c :: addition.toList := by simp
    rw [if_neg hempty]
    unfold fullPieces splitOn
    rw [hchars, splitAt_between _ hc, List.map_append, List.filter_append]

theorem of_mem_fullPieces {s piece : String} (h : piece ∈ fullPieces s isSeparator) :
    piece.isEmpty = false ∧ ∀ c ∈ piece.toList, isSeparator c = false := by
  obtain ⟨hmem, hfull⟩ := List.mem_filter.1 h
  obtain ⟨chars, hchars, rfl⟩ := List.mem_map.1 hmem
  refine ⟨by simpa using hfull, ?_⟩
  rw [String.toList_ofList]
  exact not_separator_of_splitAt hchars

/-- **Full pieces with a separator between them** are the full pieces of what they are joined to. -/
theorem fullPieces_intercalate {separator : Char} {pieces : List String}
    (h : ∀ piece ∈ pieces,
      piece.isEmpty = false ∧ ∀ c ∈ piece.toList, (c == separator) = false) :
    fullPieces ((String.singleton separator).intercalate pieces) (· == separator) = pieces := by
  cases pieces with
  | nil => rfl
  | cons piece pieces =>
    have hback : (String.ofList ∘ String.toList) = id := by
      funext s
      exact String.ofList_toList
    unfold fullPieces splitOn
    rw [splitAt_intercalate (List.cons_ne_nil _ _) (fun p hp => (h p hp).2), List.map_map, hback,
      List.map_id, List.filter_eq_self]
    intro p hp
    rw [(h p hp).1]
    rfl

/-! ## Lines -/

/-- The line at hand is a piece that goes on; `line` holds it, last character first. -/
theorem filter_linesFrom (line cs : List Char) (h : ∀ c ∈ line, endsLine c = false) :
    (linesFrom line cs).filter (fun row => !row.isEmpty)
      = (splitAt endsLine (line.reverse ++ cs)).filter (fun row => !row.isEmpty) := by
  have hline {line : List Char} (h : ∀ c ∈ line, endsLine c = false) :
      ∀ c ∈ line.reverse, endsLine c = false := fun c hc => h c (List.mem_reverse.1 hc)
  fun_induction linesFrom line cs with
  | case1 line hempty =>
    rw [List.isEmpty_iff.1 hempty]
    rfl
  | case2 line hfull => rw [List.append_nil, splitAt_plain (hline h)]
  | case3 line cs ih =>
    -- The piece between the carriage return and the line feed is empty.
    rw [splitAt_append (hline h) rfl, splitAt_separator rfl, List.filter_cons, List.filter_cons,
      List.filter_cons, ih nofun]
    rfl
  | case4 line c cs hpair hends ih =>
    rw [splitAt_append (hline h) hends, List.filter_cons, List.filter_cons, ih nofun]
    rfl
  | case5 line c cs hpair hends ih =>
    rw [ih (List.forall_mem_cons.2 ⟨by simpa using hends, h⟩), List.reverse_cons,
      List.append_assoc, List.singleton_append]

/-- **The lines of a text that are not empty** are its full pieces between line ends. -/
theorem filter_lines (s : String) :
    (lines s).filter (fun row => !row.isEmpty) = fullPieces s endsLine := by
  have hempty (chars : List Char) :
      ((fun row : String => !row.isEmpty) ∘ String.ofList) chars = !chars.isEmpty := by
    cases chars <;> simp
  unfold lines fullPieces splitOn
  rw [List.filter_map, List.filter_map, funext hempty]
  exact congrArg _ (filter_linesFrom [] s.toList nofun)

end DesktopMacro.Text
