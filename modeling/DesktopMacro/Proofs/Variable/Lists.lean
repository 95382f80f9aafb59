/-
A list and a table in one text.

A list variable keeps one text, and the text is read in two ways: cut at the separators it is a list
of items, and cut into lines, each line at its separators, it is a table. What is appended has a
separator or a line feed before it, unless the text is empty, and whatever the text ended with, half
a line end included, the items or the rows that were there stay and those of the addition come
behind them. An item that is taken out leaves the others as they were. A variable of another type
has no items and no rows, and refuses all of this.
-/
import DesktopMacro.Proofs.Text.Pieces
import DesktopMacro.Variable.Basic

set_option autoImplicit false

namespace DesktopMacro.Variable

variable {v : Variable} {raw : String}

/-- What a change of a variable answers, and the variable afterwards: a change that is refused
leaves it as it is. -/
def attempt (v : Variable) (change? : Variable → Option Variable) : Bool × Variable :=
  match change? v with
  | some w => (true, w)
  | none => (false, v)

theorem attempt_of_some {change? : Variable → Option Variable} {w : Variable}
    (h : change? v = some w) : v.attempt change? = (true, w) := by
  unfold attempt
  rw [h]

theorem attempt_of_none {change? : Variable → Option Variable} (h : change? v = none) :
    v.attempt change? = (false, v) := by
  unfold attempt
  rw [h]

theorem exists_list (h : v.kind = .list) : ∃ raw, v.value = .list raw := by
  unfold kind at h
  cases hvalue : v.value with
  | list raw => exact ⟨raw, rfl⟩
  | text s | number n | boolean b =>
    rw [hvalue] at h
    cases h

/-! ## The two readings -/

theorem items_of_list (h : v.value = .list raw) :
    v.items = Text.fullPieces raw (· == separator) := by
  unfold items
  rw [h]
  rfl

theorem table_of_list (h : v.value = .list raw) :
    v.table = (Text.fullPieces raw Text.endsLine).map (Text.splitOn · (· == separator)) := by
  unfold table
  rw [h, ← Text.filter_lines]

/-! ## Appending -/

theorem extend?_of_list (h : v.value = .list raw) (joint addition : String) :
    v.extend? joint addition
      = some (v.withValue (.list ((if raw.isEmpty then "" else raw ++ joint) ++ addition))) := by
  unfold extend?
  rw [h]

/-- **An item that is appended** comes behind the items that there are, in its own pieces. -/
theorem attempt_appendItem (h : v.value = .list raw) (item : String) :
    ∃ after, v.attempt (appendItem? · item) = (true, v.withValue (.list after))
      ∧ (v.withValue (.list after)).items
        = v.items ++ Text.fullPieces item (· == separator) := by
  refine ⟨_, attempt_of_some (extend?_of_list h (String.singleton separator) item), ?_⟩
  rw [items_of_list rfl, items_of_list h]
  exact Text.fullPieces_extended raw item (beq_self_eq_true separator)

/-- **A row that is appended** comes behind the rows that there are, one for each of its lines. -/
theorem attempt_appendRow (h : v.value = .list raw) (row : String) :
    ∃ after, v.attempt (appendRow? · row) = (true, v.withValue (.list after))
      ∧ (v.withValue (.list after)).table = v.table
        ++ ((Text.lines row).filter (fun line => !line.isEmpty)).map
          (Text.splitOn · (· == separator)) := by
  have hfeed : "\n" = String.singleton '\n' := rfl
  have hends : Text.endsLine '\n' = true := rfl
  refine ⟨_, attempt_of_some (extend?_of_list h "\n" row), ?_⟩
  rw [table_of_list rfl, table_of_list h, Text.filter_lines, ← List.map_append, hfeed,
    Text.fullPieces_extended raw row hends]

/-! ## Taking out -/

theorem removeAt?_of_list (h : v.value = .list raw) (index : Int) :
    v.removeAt? index = if 0 ≤ index ∧ index < v.items.length then
      some (v.withValue (.list
        ((String.singleton separator).intercalate (v.items.eraseIdx index.toNat)))) else none := by
  unfold removeAt?
  rw [h]
  simp only [Bool.and_eq_true, decide_eq_true_eq, Int.ofNat_eq_natCast]

/-- The items that are left when one is taken out are those of the text that they are joined to. -/
theorem items_removed (h : v.value = .list raw) (place : Nat) :
    (v.withValue (.list ((String.singleton separator).intercalate
      (v.items.eraseIdx place)))).items = v.items.eraseIdx place := by
  rw [items_of_list rfl, items_of_list h]
  refine Text.fullPieces_intercalate ?_
  intro piece hpiece
  exact Text.of_mem_fullPieces (List.mem_of_mem_eraseIdx hpiece)

/-! ## Lists and what is no list -/

/-- **What a list variable does.** -/
structure KeepsList (v : Variable) : Prop where
  appendItem : ∀ item, ∃ after,
    v.attempt (appendItem? · item) = (true, v.withValue (.list after))
      ∧ (v.withValue (.list after)).items = v.items ++ Text.fullPieces item (· == separator)
  appendRow : ∀ row, ∃ after,
    v.attempt (appendRow? · row) = (true, v.withValue (.list after))
      ∧ (v.withValue (.list after)).table = v.table
        ++ ((Text.lines row).filter (fun line => !line.isEmpty)).map
          (Text.splitOn · (· == separator))
  removeAt : ∀ index : Int, 0 ≤ index → index < v.items.length → ∃ after,
    v.attempt (removeAt? · index) = (true, v.withValue (.list after))
      ∧ (v.withValue (.list after)).items = v.items.eraseIdx index.toNat
  removeAt_outside : ∀ index : Int, ¬(0 ≤ index ∧ index < v.items.length) →
    v.attempt (removeAt? · index) = (false, v)
  clear : v.attempt clearList? = (true, v.withValue (.list ""))
    ∧ (v.withValue (.list "")).items = [] ∧ (v.withValue (.list "")).table = []

/-- **What any other variable does**: it is neither a list nor a table, and stays as it is. -/
structure KeepsNoList (v : Variable) : Prop where
  items : v.items = []
  table : v.table = []
  appendItem : ∀ item, v.attempt (appendItem? · item) = (false, v)
  appendRow : ∀ row, v.attempt (appendRow? · row) = (false, v)
  removeAt : ∀ index, v.attempt (removeAt? · index) = (false, v)
  clear : v.attempt clearList? = (false, v)

theorem keepsList_of_list (h : v.value = .list raw) : v.KeepsList where
  appendItem := attempt_appendItem h
  appendRow := attempt_appendRow h
  removeAt index hlow hhigh := by
    refine ⟨_, attempt_of_some ?_, items_removed h index.toNat⟩
    rw [removeAt?_of_list h, if_pos ⟨hlow, hhigh⟩]
  removeAt_outside index houtside := by
    refine attempt_of_none ?_
    rw [removeAt?_of_list h, if_neg houtside]
  clear := by
    refine ⟨attempt_of_some ?_, rfl, rfl⟩
    unfold clearList?
    rw [h]

theorem keepsNoList_of_kind_ne (h : v.kind ≠ .list) : v.KeepsNoList := by
  cases hvalue : v.value with
  | list raw => exact absurd (congrArg Value.kind hvalue) h
  | text s | number n | boolean b =>
    constructor <;> intros <;>
      simp only [items, table, attempt, appendItem?, appendRow?, extend?, removeAt?, clearList?,
        hvalue]

/-- **The text of a list variable is a list and a table.** Appending an item adds its pieces to the
items, and appending a row adds a row for each of its lines to the table, whatever the text was;
taking out is done just at the places of the items and leaves the others, and a cleared list has
neither items nor rows. On a variable of any other type all of this is refused. -/
theorem lists_and_tables (v : Variable) :
    (v.kind = .list → v.KeepsList) ∧ (v.kind ≠ .list → v.KeepsNoList) := by
  refine ⟨fun hlist => ?_, keepsNoList_of_kind_ne⟩
  obtain ⟨raw, hraw⟩ := exists_list hlist
  exact keepsList_of_list hraw

/-- A text that ends with a carriage return: the line feed before the new row completes the line
end, and the new row begins with an empty line. -/
theorem lists_and_tables_torn :
    let torn : Variable := ⟨"l", .list "a;;b\r", ""⟩
    (∃ after, torn.attempt (appendRow? · "\nc;d") = (true, torn.withValue (.list after))
        ∧ (torn.withValue (.list after)).table = [["a", "", "b"], ["c", "d"]])
      ∧ (∃ after, torn.attempt (removeAt? · 0) = (true, torn.withValue (.list after))
        ∧ (torn.withValue (.list after)).items = ["b\r"])
      ∧ torn.attempt (removeAt? · 2) = (false, torn)
      ∧ (Variable.blank "n" .number).attempt (appendItem? · "a")
        = (false, Variable.blank "n" .number) := by
  intro torn
  have hlist := (lists_and_tables torn).1 rfl
  have hother := (lists_and_tables (Variable.blank "n" .number)).2 (by decide)
  exact ⟨hlist.appendRow "\nc;d", hlist.removeAt 0 (by decide) (by decide),
    hlist.removeAt_outside 2 (by decide), hother.appendItem "a"⟩

end DesktopMacro.Variable
