/-
What a variable is when its type was inferred.

Looking for the type and reading the value look at the text separately, and agree: a value of the
type that a text suggests is read from the text exactly, and nothing is made up and noted. Its own
text then suggests the same type and the same value again, because a number is written as it is read
and a truth value as a truth word, so setting the variable to what it shows changes nothing.

The number in a text is the one that is read once the text is trimmed. It is the one that is read
from the text as it stands, if there is one; but an information separator at an end is trimmed off,
and no number is read past it.
-/
import DesktopMacro.Proofs.Json.Showing
import DesktopMacro.Proofs.Number.Rereading
import DesktopMacro.Proofs.Variable.Setting

set_option autoImplicit false

namespace DesktopMacro

namespace Variable

/-- **A value that is read from a text exactly.** -/
inductive Value.IsExact (text : String) : Value → Prop
  | text : IsExact text (.text text)
  | list : IsExact text (.list text)
  | number {n : Int} (h : Integer.read (Text.trim text) = .ok n) :
      IsExact text (.number (.whole n))
  /-- A truth word in any case. -/
  | boolean {b : Bool} (h : Text.lower (Text.trim text) = if b then "true" else "false") :
      IsExact text (.boolean b)

/-- The number that is read from the text as it stands is the one in the value. -/
theorem Value.IsExact.eq_of_read {value : Value} {text : String} (h : value.IsExact text)
    (hkind : value.kind = .number) {n : Int} (hread : Integer.read text = .ok n) :
    value = .number (.whole n) := by
  cases h with
  | text | list | boolean h => cases hkind
  | number h =>
    rw [Integer.read_trim hread] at h
    cases h
    rfl

theorem read_of_numberOf? {text : String} {n : Int} (h : numberOf? text = some n) :
    Integer.read (Text.trim text) = .ok n := by
  unfold numberOf? at h
  cases hread : Integer.read (Text.trim text) with
  | error fault =>
    rw [hread] at h
    cases h
  | ok m =>
    rw [hread] at h
    cases h
    rfl

theorem kind_suggested (text : String) : (Value.suggested text).kind = inferKind text := by
  unfold Value.suggested
  cases inferKind text <;> rfl

/-- **The value that a text suggests is read from it exactly.** -/
theorem isExact_suggested (text : String) : (Value.suggested text).IsExact text := by
  unfold Value.suggested
  cases hkind : inferKind text with
  | text => exact .text
  | list => exact .list
  | number =>
    obtain ⟨n, hn⟩ := numberOf?_of_inferKind hkind
    dsimp only
    rw [hn]
    exact .number (read_of_numberOf? hn)
  | boolean =>
    have hword := isTruthWord_of_inferKind hkind
    unfold isTruthWord at hword
    rw [Bool.or_eq_true, beq_iff_eq, beq_iff_eq] at hword
    refine .boolean ?_
    obtain hword | hword := hword <;> rw [hword] <;> rfl

/-! ## Its own text -/

/-- A digit or a minus has no small form. -/
theorem lowerChar_of_number {c : Char} (h : c = '-' ∨ c.isDigit = true) :
    Text.lowerChar c = [c] ∧ (c == 'Σ') = false ∧ c ≠ 't' ∧ c ≠ 'f' := by
  have hall : ∀ c, Text.isAscii c = true → (c = '-' ∨ c.isDigit = true) →
      Text.lowerChar c = [c] ∧ (c == 'Σ') = false ∧ c ≠ 't' ∧ c ≠ 'f' :=
    Text.forall_ascii (by decide +kernel)
  refine hall c ?_ h
  obtain rfl | hdigit := h
  · decide
  · exact Text.isAscii_of_isDigit hdigit

/-- A number in decimal is no truth word: it begins with a digit or a minus. -/
theorem isTruthWord_toText (n : Int) : isTruthWord (Text.lower (Integer.toText n)) = false := by
  have hsome : (Integer.toText n).toList ≠ [] := by
    rw [Ne, String.toList_eq_nil_iff]
    exact Integer.toText_ne_empty n
  obtain ⟨c, cs, hcs⟩ := List.exists_cons_of_ne_nil hsome
  have hc := Json.numberChar_of_mem_toText (hcs ▸ List.mem_cons_self : c ∈ (Integer.toText n).toList)
  obtain ⟨hlower, hsigma, htrue, hfalse⟩ := lowerChar_of_number hc
  have hstart : (Text.lower (Integer.toText n)).toList = c :: Text.lowerAfter [c] cs := by
    unfold Text.lower
    rw [String.toList_ofList, hcs]
    conv => lhs; unfold Text.lowerAfter
    rw [hsigma, hlower]
    rfl
  have hne (word : String) {d : Char} {ds : List Char} (hword : word.toList = d :: ds)
      (hd : c ≠ d) : (Text.lower (Integer.toText n) == word) = false := by
    rw [beq_eq_false_iff_ne]
    intro heq
    rw [← heq, hstart] at hword
    exact hd (List.cons.inj hword).1
  unfold isTruthWord
  rw [hne "true" rfl htrue, hne "false" rfl hfalse]
  rfl

theorem numberOf?_toText {n : Int} (h : Integer.IsWritable n) :
    numberOf? (Integer.toText n) = some n := by
  unfold numberOf?
  rw [Integer.trim_toText, Integer.read_toText h]
  rfl

theorem inferKind_toText {n : Int} (h : Integer.IsWritable n) :
    inferKind (Integer.toText n) = .number := by
  unfold inferKind
  rw [Integer.trim_toText, isTruthWord_toText, numberOf?_toText h]
  rfl

/-- **What a text is handed on as suggests what the text suggested.** -/
theorem suggested_handedOn (text : String) :
    Value.suggested (handedOn text) = Value.suggested text := by
  unfold handedOn
  cases hkind : inferKind text with
  | text | list => rfl
  | number =>
    obtain ⟨n, hn⟩ := numberOf?_of_inferKind hkind
    have hwritable := isWritable_of_numberOf? hn
    unfold Value.suggested
    rw [hkind, hn]
    dsimp only [Option.getD_some]
    rw [inferKind_toText hwritable, numberOf?_toText hwritable]
    rfl
  | boolean =>
    have htrue : Value.suggested "True" = .boolean true := by decide +kernel
    have hfalse : Value.suggested "False" = .boolean false := by decide +kernel
    have hsuggested : Value.suggested text
        = .boolean (Text.lower (Text.trim text) == "true") := by
      unfold Value.suggested
      rw [hkind]
    rw [hsuggested]
    cases Text.lower (Text.trim text) == "true" with
    | true => exact htrue
    | false => exact hfalse

theorem inferKind_handedOn (text : String) : inferKind (handedOn text) = inferKind text := by
  rw [← kind_suggested, suggested_handedOn, kind_suggested]

end Variable

namespace Store

/-- Setting without a type puts what the text suggests, and notes nothing. -/
theorem set_inferred (store : Store) (name text : String) :
    ∃ v, store.set name text none = (store.put v, v, []) ∧ v.name = name
      ∧ v.value = Variable.Value.suggested text := by
  have hkind : (store.demand name (Variable.inferKind text)).value.kind = Variable.inferKind text :=
    store.kind_demand name _
  refine ⟨(store.demand name (Variable.inferKind text)).withValue (.suggested text), ?_, ?_,
    Variable.value_withValue _ _⟩
  · unfold set Variable.assign
    dsimp only [Option.getD_none]
    rw [Variable.ofText_of_kind hkind]
  · rw [Variable.name_withValue, name_demand]

/-- What was set is set again to what it shows, and stays. -/
theorem set_shown {v : Variable} {text : String}
    (hvalue : v.value = Variable.Value.suggested text) (store : Store) :
    (store.put v).set v.name (Variable.handedOn text) none = (store.put v, v, []) := by
  have hkind : v.kind = Variable.inferKind (Variable.handedOn text) := by
    rw [Variable.inferKind_handedOn, ← Variable.kind_suggested, ← hvalue]
    rfl
  have hsame : v.withValue (Variable.Value.suggested (Variable.handedOn text)) = v := by
    rw [Variable.suggested_handedOn, ← hvalue, Variable.withValue_self]
  unfold set Variable.assign
  dsimp only [Option.getD_none]
  rw [← hkind, demand_put_self, Variable.ofText_of_kind hkind]
  dsimp only
  rw [hsame, store.put_put rfl]

/-- **An inferred assignment is exact, and setting the variable to what it shows changes nothing.**
Whatever the variable was, it has the type that the text suggests and a value that is read from the
text exactly, and nothing is noted; a number that is read from the text as it stands is the one. And
the variable shows a text to which it can be set again, and the whole store stays as it is. -/
theorem inferred_exact (store : Store) (name text : String) :
    ∃ v, store.set name text none = (store.put v, v, [])
      ∧ (store.put v).find? name = some v
      ∧ v.kind = Variable.inferKind text ∧ v.value.IsExact text
      ∧ (∀ n, v.kind = .number → Integer.read text = .ok n → v.value = .number (.whole n))
      ∧ ∃ shown, (store.put v).text name "" = .ok shown
        ∧ (store.put v).set name shown none = (store.put v, v, []) := by
  obtain ⟨v, hset, rfl, hvalue⟩ := store.set_inferred name text
  have hkind : v.kind = Variable.inferKind text := by
    rw [← Variable.kind_suggested, ← hvalue]
    rfl
  have hexact : v.value.IsExact text := hvalue ▸ Variable.isExact_suggested text
  refine ⟨v, hset, store.find?_put_self v, hkind, hexact,
    fun n hnumber hread => hexact.eq_of_read hnumber hread, Variable.handedOn text, ?_,
    set_shown hvalue store⟩
  unfold Store.text
  rw [find?_put_self]
  dsimp only
  rw [hvalue, Variable.show?_suggested]

/-- A number with a sign, a leading zero, an underscore and blanks beside it, in the place of a
text. -/
theorem inferred_exact_padded :
    let store : Store := ⟨[⟨"n", .text "old", "kept"⟩]⟩
    ∃ v, store.set "n" " -0_7\t" none = (store.put v, v, [])
      ∧ v.kind = .number ∧ v.value = .number (.whole (-7))
      ∧ ∃ shown, (store.put v).text "n" "" = .ok shown
        ∧ (store.put v).set "n" shown none = (store.put v, v, []) := by
  intro store
  obtain ⟨v, hset, -, hkind, -, hread, hshown⟩ := inferred_exact store "n" " -0_7\t"
  have hnumber : v.kind = .number := hkind.trans (by decide +kernel)
  exact ⟨v, hset, hnumber, hread (-7) hnumber (by rfl), hshown⟩

/-- **Not every text that becomes a number is one as it stands**: the information separator before
the digit is trimmed off, but no number is read past it. -/
theorem set_behind_separator :
    Variable.inferKind "\x1c5" = .number
      ∧ (empty.set "n" "\x1c5" none).2.1.value = .number (.whole 5)
      ∧ ∀ n, Integer.read "\x1c5" ≠ .ok n := by
  have hread : Integer.read "\x1c5" = .error .malformed := by rfl
  refine ⟨by decide +kernel, by rfl, fun n hn => ?_⟩
  rw [hread] at hn
  cases hn

end Store
end DesktopMacro
