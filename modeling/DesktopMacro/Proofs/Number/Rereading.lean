/-
Numbers as they are read.

A number that can be written is read back from its text. And a number is read from a text just as
well without the blanks at its ends: reading puts up with fewer blanks than trimming cuts off, since
an information separator is none to it, so that every blank that it read past was one of its own. The
text is looked at in ASCII, where digits of other scripts are ASCII digits and other blanks are
spaces; no character of a number is lost or made on the way.
-/
import DesktopMacro.Proofs.Json.Writing
import DesktopMacro.Proofs.Text.Folding

set_option autoImplicit false

namespace DesktopMacro.Integer

variable {c : Char} {cs front back : List Char} {n : Int} {text : String}

/-! ## Reading in two steps -/

/-- The characters of a text as they are read. -/
def asciiOf (cs : List Char) : List Char := if cs.all Text.isAscii then cs else toAsciiFrom cs

/-- Reads a sign and the digits after it. -/
def readSigned : List Char → Except Fault Int
  | '-' :: rest => (readRun (some digitLimit) rest).map (fun n => -Int.ofNat n)
  | '+' :: rest => (readRun (some digitLimit) rest).map Int.ofNat
  | rest => (readRun (some digitLimit) rest).map Int.ofNat

theorem read_eq (text : String) :
    read text = readSigned ((asciiOf text.toList).dropWhile isPadding) := rfl

theorem readSigned_minus (cs : List Char) : readSigned ('-' :: cs)
    = (readRun (some digitLimit) cs).map (fun n => -Int.ofNat n) := rfl

theorem readSigned_plus (cs : List Char) :
    readSigned ('+' :: cs) = (readRun (some digitLimit) cs).map Int.ofNat := rfl

theorem readSigned_of_ne (hminus : c ≠ '-') (hplus : c ≠ '+') (cs : List Char) :
    readSigned (c :: cs) = (readRun (some digitLimit) (c :: cs)).map Int.ofNat := by
  unfold readSigned
  split
  · next heq =>
    cases heq
    exact absurd rfl hminus
  · next heq =>
    cases heq
    exact absurd rfl hplus
  · rfl

/-! ## Blanks beside the digits -/

/-- A digit or an underscore between digits. -/
def isInRun (c : Char) : Bool := c.isDigit || c == '_'

theorem isInRun_of_isPadding (h : isPadding c = true) : isInRun c = false := by
  have hcode : c.toNat ≤ 32 := by
    unfold isPadding at h
    simp only [Bool.or_eq_true, Bool.and_eq_true, decide_eq_true_eq, beq_iff_eq] at h
    obtain ⟨-, hcode⟩ | rfl := h
    · omega
    · decide
  unfold isInRun
  rw [Bool.eq_false_iff]
  intro hrun
  rw [Bool.or_eq_true, beq_iff_eq] at hrun
  obtain hdigit | rfl := hrun
  · have hdigit := Text.code_of_isDigit hdigit
    omega
  · exact absurd hcode (by decide)

/-- A run ends where the blanks behind it begin. -/
theorem splitRun_append (hback : ∀ c ∈ back, isPadding c = true) (cs : List Char) :
    (cs ++ back).takeWhile isInRun = cs.takeWhile isInRun
      ∧ (cs ++ back).dropWhile isInRun = cs.dropWhile isInRun ++ back := by
  induction cs with
  | nil =>
    cases back with
    | nil => exact ⟨rfl, rfl⟩
    | cons c back =>
      have hc : ¬isInRun c = true := by
        rw [isInRun_of_isPadding (hback c List.mem_cons_self)]
        exact Bool.false_ne_true
      exact ⟨List.takeWhile_cons_of_neg hc, List.dropWhile_cons_of_neg hc⟩
  | cons c cs ih =>
    by_cases hc : isInRun c = true
    · rw [List.cons_append, List.takeWhile_cons_of_pos hc, List.takeWhile_cons_of_pos hc,
        List.dropWhile_cons_of_pos hc, List.dropWhile_cons_of_pos hc, ih.1, ih.2]
      exact ⟨rfl, rfl⟩
    · rw [List.cons_append, List.takeWhile_cons_of_neg hc, List.takeWhile_cons_of_neg hc,
        List.dropWhile_cons_of_neg hc, List.dropWhile_cons_of_neg hc]
      exact ⟨rfl, rfl⟩

theorem readRun_eq (limit : Option Nat) (cs : List Char) : readRun limit cs =
    if !separatesDigits (cs.takeWhile isInRun) then .error .malformed
    else if limit.any (· < (cs.takeWhile isInRun).countP Char.isDigit) then
      .error (.tooLong ((cs.takeWhile isInRun).countP Char.isDigit))
    else if (cs.takeWhile isInRun).isEmpty || !((cs.dropWhile isInRun).all isPadding) then
      .error .malformed
    else .ok (valueOf (cs.takeWhile isInRun)) := rfl

theorem readRun_append (hback : ∀ c ∈ back, isPadding c = true) (limit : Option Nat)
    (cs : List Char) : readRun limit (cs ++ back) = readRun limit cs := by
  have hall : back.all isPadding = true := List.all_eq_true.2 hback
  rw [readRun_eq, readRun_eq, (splitRun_append hback cs).1, (splitRun_append hback cs).2,
    List.all_append, hall, Bool.and_true]

theorem readSigned_append (hback : ∀ c ∈ back, isPadding c = true) (c : Char) (cs : List Char) :
    readSigned (c :: cs ++ back) = readSigned (c :: cs) := by
  rw [List.cons_append]
  by_cases hminus : c = '-'
  · rw [hminus, readSigned_minus, readSigned_minus, readRun_append hback]
  by_cases hplus : c = '+'
  · rw [hplus, readSigned_plus, readSigned_plus, readRun_append hback]
  · rw [readSigned_of_ne hminus hplus, readSigned_of_ne hminus hplus, ← List.cons_append,
      readRun_append hback]

/-- **Blanks beside a number** are read past. -/
theorem readSigned_padded (hfront : ∀ c ∈ front, isPadding c = true)
    (hback : ∀ c ∈ back, isPadding c = true) (cs : List Char) :
    readSigned ((front ++ cs ++ back).dropWhile isPadding)
      = readSigned (cs.dropWhile isPadding) := by
  have hnone : back.dropWhile isPadding = [] := List.dropWhile_eq_nil_iff.2 hback
  rw [List.append_assoc, List.dropWhile_append_of_pos hfront, List.dropWhile_append, hnone]
  cases cs.dropWhile isPadding with
  | nil => rfl
  | cons c rest => exact readSigned_append hback c rest

/-! ## What is written -/

theorem separatesFrom_of_isDigit (h : ∀ c ∈ cs, c.isDigit = true) (afterDigit : Bool) :
    separatesFrom afterDigit cs = true := by
  induction cs generalizing afterDigit with
  | nil => rfl
  | cons c cs ih =>
    obtain ⟨hc, hcs⟩ := List.forall_mem_cons.1 h
    have hne : (c == '_') = false := by
      rw [beq_eq_false_iff_ne]
      rintro rfl
      cases hc
    unfold separatesFrom
    rw [hne]
    exact ih hcs _

theorem readRun_digits {n : Nat} (h : (digits n).length ≤ digitLimit) :
    readRun (some digitLimit) (digits n) = .ok n := by
  have hdigits : ∀ c ∈ digits n, c.isDigit = true := fun c => isDigit_of_mem_digits
  have hrun : ∀ c ∈ digits n, isInRun c = true := by
    intro c hc
    unfold isInRun
    rw [hdigits c hc, Bool.true_or]
  have htake : (digits n).takeWhile isInRun = digits n := List.takeWhile_eq_self_iff.2 hrun
  have hdrop : (digits n).dropWhile isInRun = [] := List.dropWhile_eq_nil_iff.2 hrun
  have hcount : (digits n).countP Char.isDigit = (digits n).length := List.countP_eq_length.2 hdigits
  have hfits : ¬(digitLimit < (digits n).length) := Nat.not_lt.2 h
  have hsome : (digits n).isEmpty = false := List.isEmpty_eq_false_iff.2 Nat.toDigits_ne_nil
  have hseparates : separatesDigits (digits n) = true := separatesFrom_of_isDigit hdigits false
  rw [readRun_eq, htake, hdrop, hcount, hseparates, hsome, valueOf_digits]
  simp [hfits]

theorem isBlank_of_isDigit (h : c.isDigit = true) : Text.isBlank c = false := by
  have hcode := Text.code_of_isDigit h
  rw [Bool.eq_false_iff]
  intro hblank
  unfold Text.isBlank at hblank
  simp only [Bool.or_eq_true, Bool.and_eq_true, decide_eq_true_eq, beq_iff_eq] at hblank
  omega

/-- The characters of a number that is written are ASCII, and none is a blank. -/
theorem plain_of_mem_toText (h : c ∈ (toText n).toList) :
    Text.isAscii c = true ∧ Text.isBlank c = false := by
  obtain rfl | hdigit := Json.numberChar_of_mem_toText h
  · exact ⟨rfl, rfl⟩
  · have hcode := Text.code_of_isDigit hdigit
    have hascii : c.toNat < 128 := by omega
    exact ⟨decide_eq_true hascii, isBlank_of_isDigit hdigit⟩

theorem trim_toText (n : Int) : Text.trim (toText n) = toText n :=
  Text.trim_of_not_isBlank fun _ hc => (plain_of_mem_toText hc).2

/-- **A number that can be written is read back.** -/
theorem read_toText (h : IsWritable n) : read (toText n) = .ok n := by
  have hascii : asciiOf (toText n).toList = (toText n).toList :=
    if_pos (List.all_eq_true.2 fun c hc => (plain_of_mem_toText hc).1)
  rw [read_eq, hascii]
  cases n with
  | ofNat m =>
    obtain ⟨c, cs, hcs⟩ : ∃ c cs, digits m = c :: cs :=
      List.exists_cons_of_ne_nil Nat.toDigits_ne_nil
    have hdigit : c.isDigit = true := isDigit_of_mem_digits (hcs ▸ List.mem_cons_self)
    have hpadding : ¬isPadding c = true := by
      intro hpadding
      have hrun := isInRun_of_isPadding hpadding
      unfold isInRun at hrun
      rw [hdigit] at hrun
      cases hrun
    have hminus : c ≠ '-' := by
      rintro rfl
      cases hdigit
    have hplus : c ≠ '+' := by
      rintro rfl
      cases hdigit
    rw [Json.toText_ofNat, hcs, List.dropWhile_cons_of_neg hpadding,
      readSigned_of_ne hminus hplus, ← hcs, readRun_digits (n := m) h]
    rfl
  | negSucc m =>
    rw [Json.toText_negSucc, List.dropWhile_cons_of_neg (by decide), readSigned_minus,
      readRun_digits (n := m + 1) h]
    rfl

/-! ## Trimming -/

/-- A character that a text may have that a number is read from. -/
def IsNumberChar (c : Char) : Prop := isPadding c = true ∨ isInRun c = true ∨ c = '-' ∨ c = '+'

theorem isNumberChar_of_readRun {limit : Option Nat} {m : Nat} (h : readRun limit cs = .ok m) :
    ∀ c ∈ cs, IsNumberChar c := by
  rw [readRun_eq] at h
  split at h
  · cases h
  · split at h
    · cases h
    · split at h
      · cases h
      · next hrest =>
        rw [Bool.not_eq_true, Bool.or_eq_false_iff, Bool.not_eq_false'] at hrest
        have hpadding := List.all_eq_true.1 hrest.2
        intro c hc
        rw [← List.takeWhile_append_dropWhile (p := isInRun) (l := cs), List.mem_append] at hc
        obtain hrun | hafter := hc
        · exact .inr (.inl (List.mem_takeWhile_imp hrun))
        · exact .inl (hpadding c hafter)

theorem isNumberChar_of_readSigned (h : readSigned cs = .ok n) : ∀ c ∈ cs, IsNumberChar c := by
  have hrun {r : Except Fault Nat} {sign : Nat → Int} (hr : r.map sign = .ok n) :
      ∃ m, r = .ok m := by
    cases r with
    | error fault => cases hr
    | ok m => exact ⟨m, rfl⟩
  unfold readSigned at h
  split at h
  · obtain ⟨m, hm⟩ := hrun h
    exact List.forall_mem_cons.2 ⟨.inr (.inr (.inl rfl)), isNumberChar_of_readRun hm⟩
  · obtain ⟨m, hm⟩ := hrun h
    exact List.forall_mem_cons.2 ⟨.inr (.inr (.inr rfl)), isNumberChar_of_readRun hm⟩
  · obtain ⟨m, hm⟩ := hrun h
    exact isNumberChar_of_readRun hm

/-- Where a number is read, there is nothing but a number and blanks beside it. -/
theorem isNumberChar_of_read (h : readSigned (cs.dropWhile isPadding) = .ok n) :
    ∀ c ∈ cs, IsNumberChar c := by
  intro c hc
  rw [← List.takeWhile_append_dropWhile (p := isPadding) (l := cs), List.mem_append] at hc
  obtain hbefore | hafter := hc
  · exact .inl (List.mem_takeWhile_imp hbefore)
  · exact isNumberChar_of_readSigned h c hafter

/-- A blank of a number is one that stands beside the digits. -/
theorem isPadding_of_isBlank (hblank : Text.isBlank c = true) (h : IsNumberChar c) :
    isPadding c = true := by
  obtain hpadding | hrun | rfl | rfl := h
  · exact hpadding
  · unfold isInRun at hrun
    rw [Bool.or_eq_true, beq_iff_eq] at hrun
    obtain hdigit | rfl := hrun
    · rw [isBlank_of_isDigit hdigit] at hblank
      cases hblank
    · cases hblank
  · cases hblank
  · cases hblank

/-! ## Text beyond ASCII -/

theorem not_isNumberChar_mark : ¬IsNumberChar '?' := by
  unfold IsNumberChar
  decide

/-- A character in ASCII, if it is one that a number may have. -/
def asciiChar? (c : Char) : Option Char :=
  if c.toNat < 127 then some c
  else if Text.isBlank c then some ' '
  else (Text.decimalValue? c).map fun value => Char.ofNat (48 + value)

theorem toAsciiFrom_cons (c : Char) (cs : List Char) : toAsciiFrom (c :: cs) =
    match asciiChar? c with
    | some d => d :: toAsciiFrom cs
    | none => ['?'] := by
  unfold asciiChar?
  conv => lhs; unfold toAsciiFrom
  by_cases hlow : c.toNat < 127
  · rw [if_pos hlow, if_pos hlow]
  by_cases hblank : Text.isBlank c = true
  · rw [if_neg hlow, if_neg hlow, if_pos hblank, if_pos hblank]
  · rw [if_neg hlow, if_neg hlow, if_neg hblank, if_neg hblank]
    cases Text.decimalValue? c <;> rfl

/-- Where nothing is cut off, the texts before and behind a place are put into ASCII apart. -/
theorem toAsciiFrom_append (h : '?' ∉ toAsciiFrom (front ++ back)) :
    toAsciiFrom (front ++ back) = toAsciiFrom front ++ toAsciiFrom back := by
  induction front with
  | nil => rfl
  | cons c front ih =>
    rw [List.cons_append, toAsciiFrom_cons] at h
    rw [List.cons_append, toAsciiFrom_cons, toAsciiFrom_cons]
    cases hc : asciiChar? c with
    | none =>
      rw [hc] at h
      exact absurd List.mem_cons_self h
    | some d =>
      rw [hc] at h
      dsimp only at h ⊢
      rw [List.mem_cons, not_or] at h
      rw [ih h.2, List.cons_append]

/-- Text in ASCII stays as it is, if nothing is cut off. -/
theorem toAsciiFrom_of_isAscii (hascii : ∀ c ∈ cs, Text.isAscii c = true)
    (h : '?' ∉ toAsciiFrom cs) : toAsciiFrom cs = cs := by
  induction cs with
  | nil => rfl
  | cons c cs ih =>
    obtain ⟨hc, hcs⟩ := List.forall_mem_cons.1 hascii
    rw [toAsciiFrom_cons] at h ⊢
    by_cases hlow : c.toNat < 127
    · have hsame : asciiChar? c = some c := if_pos hlow
      rw [hsame] at h ⊢
      dsimp only at h ⊢
      rw [List.mem_cons, not_or] at h
      rw [ih hcs h.2]
    · -- The last character of ASCII is the only one that is not kept, and no number has it.
      have hcode : c.toNat = 127 := by
        have hbound := Text.isAscii_iff.1 hc
        omega
      have hlast : asciiChar? (Char.ofNat 127) = none := by decide
      rw [← Char.ofNat_toNat c, hcode, hlast] at h
      exact absurd List.mem_cons_self h

/-- Blanks of a number become blanks that stand beside the digits. -/
theorem isPadding_of_mem_toAsciiFrom (hblank : ∀ c ∈ cs, Text.isBlank c = true)
    (h : ∀ c ∈ toAsciiFrom cs, IsNumberChar c) : ∀ c ∈ toAsciiFrom cs, isPadding c = true := by
  induction cs with
  | nil => exact nofun
  | cons c cs ih =>
    obtain ⟨hc, hcs⟩ := List.forall_mem_cons.1 hblank
    rw [toAsciiFrom_cons] at h ⊢
    by_cases hlow : c.toNat < 127
    · have hsame : asciiChar? c = some c := if_pos hlow
      rw [hsame] at h ⊢
      obtain ⟨hnumber, hrest⟩ := List.forall_mem_cons.1 h
      exact List.forall_mem_cons.2 ⟨isPadding_of_isBlank hc hnumber, ih hcs hrest⟩
    · have hspace : asciiChar? c = some ' ' := (if_neg hlow).trans (if_pos hc)
      rw [hspace] at h ⊢
      exact List.forall_mem_cons.2 ⟨rfl, ih hcs (List.forall_mem_cons.1 h).2⟩

/-- **A number with blanks beside it** has blanks that are read past beside it in ASCII. -/
theorem exists_asciiOf_append (hfront : ∀ c ∈ front, Text.isBlank c = true)
    (hback : ∀ c ∈ back, Text.isBlank c = true)
    (h : ∀ c ∈ asciiOf (front ++ cs ++ back), IsNumberChar c) :
    ∃ before after, (∀ c ∈ before, isPadding c = true) ∧ (∀ c ∈ after, isPadding c = true)
      ∧ asciiOf (front ++ cs ++ back) = before ++ asciiOf cs ++ after := by
  unfold asciiOf at h ⊢
  by_cases hascii : (front ++ cs ++ back).all Text.isAscii = true
  · rw [if_pos hascii] at h ⊢
    have hmiddle : cs.all Text.isAscii = true := by
      rw [List.all_append, List.all_append, Bool.and_eq_true, Bool.and_eq_true] at hascii
      exact hascii.1.2
    have hpadding {part : List Char} (hpart : ∀ c ∈ part, Text.isBlank c = true)
        (hsub : part ⊆ front ++ cs ++ back) : ∀ c ∈ part, isPadding c = true :=
      fun c hc => isPadding_of_isBlank (hpart c hc) (h c (hsub hc))
    rw [if_pos hmiddle]
    exact ⟨front, back, hpadding hfront (by simp), hpadding hback (by simp), rfl⟩
  · rw [if_neg hascii] at h ⊢
    have hmark {part : List Char} (hpart : ∀ c ∈ toAsciiFrom part, IsNumberChar c) :
        '?' ∉ toAsciiFrom part := fun hmem => not_isNumberChar_mark (hpart '?' hmem)
    -- Nothing is cut off, so the three parts are put into ASCII apart.
    have hwhole := toAsciiFrom_append (hmark h)
    rw [hwhole, List.forall_mem_append] at h
    obtain ⟨hstart, hend⟩ := h
    have hcut := toAsciiFrom_append (hmark hstart)
    rw [hcut, List.forall_mem_append] at hstart
    obtain ⟨hbefore, hmiddle⟩ := hstart
    refine ⟨toAsciiFrom front, toAsciiFrom back, isPadding_of_mem_toAsciiFrom hfront hbefore,
      isPadding_of_mem_toAsciiFrom hback hend, ?_⟩
    rw [hwhole, hcut]
    split
    · next hplain =>
      rw [toAsciiFrom_of_isAscii (List.all_eq_true.1 hplain) (hmark hmiddle)]
    · rfl

/-- **A number is read from the trimmed text**, too. -/
theorem read_trim (h : read text = .ok n) : read (Text.trim text) = .ok n := by
  obtain ⟨front, back, hfront, hback, htext⟩ := Text.exists_eq_trim text
  rw [read_eq] at h ⊢
  -- The trimmed text is any text from here on, so that nothing tries to compute it.
  generalize (Text.trim text).toList = middle at htext ⊢
  have hnumber := isNumberChar_of_read h
  rw [htext] at h hnumber
  obtain ⟨before, after, hbefore, hafter, hascii⟩ := exists_asciiOf_append hfront hback hnumber
  rwa [hascii, readSigned_padded hbefore hafter] at h

end DesktopMacro.Integer
