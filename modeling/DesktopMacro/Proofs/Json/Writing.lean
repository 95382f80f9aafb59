/-
What is written spells the value.

A document is read back, whatever its layout: a value is written as a text that spells it. That
takes a value without doubles, in which no object has a name twice, no number is too long and
nothing lies too deep. The induction is on the value; the text behind it is generalised, and has to
be one that no number goes on into.
-/
import Mathlib.Algebra.Ring.Nat
import Mathlib.Data.List.Nodup
import DesktopMacro.Json.Writer
import DesktopMacro.Proofs.Json.Spelling

set_option autoImplicit false

namespace DesktopMacro

/-! ## Whole numbers -/

namespace Integer

theorem isDigit_of_mem_digits {n : Nat} {c : Char} (h : c ∈ digits n) : c.isDigit = true :=
  Nat.isDigit_of_mem_toDigits (by decide) (by decide) h

/-- Digits have the value that they have elsewhere. -/
theorem valueOf_eq {run : List Char} (h : ∀ c ∈ run, c.isDigit = true) :
    valueOf run = Nat.ofDigitChars 10 run 0 := by
  have hfold : ∀ start : Nat, run.foldl (fun value c =>
      if c == '_' then value else 10 * value + (c.toNat - 48)) start
        = Nat.ofDigitChars 10 run start := by
    induction run with
    | nil => exact fun start => rfl
    | cons c run ih =>
      intro start
      have hc : (c == '_') = false := by
        rw [beq_eq_false_iff_ne]
        rintro rfl
        exact absurd (h '_' List.mem_cons_self) (by decide)
      rw [List.foldl_cons, Nat.ofDigitChars_cons, hc,
        ih fun d hd => h d (List.mem_cons_of_mem c hd)]
      rfl
  exact hfold 0

theorem valueOf_digits (n : Nat) : valueOf (digits n) = n := by
  rw [valueOf_eq fun c hc => isDigit_of_mem_digits hc]
  exact Nat.ofDigitChars_ten_toDigits

/-- Only zero is written with a zero in front. -/
theorem eq_zero_of_digits {n : Nat} {cs : List Char} (h : digits n = '0' :: cs) : n = 0 := by
  induction n using Nat.strongRecOn generalizing cs with
  | _ n ih =>
    unfold digits at h ih
    by_cases hn : n < 10
    · rw [Nat.toDigits_of_lt_base hn] at h
      have hdigit : n.digitChar = '0' := (List.cons.inj h).1
      clear h ih
      revert n
      decide
    · rw [Nat.toDigits_of_base_le (by decide) (by omega)] at h
      obtain ⟨c, front, hfront⟩ : ∃ c front, Nat.toDigits 10 (n / 10) = c :: front :=
        List.exists_cons_of_ne_nil Nat.toDigits_ne_nil
      rw [hfront, List.cons_append] at h
      have hc : c = '0' := (List.cons.inj h).1
      have hzero : n / 10 = 0 := ih (n / 10) (by omega) (hc ▸ hfront)
      omega

end Integer

namespace Json

theorem wholePart_digits (n : Nat) :
    wholePart (Integer.digits n) = some (Integer.digits n, []) := by
  have hdigits : ∀ c ∈ Integer.digits n, c.isDigit = true := fun c =>
    Integer.isDigit_of_mem_digits
  obtain ⟨c, cs, hcs⟩ : ∃ c cs, Integer.digits n = c :: cs :=
    List.exists_cons_of_ne_nil Nat.toDigits_ne_nil
  rw [hcs] at hdigits ⊢
  by_cases hc : c = '0'
  · subst hc
    have hn := Integer.eq_zero_of_digits hcs
    subst hn
    cases hcs
    rfl
  · have hne : ¬(c == '0') = true := by simpa using hc
    have htake : (c :: cs).takeWhile Char.isDigit = c :: cs := List.takeWhile_eq_self_iff.2 hdigits
    have hdrop : (c :: cs).dropWhile Char.isDigit = [] := List.dropWhile_eq_nil_iff.2 hdigits
    change (if (c == '0') = true then _ else if c.isDigit = true then _ else _) = _
    rw [if_neg hne, if_pos (hdigits c List.mem_cons_self), htake, hdrop]

theorem toText_ofNat (m : Nat) : (Integer.toText (.ofNat m)).toList = Integer.digits m :=
  String.toList_ofList

theorem toText_negSucc (m : Nat) :
    (Integer.toText (.negSucc m)).toList = '-' :: Integer.digits (m + 1) :=
  String.toList_ofList

/-- A number is written with its sign, if it is negative, and its digits. -/
theorem signOf_toText (n : Int) :
    signOf (Integer.toText n).toList = (decide (n < 0), Integer.digits n.natAbs) := by
  cases n with
  | ofNat m =>
    obtain ⟨c, cs, hcs⟩ : ∃ c cs, Integer.digits m = c :: cs :=
      List.exists_cons_of_ne_nil Nat.toDigits_ne_nil
    have hminus : c ≠ '-' := by
      rintro rfl
      have hdigit : '-' ∈ Integer.digits m := hcs ▸ List.mem_cons_self
      exact absurd (Integer.isDigit_of_mem_digits hdigit) (by decide)
    have hsign : signOf (c :: cs) = (false, c :: cs) := by
      unfold signOf
      split
      · next heq =>
        cases heq
        exact absurd rfl hminus
      · rfl
    rw [toText_ofNat, Int.ofNat_eq_natCast, Int.natAbs_natCast, hcs, hsign]
    simp
  | negSucc m =>
    rw [toText_negSucc, Int.natAbs_negSucc]
    simp [signOf, Int.negSucc_lt_zero]

theorem numberChar_of_mem_toText {n : Int} {c : Char} (h : c ∈ (Integer.toText n).toList) :
    c = '-' ∨ c.isDigit = true := by
  cases n with
  | ofNat m =>
    rw [toText_ofNat] at h
    exact .inr (Integer.isDigit_of_mem_digits h)
  | negSucc m =>
    rw [toText_negSucc, List.mem_cons] at h
    exact h.imp_right Integer.isDigit_of_mem_digits

theorem isScalarChar_of_mem_toText {n : Int} {c : Char} (h : c ∈ (Integer.toText n).toList) :
    isScalarChar c = true := by
  rcases numberChar_of_mem_toText h with rfl | hdigit
  · rfl
  · exact isScalarChar_of_isDigit hdigit

/-- No word stands for a value and is a number too: each has a letter. -/
theorem find?_constants_toText (n : Int) :
    constants.find? (fun entry => entry.1.isPrefixOf (Integer.toText n).toList) = none := by
  have hletters : ∀ entry ∈ constants, ∃ c ∈ entry.1, c ≠ '-' ∧ c.isDigit = false := by
    have hall : constants.all (fun entry => entry.1.any fun c => c != '-' && !c.isDigit) = true :=
      by decide
    simpa using hall
  rw [List.find?_eq_none]
  intro entry hentry hprefix
  obtain ⟨c, hc, hminus, hdigit⟩ := hletters entry hentry
  have hmem := (List.isPrefixOf_iff_prefix.1 hprefix).subset hc
  rcases numberChar_of_mem_toText hmem with h | h
  · exact hminus h
  · rw [hdigit] at h
    cases h

/-- **A writable number is read back.** -/
theorem readScalar_toText {n : Int} (h : Integer.IsWritable n) :
    readScalar .usual (Integer.toText n).toList = .ok (int n, []) := by
  have hfits : ¬(Limits.usual.digits.any (· < (Integer.digits n.natAbs).length)) = true := by
    unfold Integer.IsWritable at h
    simpa [Limits.usual] using h
  have hvalue : (if decide (n < 0) = true then -Int.ofNat n.natAbs else Int.ofNat n.natAbs)
      = n := by
    simp only [decide_eq_true_eq, Int.ofNat_eq_natCast]
    omega
  have hnumber : (readNumber .usual (Integer.toText n).toList).toOption = some (int n, []) := by
    rw [toOption_readNumber, signOf_toText]
    unfold unsigned
    rw [wholePart_digits]
    have hwhole : (([] : List Char).isEmpty && (none : Option Int).isNone) = true := rfl
    dsimp only [fractionPart, exponentPart]
    rw [if_pos hwhole, if_neg hfits, Integer.valueOf_digits, hvalue]
  unfold readScalar
  rw [find?_constants_toText]
  dsimp only
  cases hread : readNumber .usual (Integer.toText n).toList with
  | ok result =>
    rw [hread] at hnumber
    cases hnumber
    rfl
  | error fault =>
    rw [hread] at hnumber
    cases hnumber

/-! ## Strings -/

/-- A unit that is no half stands for its character. -/
theorem joinPieces_unit {n : Nat} (h : n < 0xd800 ∨ 0xe000 ≤ n) (pieces : List Piece) :
    joinPieces (.unit n :: pieces) = Char.ofNat n :: joinPieces pieces := by
  have hhigh : isHighHalf n = false := by simp [isHighHalf]; omega
  have hlow : isLowHalf n = false := by simp [isLowHalf]; omega
  rcases pieces with _ | ⟨_ | _, pieces⟩ <;> simp [joinPieces, hhigh, hlow]

/-- Two halves in a row stand for one character. -/
theorem joinPieces_halves {n : Nat} (h : n < 0x100000) (pieces : List Piece) :
    joinPieces (.unit (0xd800 + n / 0x400) :: .unit (0xdc00 + n % 0x400) :: pieces)
      = Char.ofNat (0x10000 + n) :: joinPieces pieces := by
  have hhigh : isHighHalf (0xd800 + n / 0x400) = true := by simp [isHighHalf]; omega
  have hlow : isLowHalf (0xdc00 + n % 0x400) = true := by simp [isLowHalf]; omega
  have hwhole : 0x10000 + (0xd800 + n / 0x400 - 0xd800) * 0x400 + (0xdc00 + n % 0x400 - 0xdc00)
      = 0x10000 + n := by omega
  simp only [joinPieces, hhigh, hlow, hwhole]
  rfl

theorem hexValue?_hexDigit : ∀ n < 16, hexValue? (Text.hexDigit n) = some n := by decide

/-- A digit more at the end. -/
theorem hexNumber?_append {cs : List Char} {c : Char} {n d : Nat} (hcs : hexNumber? cs = some n)
    (hc : hexValue? c = some d) : hexNumber? (cs ++ [c]) = some (16 * n + d) := by
  induction cs generalizing n with
  | nil =>
    cases hcs
    simp [hexNumber?, hc]
  | cons b cs ih =>
    unfold hexNumber? at hcs
    obtain ⟨high, hhigh, hcs⟩ := Option.bind_eq_some_iff.1 hcs
    obtain ⟨low, hlow, hsum⟩ := Option.bind_eq_some_iff.1 hcs
    have hn : high * 16 ^ cs.length + low = n := Option.some.inj hsum
    have hpower : 16 ^ (cs.length + 1) = 16 * 16 ^ cs.length := by rw [Nat.pow_succ, Nat.mul_comm]
    rw [List.cons_append, hexNumber?, hhigh, ih hlow, List.length_append, List.length_singleton,
      hpower, ← hn]
    show some (high * (16 * 16 ^ cs.length) + (16 * low + d))
      = some (16 * (high * 16 ^ cs.length + low) + d)
    congr 1
    rw [Nat.mul_add, Nat.mul_left_comm]
    omega

theorem hexNumber?_hexDigits (width n : Nat) :
    hexNumber? (Text.hexDigits width n) = some (n % 16 ^ width) := by
  induction width generalizing n with
  | zero =>
    rw [Nat.pow_zero, Nat.mod_one]
    rfl
  | succ width ih =>
    have hlast := hexValue?_hexDigit (n % 16) (Nat.mod_lt n (by decide))
    have hsplit : 16 * (n / 16 % 16 ^ width) + n % 16 = n % 16 ^ (width + 1) := by
      rw [Nat.pow_succ, Nat.mul_comm (16 ^ width), Nat.mod_mul]
      omega
    rw [Text.hexDigits, hexNumber?_append (ih (n / 16)) hlast, hsplit]

/-- A unit in four digits. -/
theorem hexDigits_unit {n : Nat} (h : n < 0x10000) : ∃ a b c d, Text.hexDigits 4 n = [a, b, c, d]
    ∧ hexNumber? [a, b, c, d] = some n := by
  have hnumber := hexNumber?_hexDigits 4 n
  have hsame : n % 16 ^ 4 = n := Nat.mod_eq_of_lt h
  rw [hsame] at hnumber
  exact ⟨_, _, _, _, rfl, hnumber⟩

/-- **How a character of a string is written**: behind a backslash, by its number, or as it is. If
characters beyond ASCII stay as they are, only control characters are written by their number. -/
theorem stringChar_cases (asciiOnly : Bool) (c : Char) :
    (∃ d, escapedChar? d = some c ∧ d ≠ '\r' ∧ stringChar asciiOnly c = ['\\', d])
      ∨ ((asciiOnly = false → c.toNat < 32) ∧ stringChar asciiOnly c = numberEscape c)
      ∨ (c ≠ '"' ∧ c ≠ '\\' ∧ 32 ≤ c.toNat ∧ stringChar asciiOnly c = [c]) := by
  by_cases hsame : c = '"' ∨ c = '\\'
  · left
    rcases hsame with rfl | rfl <;> exact ⟨_, rfl, by decide, rfl⟩
  by_cases hletter : c = '\n' ∨ c = '\r' ∨ c = '\t' ∨ c = '\x08' ∨ c = '\x0c'
  · left
    rcases hletter with rfl | rfl | rfl | rfl | rfl
    · exact ⟨'n', rfl, by decide, rfl⟩
    · exact ⟨'r', rfl, by decide, rfl⟩
    · exact ⟨'t', rfl, by decide, rfl⟩
    · exact ⟨'b', rfl, by decide, rfl⟩
    · exact ⟨'f', rfl, by decide, rfl⟩
  rw [not_or] at hsame
  simp only [not_or] at hletter
  by_cases hnumber : c.toNat < 32 ∨ asciiOnly = true ∧ 126 < c.toNat
  · refine .inr (.inl ⟨fun hascii => ?_, by simp [stringChar, hsame, hletter, hnumber]⟩)
    rcases hnumber with hcontrol | ⟨htrue, -⟩
    · exact hcontrol
    · rw [hascii] at htrue
      cases htrue
  · have hshown := not_or.1 hnumber
    exact .inr (.inr ⟨hsame.1, hsame.2, Nat.not_lt.1 hshown.1,
      by simp [stringChar, hsame, hletter, hnumber]⟩)

/-- The pieces of a string with this character in front. -/
def Starts (c : Char) (written : List Char) : Prop :=
  ∃ front : List Piece,
    (∀ {pieces : List Piece} {cs rest : List Char}, Pieces pieces cs rest →
      Pieces (front ++ pieces) (written ++ cs) rest)
    ∧ ∀ pieces, joinPieces (front ++ pieces) = c :: joinPieces pieces

theorem pieces_unitEscape {n : Nat} (h : n < 0x10000) {pieces : List Piece} {cs rest : List Char}
    (hpieces : Pieces pieces cs rest) : Pieces (.unit n :: pieces) (unitEscape n ++ cs) rest := by
  obtain ⟨x, y, z, w, hdigits, hnumber⟩ := hexDigits_unit h
  unfold unitEscape
  rw [hdigits]
  exact .unit hnumber hpieces

/-- A character that is written by its number is no half of another one. -/
theorem starts_numberEscape (c : Char) : Starts c (numberEscape c) := by
  have hvalid : c.toNat < 0xd800 ∨ 0xe000 ≤ c.toNat ∧ c.toNat < 0x110000 := by
    rcases c.valid with hlow | ⟨hhigh, hlimit⟩
    · exact .inl hlow
    · exact .inr ⟨hhigh, hlimit⟩
  unfold numberEscape
  dsimp only
  split
  · next hunit =>
    refine ⟨[.unit c.toNat], fun hpieces => pieces_unitEscape hunit hpieces, fun pieces => ?_⟩
    rw [List.singleton_append, joinPieces_unit (by omega), Char.ofNat_toNat]
  · next hunit =>
    refine ⟨[.unit (0xd800 + (c.toNat - 0x10000) / 0x400),
      .unit (0xdc00 + (c.toNat - 0x10000) % 0x400)], fun hpieces => ?_, fun pieces => ?_⟩
    · rw [List.append_assoc]
      exact pieces_unitEscape (by omega) (pieces_unitEscape (by omega) hpieces)
    · have hwhole : 0x10000 + (c.toNat - 0x10000) = c.toNat := by omega
      have hjoin := joinPieces_halves (n := c.toNat - 0x10000) (by omega) pieces
      rwa [hwhole, Char.ofNat_toNat] at hjoin

/-- **A character of a string is written as pieces** that give the character back. -/
theorem starts_stringChar (asciiOnly : Bool) (c : Char) : Starts c (stringChar asciiOnly c) := by
  rcases stringChar_cases asciiOnly c with ⟨d, hd, -, hwritten⟩ | ⟨-, hwritten⟩
    | ⟨hquote, hescape, hplain, hwritten⟩ <;> rw [hwritten]
  · exact ⟨[.char c], fun hpieces => .escape hd hpieces, fun _ => rfl⟩
  · exact starts_numberEscape c
  · exact ⟨[.char c], fun hpieces => .plain hquote hescape hplain hpieces, fun _ => rfl⟩

/-- **A string is written with its text.** -/
theorem quoted_stringChars (asciiOnly : Bool) (s : String) (rest : List Char) :
    ∃ cs, stringChars asciiOnly s ++ rest = '"' :: cs ∧ Quoted s cs rest := by
  have hpieces : ∀ text : List Char, ∃ pieces, joinPieces pieces = text
      ∧ Pieces pieces (text.flatMap (stringChar asciiOnly) ++ '"' :: rest) rest := by
    intro text
    induction text with
    | nil => exact ⟨[], rfl, .closed rest⟩
    | cons c text ih =>
      obtain ⟨pieces, hjoin, hpieces⟩ := ih
      obtain ⟨front, hfront, hchar⟩ := starts_stringChar asciiOnly c
      refine ⟨front ++ pieces, by rw [hchar, hjoin], ?_⟩
      rw [List.flatMap_cons, List.append_assoc]
      exact hfront hpieces
  obtain ⟨pieces, hjoin, hpieces⟩ := hpieces s.toList
  refine ⟨_, ?_, pieces, ?_, hpieces⟩
  · simp [stringChars]
  · rw [hjoin, String.ofList_toList]

/-! ## Values -/

mutual

/-- **A value that fits** at a depth: no double is in it, no object has a name twice, and nothing
lies too deep. -/
def Fits (depth : Nat) : Json → Prop
  | null | bool _ | int _ | text _ => True
  | float _ => False
  | list items => depth < depthLimit ∧ AllFit (depth + 1) items
  | object members =>
    depth < depthLimit ∧ (members.map Prod.fst).Nodup ∧ MembersFit (depth + 1) members

def AllFit (depth : Nat) : List Json → Prop
  | [] => True
  | item :: items => Fits depth item ∧ AllFit depth items

def MembersFit (depth : Nat) : List (String × Json) → Prop
  | [] => True
  | (_, value) :: members => Fits depth value ∧ MembersFit depth members

end

theorem gaps_append {front : List Char} (h : ∀ c ∈ front, isGap c = true) (rest : List Char) :
    Gaps (front ++ rest) rest := by
  induction front with
  | nil => exact .none rest
  | cons c front ih =>
    exact .more (h c List.mem_cons_self) (ih fun d hd => h d (List.mem_cons_of_mem c hd))

theorem gaps_breakLine (layout : Layout) (depth : Nat) (rest : List Char) :
    Gaps (layout.breakLine depth ++ rest) rest := by
  refine gaps_append (fun c hc => ?_) rest
  unfold Layout.breakLine at hc
  split at hc
  · cases hc
  · rcases List.mem_cons.1 hc with rfl | hblank
    · rfl
    · rw [List.eq_of_mem_replicate hblank]
      rfl

theorem gaps_blank (rest : List Char) : Gaps (' ' :: rest) rest := .more rfl (.none rest)

theorem gaps_between (layout : Layout) (depth : Nat) (rest : List Char) :
    ∃ gap, layout.between depth ++ rest = ',' :: gap ∧ Gaps gap rest := by
  unfold Layout.between
  split
  · exact ⟨_, rfl, gaps_blank rest⟩
  · exact ⟨_, rfl, gaps_breakLine layout depth rest⟩

theorem allow_of_lt {depth : Nat} (h : depth < depthLimit) (holder : Holder) :
    Limits.usual.allow depth holder = .ok () := by
  have hfits : ¬Limits.usual.depth.any (· ≤ depth) = true := by
    simpa [Limits.usual] using h
  unfold Limits.allow
  rw [if_neg hfits]

/-- A member with a new name is put at the end. -/
theorem put_of_not_mem {members : Members} {name : String} (h : name ∉ members.map Prod.fst)
    (value : Json) : members.put name value = members ++ [(name, value)] := by
  induction members with
  | nil => rfl
  | cons entry members ih =>
    rw [List.map_cons, List.mem_cons, not_or] at h
    have hentry : ¬(entry.1 == name) = true := by simpa using Ne.symm h.1
    unfold Members.put
    rw [if_neg hentry, ih h.2]
    rfl

theorem not_mem_of_nodup {done members : Members} {name : String} {value : Json}
    (h : ((done ++ (name, value) :: members).map Prod.fst).Nodup) : name ∉ done.map Prod.fst := by
  rw [List.map_append, List.map_cons] at h
  exact fun hmem => List.disjoint_of_nodup_append h hmem List.mem_cons_self

/-- **A value is written as a text that spells it**, whatever stands behind. -/
def Written (layout : Layout) (depth : Nat) (value : Json) : Prop :=
  ∀ rest, Stops rest →
    Spells .usual (.value depth) value (value.chars layout depth ++ rest) rest

section Values

variable {layout : Layout}

/-- The items of a list spell it behind those before. -/
theorem spells_itemChars {item : Json} {items : List Json} {depth : Nat}
    (hitems : ∀ other ∈ item :: items, Written layout depth other) (done : List Json)
    {tail rest : List Char} (htail : Gaps tail (']' :: rest)) :
    Spells .usual (.items depth done) (.list (done.reverse ++ item :: items))
      (item.chars layout depth ++ (itemChars layout depth items ++ tail)) rest := by
  have hitem := hitems item List.mem_cons_self
  induction items generalizing item done with
  | nil =>
    have hlast : Spells .usual (.items depth done) (.list (item :: done).reverse)
        (item.chars layout depth ++ tail) rest :=
      .lastItem (hitem tail (htail.stops (stops_cons (by decide) rest))) htail
    rw [List.reverse_cons] at hlast
    unfold itemChars
    exact hlast
  | cons next items ih =>
    have hlater := fun other hother => hitems other (List.mem_cons_of_mem item hother)
    have hmore := ih hlater (item :: done) (hlater next List.mem_cons_self)
    rw [List.reverse_cons, List.append_assoc, List.singleton_append] at hmore
    obtain ⟨gap, hcomma, hgap⟩ := gaps_between layout depth
      (next.chars layout depth ++ (itemChars layout depth items ++ tail))
    unfold itemChars
    rw [List.append_assoc, List.append_assoc, hcomma]
    exact .item (hitem _ (stops_cons (by decide) gap)) (.none _) hgap hmore

/-- The members of an object spell it behind those before. -/
theorem spells_memberChars {name : String} {value : Json}
    {members : Members} {depth : Nat}
    (hmembers : ∀ member ∈ (name, value) :: members, Written layout depth member.2)
    (done : Members) (hnames : ((done ++ (name, value) :: members).map Prod.fst).Nodup)
    {tail rest : List Char} (htail : Gaps tail ('}' :: rest)) :
    Spells .usual (.members depth done) (.object (done ++ (name, value) :: members))
      (stringChars layout.asciiOnly name ++ ':' :: ' ' :: (value.chars layout depth
        ++ (memberChars layout depth members ++ tail))) rest := by
  have hvalue := hmembers (name, value) List.mem_cons_self
  induction members generalizing name value done with
  | nil =>
    have hput := put_of_not_mem (not_mem_of_nodup hnames) value
    obtain ⟨cs, hquote, hname⟩ := quoted_stringChars layout.asciiOnly name
      (':' :: ' ' :: (value.chars layout depth ++ tail))
    unfold memberChars
    rw [List.nil_append, hquote, ← hput]
    exact .lastMember hname (.none _) (gaps_blank _)
      (hvalue tail (htail.stops (stops_cons (by decide) rest))) htail
  | cons next members ih =>
    obtain ⟨next, value'⟩ := next
    have hput := put_of_not_mem (not_mem_of_nodup hnames) value
    have hlater := fun member hmember => hmembers member (List.mem_cons_of_mem _ hmember)
    have hmore := ih hlater (done ++ [(name, value)]) (by rwa [List.append_assoc])
      (hlater (next, value') List.mem_cons_self)
    rw [List.append_assoc, List.singleton_append, ← hput] at hmore
    obtain ⟨gap, hcomma, hgap⟩ := gaps_between layout depth
      (stringChars layout.asciiOnly next ++ ':' :: ' ' :: (value'.chars layout depth
        ++ (memberChars layout depth members ++ tail)))
    obtain ⟨cs, hquote, hname⟩ := quoted_stringChars layout.asciiOnly name
      (':' :: ' ' :: (value.chars layout depth ++ ',' :: gap))
    unfold memberChars
    simp only [List.append_assoc, List.cons_append, List.nil_append]
    rw [hcomma, hquote]
    exact .member hname (.none _) (gaps_blank _) (hvalue _ (stops_cons (by decide) gap)) (.none _)
      hgap hmore

mutual

/-- **A value that fits is written as a text that spells it.** -/
theorem written_of_fits {value : Json} {depth : Nat} (hfits : value.Fits depth)
    (hwritable : value.isWritable = true) : Written layout depth value := by
  intro rest hrest
  match value with
  | .null =>
    unfold chars
    exact .scalar (List.all_eq_true.1 rfl) rfl hrest
  | .bool b =>
    unfold chars
    cases b <;> exact .scalar (List.all_eq_true.1 rfl) rfl hrest
  | .int n =>
    unfold isWritable at hwritable
    unfold chars
    exact .scalar (fun c hc => isScalarChar_of_mem_toText hc)
      (readScalar_toText (of_decide_eq_true hwritable)) hrest
  | .float x =>
    unfold Fits at hfits
    exact hfits.elim
  | .text s =>
    obtain ⟨cs, hquote, hquoted⟩ := quoted_stringChars layout.asciiOnly s rest
    unfold chars
    rw [hquote]
    exact .text hquoted
  | .list [] =>
    unfold Fits at hfits
    unfold chars
    exact .emptyList (allow_of_lt hfits.1 .list) (.none _)
  | .list (item :: items) =>
    unfold Fits at hfits
    unfold isWritable at hwritable
    unfold chars
    simp only [List.cons_append, List.append_assoc, List.nil_append]
    exact .list (allow_of_lt hfits.1 .list) (gaps_breakLine layout _ _)
      (spells_itemChars (allWritten_of_fit hfits.2 hwritable) []
        (gaps_breakLine layout _ _))
  | .object [] =>
    unfold Fits at hfits
    unfold chars
    exact .emptyObject (allow_of_lt hfits.1 .object) (.none _)
  | .object ((name, value) :: members) =>
    unfold Fits at hfits
    unfold isWritable at hwritable
    unfold chars
    simp only [List.cons_append, List.append_assoc, List.nil_append]
    exact .object (allow_of_lt hfits.1 .object) (gaps_breakLine layout _ _)
      (spells_memberChars (membersWritten_of_fit hfits.2.2 hwritable) [] hfits.2.1
        (gaps_breakLine layout _ _))

theorem allWritten_of_fit {items : List Json} {depth : Nat} (hfits : AllFit depth items)
    (hwritable : areWritable items = true) : ∀ item ∈ items, Written layout depth item := by
  match items with
  | [] => exact fun item hitem => absurd hitem List.not_mem_nil
  | item :: items =>
    unfold AllFit at hfits
    unfold areWritable at hwritable
    rw [Bool.and_eq_true] at hwritable
    exact List.forall_mem_cons.2
      ⟨written_of_fits hfits.1 hwritable.1, allWritten_of_fit hfits.2 hwritable.2⟩

theorem membersWritten_of_fit {members : Members} {depth : Nat}
    (hfits : MembersFit depth members) (hwritable : membersWritable members = true) :
    ∀ member ∈ members, Written layout depth member.2 := by
  match members with
  | [] => exact fun member hmember => absurd hmember List.not_mem_nil
  | (name, value) :: members =>
    unfold MembersFit at hfits
    unfold membersWritable at hwritable
    rw [Bool.and_eq_true] at hwritable
    exact List.forall_mem_cons.2
      ⟨written_of_fits hfits.1 hwritable.1,
        membersWritten_of_fit hfits.2 hwritable.2⟩

end

/-- A document is written with nothing around it. -/
theorem spells_chars (layout : Layout) {value : Json} (hfits : value.Fits 0)
    (hwritable : value.isWritable = true) :
    Spells .usual (.value 0) value (value.chars layout 0) [] := by
  have hwritten : Written layout 0 value := written_of_fits hfits hwritable
  have hspells := hwritten [] stops_nil
  rwa [List.append_nil] at hspells

/-- A text without carriage returns, which files would not give back. -/
def IsUniform (cs : List Char) : Prop := ∀ c ∈ cs, c ≠ '\r'

theorem isUniform_of_all {cs : List Char} (h : cs.all (· != '\r') = true) : IsUniform cs := by
  simpa [IsUniform] using h

theorem IsUniform.append {front back : List Char} (hfront : IsUniform front)
    (hback : IsUniform back) : IsUniform (front ++ back) :=
  List.forall_mem_append.2 ⟨hfront, hback⟩

theorem IsUniform.cons {c : Char} {cs : List Char} (hc : c ≠ '\r') (hcs : IsUniform cs) :
    IsUniform (c :: cs) :=
  List.forall_mem_cons.2 ⟨hc, hcs⟩

theorem isUniform_colon : IsUniform [':', ' '] := .cons (by decide) (.cons (by decide) nofun)

theorem isUniform_toText (n : Int) : IsUniform (Integer.toText n).toList := by
  rintro c hc rfl
  exact absurd (isScalarChar_of_mem_toText hc) (by decide)

theorem isUniform_stringChar (c : Char) : IsUniform (stringChar false c) := by
  rcases stringChar_cases false c with ⟨d, -, hd, hwritten⟩ | ⟨hcontrol, hwritten⟩
    | ⟨-, -, hplain, hwritten⟩ <;> rw [hwritten]
  · exact .cons (by decide) (.cons hd nofun)
  · have hcontrols : ∀ n < 32, (unitEscape n).all (· != '\r') = true := by decide
    have hunit : c.toNat < 0x10000 := Nat.lt_trans (hcontrol rfl) (by decide)
    unfold numberEscape
    rw [if_pos hunit]
    exact isUniform_of_all (hcontrols c.toNat (hcontrol rfl))
  · refine .cons ?_ nofun
    rintro rfl
    exact absurd hplain (by decide)

theorem isUniform_stringChars (s : String) : IsUniform (stringChars false s) := by
  refine .cons (by decide) (.append (fun c hc => ?_) (.cons (by decide) nofun))
  obtain ⟨d, -, hd⟩ := List.mem_flatMap.1 hc
  exact isUniform_stringChar d c hd

theorem isUniform_breakLine (layout : Layout) (depth : Nat) :
    IsUniform (layout.breakLine depth) := by
  unfold Layout.breakLine
  split
  · exact nofun
  · refine .cons (by decide) fun c hc => ?_
    rw [List.eq_of_mem_replicate hc]
    decide

theorem isUniform_between (layout : Layout) (depth : Nat) : IsUniform (layout.between depth) := by
  unfold Layout.between
  split
  · exact .cons (by decide) (.cons (by decide) nofun)
  · exact .cons (by decide) (isUniform_breakLine layout depth)

mutual

/-- **No carriage return is written.** -/
theorem isUniform_chars (hlayout : layout.asciiOnly = false) {value : Json} {depth : Nat}
    (hfits : value.Fits depth) : IsUniform (value.chars layout depth) := by
  match value with
  | .null =>
    unfold chars
    exact isUniform_of_all rfl
  | .bool b =>
    unfold chars
    cases b <;> exact isUniform_of_all rfl
  | .int n =>
    unfold chars
    exact isUniform_toText n
  | .float x =>
    unfold Fits at hfits
    exact hfits.elim
  | .text s =>
    unfold chars
    rw [hlayout]
    exact isUniform_stringChars s
  | .list [] | .object [] =>
    unfold chars
    exact isUniform_of_all rfl
  | .list (item :: items) =>
    unfold Fits AllFit at hfits
    obtain ⟨-, hitem, hitems⟩ := hfits
    have hfirst := (isUniform_breakLine layout (depth + 1)).append (isUniform_chars hlayout hitem)
    have hall := hfirst.append (isUniform_itemChars hlayout hitems)
    unfold chars
    exact .cons (by decide)
      ((hall.append (isUniform_breakLine layout depth)).append (.cons (by decide) nofun))
  | .object ((name, value) :: members) =>
    unfold Fits MembersFit at hfits
    obtain ⟨-, -, hvalue, hmembers⟩ := hfits
    have hname := (isUniform_breakLine layout (depth + 1)).append (isUniform_stringChars name)
    have hfirst := (hname.append isUniform_colon).append (isUniform_chars hlayout hvalue)
    have hall := hfirst.append (isUniform_memberChars hlayout hmembers)
    unfold chars
    rw [hlayout]
    exact .cons (by decide)
      ((hall.append (isUniform_breakLine layout depth)).append (.cons (by decide) nofun))

theorem isUniform_itemChars (hlayout : layout.asciiOnly = false) {items : List Json} {depth : Nat}
    (hfits : AllFit depth items) : IsUniform (itemChars layout depth items) := by
  match items with
  | [] =>
    unfold itemChars
    exact nofun
  | item :: items =>
    unfold AllFit at hfits
    have hfirst := (isUniform_between layout depth).append (isUniform_chars hlayout hfits.1)
    unfold itemChars
    exact hfirst.append (isUniform_itemChars hlayout hfits.2)

theorem isUniform_memberChars (hlayout : layout.asciiOnly = false) {members : Members}
    {depth : Nat} (hfits : MembersFit depth members) :
    IsUniform (memberChars layout depth members) := by
  match members with
  | [] =>
    unfold memberChars
    exact nofun
  | (name, value) :: members =>
    unfold MembersFit at hfits
    have hname := (isUniform_between layout depth).append (isUniform_stringChars name)
    have hfirst := (hname.append isUniform_colon).append (isUniform_chars hlayout hfits.1)
    unfold memberChars
    rw [hlayout]
    exact hfirst.append (isUniform_memberChars hlayout hfits.2)

end

end Values

end Json
end DesktopMacro
