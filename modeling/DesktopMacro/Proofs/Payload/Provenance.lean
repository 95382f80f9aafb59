/-
Where the text of a payload comes from.

The repair of a candidate puts nothing into it that was not there, but escapes. Each pass has its
own idea of what stands in a string, and where a text is malformed the ideas differ; so the
characters that a pass takes to be in strings are marked, once for the pass that goes through the
text and once for the cut into literals, and what a pass makes of a text is said about the marks: a
control character is escaped where a mark is, a line break of two characters as one, and every other
character is kept. After that there is at most one edit, and it takes out a character or escapes it.
-/
import DesktopMacro.Proofs.Payload.Escaping
import DesktopMacro.Proofs.Payload.Forms
import DesktopMacro.Proofs.Payload.Repairing

set_option autoImplicit false

namespace DesktopMacro.Payload

variable {marks : List Bool} {candidate cs form out rest text : List Char}
  {segments : List Segment}

/-! ## What stands in strings -/

/-- The characters that stand in strings, for the pass that goes through a text once; a backslash
and what it hides are passed over. -/
def inStrings : Position → (escaped : Bool) → List Char → List Bool
  | _, _, [] => []
  | position, true, _ :: cs => false :: inStrings position false cs
  | position, false, c :: cs =>
    if c == '\\' then false :: inStrings position true cs
    else if c == '"' then false :: inStrings position.cross false cs
    else (position == .inside) :: inStrings position false cs

/-- The characters of a piece that stand in a literal, behind its opening quote. -/
def Segment.inLiteral : Segment → List Bool
  | other _ => [false]
  | literal body => false :: body.map fun _ => true

/-- **A text with its control characters escaped** where they are marked, and nowhere else. -/
inductive Escaped : List Bool → List Char → List Char → Prop where
  | nil : Escaped [] [] []
  | same {mark : Bool} {c : Char} {marks : List Bool} {cs out : List Char}
    (h : mark = true → controlLetter? c = none) :
    Escaped marks cs out → Escaped (mark :: marks) (c :: cs) (c :: out)
  | control {c letter : Char} {marks : List Bool} {cs out : List Char}
    (h : controlLetter? c = some letter) :
    Escaped marks cs out → Escaped (true :: marks) (c :: cs) ('\\' :: letter :: out)
  | lineBreak {marks : List Bool} {cs out : List Char} :
    Escaped marks cs out →
    Escaped (true :: true :: marks) ('\r' :: '\n' :: cs) ('\\' :: 'n' :: out)

/-- No escape is written with a character that has the property. -/
structure ForeignToEscapes (p : Char → Bool) : Prop where
  backslash : p '\\' = false
  quote : p '"' = false
  letters : ['n', 'r', 't', 'b', 'f'].any p = false

theorem ForeignToEscapes.letter {p : Char → Bool} (hp : ForeignToEscapes p) {c letter : Char}
    (h : controlLetter? c = some letter) : p letter = false := by
  have hmem : letter ∈ ['n', 'r', 't', 'b', 'f'] := by simpa using letter_of_controlLetter? h
  simpa using List.any_eq_false.1 hp.letters letter hmem

namespace Escaped

/-- A character without a mark stays. -/
theorem unmarked (c : Char) (h : Escaped marks cs out) :
    Escaped (false :: marks) (c :: cs) (c :: out) :=
  .same (fun hmark => Bool.noConfusion hmark) h

/-- A marked character is escaped, if it is a control character. -/
theorem escapeControl (c : Char) (h : Escaped marks cs out) :
    Escaped (true :: marks) (c :: cs) (escapeControl c ++ out) := by
  cases hcontrol : controlLetter? c with
  | none =>
    rw [escapeControl_of_none hcontrol]
    exact .same (fun _ => hcontrol) h
  | some letter =>
    rw [escapeControl_of_some hcontrol]
    exact .control hcontrol h

theorem append {marks' : List Bool} {cs' out' : List Char} (h : Escaped marks cs out)
    (h' : Escaped marks' cs' out') : Escaped (marks ++ marks') (cs ++ cs') (out ++ out') := by
  induction h with
  | nil => exact h'
  | same hplain _ ih => exact .same hplain ih
  | control hletter _ ih => exact .control hletter ih
  | lineBreak _ ih => exact .lineBreak ih

/-- Without control characters there is nothing to escape. -/
theorem eq_of_plain (h : Escaped marks cs out) (hplain : ∀ c ∈ cs, controlLetter? c = none) :
    out = cs := by
  induction h with
  | nil => rfl
  | same _ _ ih => rw [ih (List.forall_mem_cons.1 hplain).2]
  | control hletter =>
    rw [(List.forall_mem_cons.1 hplain).1] at hletter
    cases hletter
  | lineBreak => cases (List.forall_mem_cons.1 hplain).1

/-- What no escape is written with does not become more. -/
theorem countP_le {p : Char → Bool} (hp : ForeignToEscapes p) (h : Escaped marks cs out) :
    out.countP p ≤ cs.countP p := by
  induction h with
  | nil => exact Nat.le_refl _
  | same _ _ ih =>
    rw [List.countP_cons, List.countP_cons]
    exact Nat.add_le_add_right ih _
  | control hcontrol _ ih =>
    rw [List.countP_cons_of_neg (by simp [hp.backslash]),
      List.countP_cons_of_neg (by simp [hp.letter hcontrol])]
    exact ih.trans (List.sublist_cons_self _ _).countP_le
  | lineBreak _ ih =>
    have hletter : p 'n' = false := hp.letter (c := '\n') rfl
    rw [List.countP_cons_of_neg (by simp [hp.backslash]),
      List.countP_cons_of_neg (by simp [hletter])]
    exact ih.trans ((List.sublist_cons_self _ _).trans (List.sublist_cons_self _ _)).countP_le

end Escaped

/-- One pass escapes the control characters that it takes to be in strings. -/
theorem escaped_sanitizeFrom (position : Position) (escaped : Bool) (cs : List Char) :
    Escaped (inStrings position escaped cs) cs (sanitizeFrom position escaped cs) := by
  fun_induction sanitizeFrom position escaped cs with
  | case1 position escaped => cases position <;> cases escaped <;> exact .nil
  | case2 position c cs ih =>
    cases position <;> exact ih.unmarked _
  | case3 position c cs hescape ih =>
    rw [inStrings, if_pos hescape]
    exact ih.unmarked _
  | case4 position c cs hescape hquote ih =>
    rw [inStrings, if_neg hescape, if_pos hquote]
    exact ih.unmarked _
  | case5 c cs hescape hquote ih =>
    rw [inStrings, if_neg hescape, if_neg hquote]
    exact ih.escapeControl c
  | case6 c cs hescape hquote ih =>
    rw [inStrings, if_neg hescape, if_neg hquote]
    exact ih.unmarked _

/-- A text without control characters is kept. -/
theorem sanitize_of_plain (hplain : ∀ c ∈ text, controlLetter? c = none) : sanitize text = text :=
  (escaped_sanitizeFrom .outside false text).eq_of_plain hplain

theorem escaped_escapeSpan (cs : List Char) :
    Escaped (cs.map fun _ => true) cs (escapeSpan cs) := by
  fun_induction escapeSpan cs with
  | case1 => exact .nil
  | case2 cs ih => exact .lineBreak ih
  | case3 c cs _ ih => exact ih.escapeControl c

/-- The other pass escapes the control characters in the literals of the text. -/
theorem Cut.escaped (h : Cut text segments) :
    Escaped (segments.flatMap Segment.inLiteral) text (repairStrings text) := by
  -- Piece by piece, for any pieces: how the text was cut does not matter any more.
  rw [h.repairs, List.flatMap_map]
  conv => arg 2; rw [← h.chars]
  clear h
  induction segments with
  | nil => exact .nil
  | cons segment segments ih =>
    refine Escaped.append ?_ ih
    cases segment with
    | other c => exact Escaped.nil.unmarked c
    | literal body => exact (escaped_escapeSpan body).unmarked '"'

/-! ## One edit -/

/-- **A text with one edit**: a character is taken out, or a quote or a control character is
escaped. -/
inductive Edited : List Char → List Char → Prop where
  | deleted (front : List Char) (c : Char) (rest : List Char) :
    Edited (front ++ c :: rest) (front ++ rest)
  | escaped (front : List Char) {c letter : Char} (rest : List Char)
    (h : c = '"' ∧ letter = '"' ∨ controlLetter? c = some letter) :
    Edited (front ++ c :: rest) (front ++ '\\' :: letter :: rest)

theorem Edited.countP_le {p : Char → Bool} (hp : ForeignToEscapes p) (h : Edited text out) :
    out.countP p ≤ text.countP p := by
  cases h with
  | deleted front c rest =>
    exact ((List.Sublist.refl front).append (List.sublist_cons_self c rest)).countP_le
  | @escaped front c letter rest h =>
    have hletter : p letter = false := by
      rcases h with ⟨-, rfl⟩ | hcontrol
      · exact hp.quote
      · exact hp.letter hcontrol
    rw [List.countP_append, List.countP_append, List.countP_cons_of_neg (by simp [hp.backslash]),
      List.countP_cons_of_neg (by simp [hletter])]
    exact Nat.add_le_add_left (List.sublist_cons_self c rest).countP_le _

theorem edited_of_replaceAt? {offset : Nat} (h : replaceAt? text offset = some out) :
    Edited text out := by
  unfold replaceAt? at h
  split at h
  · cases h
  · next c rest hdrop =>
    have htext : text = text.take offset ++ c :: rest := by
      rw [← hdrop, List.take_append_drop]
    generalize text.take offset = front at h htext
    subst htext
    -- What takes the place of the character is an escape of it, or nothing.
    cases h
    unfold replacement
    split_ifs with hline hreturn htab hquote
    · rw [hline, List.append_assoc]
      exact .escaped front rest (.inr rfl)
    · rw [hreturn, List.append_assoc]
      exact .escaped front rest (.inr rfl)
    · rw [htab, List.append_assoc]
      exact .escaped front rest (.inr rfl)
    · rw [hquote.1, List.append_assoc]
      exact .escaped front rest (.inl ⟨rfl, rfl⟩)
    · rw [List.append_nil]
      exact .deleted front c rest

/-- **A repair at a place is one edit.** -/
theorem edited_of_repairAt? {line column : Nat} (h : repairAt? text line column = some out) :
    Edited text out := by
  obtain ⟨offset, hoffset, hline, hcolumn⟩ := offset_of_repairAt? h
  rw [← hline, ← hcolumn, repairAt?_place text hoffset] at h
  exact edited_of_replaceAt? h

/-! ## Forms -/

/-- **A text that comes from a candidate**: control characters in its strings are escaped, which are
found by one pass or by a cut into literals, and in the second case there may be one more edit. -/
inductive ComesFrom (candidate : List Char) : List Char → Prop where
  | scanned {form : List Char} :
    Escaped (inStrings .outside false candidate) candidate form → ComesFrom candidate form
  | matched {segments : List Segment} {form : List Char} (hcut : Cut candidate segments) :
    Escaped (segments.flatMap Segment.inLiteral) candidate form → ComesFrom candidate form
  | edited {segments : List Segment} {form edited : List Char} (hcut : Cut candidate segments)
    (hescaped : Escaped (segments.flatMap Segment.inLiteral) candidate form) :
    Edited form edited → ComesFrom candidate edited

theorem ComesFrom.countP_le {p : Char → Bool} (hp : ForeignToEscapes p)
    (h : ComesFrom candidate form) : form.countP p ≤ candidate.countP p := by
  cases h with
  | scanned hescaped | matched _ hescaped => exact hescaped.countP_le hp
  | edited _ hescaped hedited => exact (hedited.countP_le hp).trans (hescaped.countP_le hp)

/-- **Every form of a candidate comes from it.** -/
theorem comesFrom_of_mem_forms (h : form ∈ forms candidate) : ComesFrom candidate form := by
  obtain ⟨segments, hcut⟩ := exists_cut candidate
  simp only [forms, List.mem_append, List.mem_cons, List.not_mem_nil, or_false,
    Option.mem_toList] at h
  rcases h with (rfl | rfl) | hpatched
  · exact .scanned (escaped_sanitizeFrom .outside false candidate)
  · exact .matched hcut hcut.escaped
  · unfold patched? at hpatched
    split at hpatched
    · exact .edited hcut hcut.escaped (edited_of_repairAt? hpatched)
    · cases hpatched

/-- **A payload invents nothing.** Its document is what is read in its text, and its text comes from
a piece of the text that it was found in: the piece that starts at the first opening brace, or the
one that starts at the first opening square bracket, and this only if there is none of the first
kind or the reader complains about all of its forms. -/
theorem extract_invents_nothing {text : String} {payload : Payload}
    (h : extract text = .ok payload) :
    readRelaxed payload.text.toList = .ok payload.document ∧
      ∃ bracket candidate front behind, candidate? bracket text.toList = some candidate ∧
        text.toList = front ++ candidate ++ behind ∧ bracket.opening ∉ front ∧
        candidate.head? = some bracket.opening ∧
        (bracket = .curly ∨ bracket = .square ∧
          ∀ object, candidate? .curly text.toList = some object → ∀ form ∈ forms object,
            ∃ what place, readRelaxed form = .error (.complaint what place)) ∧
        ComesFrom candidate payload.text.toList := by
  unfold extract at h
  rcases extractFrom_cases .noCandidate (candidates text.toList) with
    ⟨-, ⟨-, hnone⟩ | ⟨-, what, place, hnone⟩⟩ | ⟨form, hfind, hdecides⟩
  · rw [hnone] at h
    cases h
  · rw [hnone] at h
    cases h
  rw [h] at hdecides
  obtain ⟨hread, htext⟩ := hdecides.of_ok
  rw [htext]
  obtain ⟨bracket, candidate, hcandidate, hform, hbracket⟩ := source_of_find? hfind
  obtain ⟨front, behind, hpiece, hfront, hhead⟩ := piece_of_candidate? hcandidate
  refine ⟨hread, bracket, candidate, front, behind, hcandidate, hpiece, hfront, hhead, ?_,
    comesFrom_of_mem_forms hform⟩
  exact hbracket.imp_right fun ⟨hsquare, hobjects⟩ => ⟨hsquare, fun object hobject other hother =>
    complaint_of_complains (hobjects object hobject other hother)⟩

/-- An object with a raw line break in a string and a stray letter behind it: the line break is
escaped, and the letter is taken out. -/
theorem extract_invents_nothing_stray :
    extract "see \x7b\"a\": \"b\n\"x\x7d"
        = .ok ⟨"\x7b\"a\": \"b\\n\"\x7d", .object [("a", .text "b\n")], some ⟨1, 12, 11⟩⟩ ∧
      ∃ bracket candidate,
        candidate? bracket "see \x7b\"a\": \"b\n\"x\x7d".toList = some candidate ∧
        ComesFrom candidate "\x7b\"a\": \"b\\n\"\x7d".toList := by
  have hchars : "see \x7b\"a\": \"b\n\"x\x7d".toList = ['s', 'e', 'e', ' ', '{', '"', 'a', '"',
      ':', ' ', '"', 'b', '\n', '"', 'x', '}'] := by
    decide +kernel
  have hcandidates : candidates ['s', 'e', 'e', ' ', '{', '"', 'a', '"', ':', ' ', '"', 'b', '\n',
      '"', 'x', '}'] = [['{', '"', 'a', '"', ':', ' ', '"', 'b', '\n', '"', 'x', '}']] := by
    decide +kernel
  have hcomplaint : readRelaxed ['{', '"', 'a', '"', ':', ' ', '"', 'b', '\\', 'n', '"', 'x', '}']
      = .error (.complaint .expectingComma ⟨1, 12, 11⟩) := by
    unfold readRelaxed Json.read Json.readWithin
    rw [String.toList_ofList]
    rfl
  have hread : readRelaxed ['{', '"', 'a', '"', ':', ' ', '"', 'b', '\\', 'n', '"', '}']
      = .ok (.object [("a", .text "b\n")]) := by
    refine Json.read_of_readChars ?_
    rw [String.toList_ofList]
    rfl
  have hattempt : attempt ['{', '"', 'a', '"', ':', ' ', '"', 'b', '\n', '"', 'x', '}']
      = .found ⟨"\x7b\"a\": \"b\\n\"\x7d", .object [("a", .text "b\n")], some ⟨1, 12, 11⟩⟩ := by
    have hsanitize : sanitize ['{', '"', 'a', '"', ':', ' ', '"', 'b', '\n', '"', 'x', '}']
        = ['{', '"', 'a', '"', ':', ' ', '"', 'b', '\\', 'n', '"', 'x', '}'] := rfl
    have hrepair : repairStrings ['{', '"', 'a', '"', ':', ' ', '"', 'b', '\n', '"', 'x', '}']
        = ['{', '"', 'a', '"', ':', ' ', '"', 'b', '\\', 'n', '"', 'x', '}'] := rfl
    have hplace : repairAt? ['{', '"', 'a', '"', ':', ' ', '"', 'b', '\\', 'n', '"', 'x', '}'] 1 12
        = some ['{', '"', 'a', '"', ':', ' ', '"', 'b', '\\', 'n', '"', '}'] := rfl
    unfold attempt attemptRead
    simp only [hsanitize, hrepair, hcomplaint, hplace, hread]
  have hextract : extract "see \x7b\"a\": \"b\n\"x\x7d"
      = .ok ⟨"\x7b\"a\": \"b\\n\"\x7d", .object [("a", .text "b\n")], some ⟨1, 12, 11⟩⟩ := by
    unfold extract
    rw [hchars, hcandidates]
    simp only [extractFrom, hattempt]
  obtain ⟨-, bracket, candidate, -, -, hcandidate, -, -, -, -, hfrom⟩ :=
    extract_invents_nothing hextract
  exact ⟨hextract, bracket, candidate, hcandidate, hfrom⟩

end DesktopMacro.Payload
