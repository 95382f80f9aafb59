/-
Documents in files.

The document in a file is what its bytes spell once they have been taken for a text. There are only
a few causes for there being none, and all of them tell of the file: the system refuses the path,
the bytes form no text, or the text spells no document. The last is a refusal, too, except where
values stand too deep inside one another; readers that put up with any refusal let that one through.
-/
import DesktopMacro.Files.Tree
import DesktopMacro.Proofs.Computation
import DesktopMacro.Proofs.Json.Reading

set_option autoImplicit false

namespace DesktopMacro

/-- The causes for which a file, or what is in it, is refused: the system has no such file, there is
no document in it, or an action in the document is at fault. -/
def Cause.IsRefusal : Cause → Prop
  | .file _ _ _ | .zeroInPath => True
  | .undecodable _ | .document _ _ | .numberTooLong _ | .numberUnwritable => True
  | .action _ => True
  | _ => False

/-- The cause is a refusal, or values of the document stand too deep. -/
def Cause.IsOfDocument (cause : Cause) : Prop :=
  cause.IsRefusal ∨ ∃ holder, cause = .tooDeep (some holder)

/-! ## Texts -/

/-- Some bytes form no character. -/
def Cause.IsUndecodable : Cause → Prop
  | .undecodable _ => True
  | _ => False

theorem Cause.IsUndecodable.isRefusal {cause : Cause} (h : cause.IsUndecodable) :
    cause.IsRefusal := by
  cases cause with
  | undecodable fault => exact trivial
  | _ => exact h.elim

namespace Codec

theorem failsFor_decodeUtf8From (start : Nat) (unfinished : Option Unfinished)
    (bytes : List UInt8) : FailsFor Cause.IsUndecodable (decodeUtf8From start unfinished bytes) := by
  induction bytes generalizing start unfinished with
  | nil =>
    cases unfinished with
    | none => exact failsFor_ok _ []
    | some unfinished => exact failsFor_error trivial
  | cons byte bytes ih =>
    cases unfinished with
    | none =>
      unfold decodeUtf8From
      split
      · exact failsFor_error trivial
      · exact (ih _ _).bind fun _ _ => failsFor_ok _ _
      · exact ih _ _
    | some unfinished =>
      unfold decodeUtf8From
      split
      · exact ih _ _
      · split
        · dsimp only
          split
          · exact (ih _ _).bind fun _ _ => failsFor_ok _ _
          · exact ih _ _
        · exact failsFor_error trivial

theorem failsFor_decodeAscii (start : Nat) (bytes : List UInt8) :
    FailsFor Cause.IsUndecodable (decodeAscii start bytes) := by
  induction bytes generalizing start with
  | nil => exact failsFor_ok _ []
  | cons byte bytes ih =>
    unfold decodeAscii
    split
    · exact (ih _).bind fun _ _ => failsFor_ok _ _
    · exact failsFor_error trivial

/-- A character that was read, and then the others. -/
theorem failsFor_readChar {P : Cause → Prop} {read : Except Cause (List Char)} (c : Char)
    (h : FailsFor P read) : FailsFor P (do return c :: (← read)) :=
  h.bind fun _ _ => failsFor_ok P _

/-- A unit is refused, or there is a character and the reader goes on behind it. -/
theorem failsFor_decodeUtf16 (order : ByteOrder) (start : Nat) (bytes : List UInt8) :
    FailsFor Cause.IsUndecodable (decodeUtf16 order start bytes) := by
  fun_induction decodeUtf16 order start bytes with
  | case1 => exact failsFor_ok _ []
  | case4 | case6 | case9 => exact failsFor_readChar _ ‹_›
  | _ => exact failsFor_error trivial

theorem failsFor_decodeUtf32 (order : ByteOrder) (start : Nat) (bytes : List UInt8) :
    FailsFor Cause.IsUndecodable (decodeUtf32 order start bytes) := by
  fun_induction decodeUtf32 order start bytes with
  | case1 => exact failsFor_ok _ []
  | case4 => exact failsFor_readChar _ ‹_›
  | _ => exact failsFor_error trivial

/-- Bytes that are no text in UTF-8 are refused. -/
theorem failsFor_decode (bytes : List UInt8) : FailsFor Cause.IsRefusal (decode .utf8 bytes) :=
  ((failsFor_decodeUtf8From 0 none bytes).mono fun _ => Cause.IsUndecodable.isRefusal).bind
    fun _ _ => failsFor_ok _ _

/-- **The bytes say in which order they come**, as far as the encoding wants to know: a text in wide
units opens with a mark. -/
def IsMarked : FileEncoding → List UInt8 → Prop
  | .utf16, bytes => ∃ rest, bytes = 0xff :: 0xfe :: rest ∨ bytes = 0xfe :: 0xff :: rest
  | .utf32, bytes => ∃ rest,
    bytes = 0xff :: 0xfe :: 0x00 :: 0x00 :: rest ∨ bytes = 0x00 :: 0x00 :: 0xfe :: 0xff :: rest
  | _, _ => True

/-- What is not marked is refused, unless there is nothing in it. -/
theorem failsFor_refuseUnmarked {encoding : String} {bytes : List UInt8}
    {read : Except Cause (List Char)} (h : FailsFor Cause.IsUndecodable read) :
    FailsFor (fun cause => cause.IsUndecodable ∨ cause = .noByteOrder encoding ∧ bytes ≠ [])
      (refuseUnmarked encoding bytes read) := by
  refine (h.mono fun _ => .inl).bind fun cs _ => ?_
  split
  · exact failsFor_ok _ cs
  · next hsome => exact failsFor_error (.inr ⟨rfl, by simpa using hsome⟩)

theorem failsFor_decodeMarkedUtf16 (bytes : List UInt8) :
    FailsFor (fun cause => cause.IsUndecodable
        ∨ cause = .noByteOrder "UTF-16" ∧ bytes ≠ [] ∧ ¬ IsMarked .utf16 bytes)
      (decodeMarkedUtf16 bytes) := by
  unfold decodeMarkedUtf16
  split
  · exact (failsFor_decodeUtf16 _ _ _).mono fun cause => Or.inl
  · exact (failsFor_decodeUtf16 _ _ _).mono fun cause => Or.inl
  · next hlow hhigh =>
    refine (failsFor_refuseUnmarked (failsFor_decodeUtf16 _ _ _)).mono fun cause => ?_
    refine Or.imp_right fun ⟨hname, hsome⟩ => ⟨hname, hsome, ?_⟩
    rintro ⟨rest, hmark | hmark⟩
    · exact hlow rest hmark
    · exact hhigh rest hmark

theorem failsFor_decodeMarkedUtf32 (bytes : List UInt8) :
    FailsFor (fun cause => cause.IsUndecodable
        ∨ cause = .noByteOrder "UTF-32" ∧ bytes ≠ [] ∧ ¬ IsMarked .utf32 bytes)
      (decodeMarkedUtf32 bytes) := by
  unfold decodeMarkedUtf32
  split
  · exact (failsFor_decodeUtf32 _ _ _).mono fun cause => Or.inl
  · exact (failsFor_decodeUtf32 _ _ _).mono fun cause => Or.inl
  · next hlow hhigh =>
    refine (failsFor_refuseUnmarked (failsFor_decodeUtf32 _ _ _)).mono fun cause => ?_
    refine Or.imp_right fun ⟨hname, hsome⟩ => ⟨hname, hsome, ?_⟩
    rintro ⟨rest, hmark | hmark⟩
    · exact hlow rest hmark
    · exact hhigh rest hmark

/-- **Decoding fails for bytes that form no character, or for a mark that is missing.** -/
theorem failsFor_decodeChars (encoding : FileEncoding) (bytes : List UInt8) :
    FailsFor (fun cause => cause.IsUndecodable
        ∨ ∃ name, cause = .noByteOrder name ∧ bytes ≠ [] ∧ ¬ IsMarked encoding bytes)
      (decodeChars encoding bytes) := by
  cases encoding with
  | utf8 | preset => exact (failsFor_decodeUtf8From 0 none bytes).mono fun cause => Or.inl
  | ascii => exact (failsFor_decodeAscii 0 bytes).mono fun cause => Or.inl
  | utf16 =>
    exact (failsFor_decodeMarkedUtf16 bytes).mono fun cause => Or.imp_right fun h => ⟨_, h⟩
  | utf32 =>
    exact (failsFor_decodeMarkedUtf32 bytes).mono fun cause => Or.imp_right fun h => ⟨_, h⟩

/-- A text is its characters, so it fails for what they fail for. -/
theorem failsFor_decode_marked (encoding : FileEncoding) (bytes : List UInt8) :
    FailsFor (fun cause => cause.IsUndecodable
        ∨ ∃ name, cause = .noByteOrder name ∧ bytes ≠ [] ∧ ¬ IsMarked encoding bytes)
      (decode encoding bytes) :=
  (failsFor_decodeChars encoding bytes).bind fun _ _ => failsFor_ok _ _

end Codec

/-! ## Files -/

namespace FileTree

/-- The causes for which the system refuses a path: what it finds there, or a zero in it. -/
def RefusesPath (path : String) : Cause → Prop
  | .file _ _ _ => True
  | .zeroInPath => '\x00' ∈ path.toList
  | _ => False

variable (tree : FileTree) (path : String)

theorem failsFor_approach : FailsFor (RefusesPath path) (tree.approach path) := by
  unfold FileTree.approach
  split
  · next hzero => exact failsFor_error (List.contains_iff_mem.1 hzero)
  · exact FailsFor.mapError fun _ => trivial

theorem failsFor_stepFor (approach : Approach) :
    FailsFor (RefusesPath path) (tree.stepFor path approach) := FailsFor.mapError fun _ => trivial

theorem failsFor_locate : FailsFor (RefusesPath path) (tree.locate path) := by
  refine (tree.failsFor_approach path).bind fun approach _ => ?_
  refine (tree.failsFor_stepFor path approach).bind fun spot _ => ?_
  split
  · split
    · exact failsFor_error trivial
    · exact failsFor_ok _ _
  · exact failsFor_ok _ _

/-- **A file cannot be read** because of what is at its path, or because that is no path. -/
theorem failsFor_read : FailsFor (RefusesPath path) (tree.read path) := by
  refine (tree.failsFor_locate path).bind fun spot _ => ?_
  split
  · exact failsFor_ok _ _
  · exact failsFor_error trivial
  · exact failsFor_error trivial

theorem failsFor_placeToWrite : FailsFor (RefusesPath path) (tree.placeToWrite path) := by
  refine (tree.failsFor_approach path).bind fun approach _ => ?_
  dsimp only
  split
  · exact failsFor_error trivial
  · refine (tree.failsFor_stepFor path approach).bind fun spot _ => ?_
    split
    · exact failsFor_error trivial
    · exact failsFor_ok _ _
    · exact failsFor_ok _ _

/-- **Bytes cannot be put behind a file** because of what is at its path, or because that is no
path. -/
theorem failsFor_append (bytes : List UInt8) :
    FailsFor (RefusesPath path) (tree.append path bytes) :=
  (tree.failsFor_placeToWrite path).bind fun _ _ => failsFor_ok _ _

/-- **A directory cannot be made** because of what is at its path, or because that is no path. -/
theorem failsFor_makeDirectory : FailsFor (RefusesPath path) (tree.makeDirectory path) := by
  refine (tree.failsFor_approach path).bind fun approach _ => ?_
  dsimp only
  split
  · exact failsFor_error trivial
  · refine (tree.failsFor_stepFor path approach).bind fun spot _ => ?_
    split
    · exact failsFor_error trivial
    · exact failsFor_ok _ _

variable {path} in
theorem RefusesPath.isRefusal {cause : Cause} (h : RefusesPath path cause) : cause.IsRefusal := by
  cases cause with
  | file fault path target => exact trivial
  | zeroInPath => exact trivial
  | _ => exact h.elim

/-- What is read is there. -/
theorem exists?_of_read {bytes : List UInt8} (h : tree.read path = .ok bytes) :
    tree.exists? path = .ok true := by
  obtain ⟨spot, hspot, h⟩ := of_bind h
  unfold FileTree.exists?
  rw [hspot]
  cases spot with
  | taken place node => rfl
  | free place => cases h

/-- The document in a file. -/
def documentAt (tree : FileTree) (path : String) : Except Cause Json := do
  let bytes ← tree.read path
  let text ← Codec.decode .utf8 bytes
  (Json.read text).mapError Cause.ofDocument

/-- **There is no document in a file for a cause that tells of the file.** -/
theorem failsFor_documentAt : FailsFor Cause.IsOfDocument (tree.documentAt path) := by
  refine ((tree.failsFor_read path).mono fun cause h => .inl h.isRefusal).bind fun bytes _ => ?_
  refine ((Codec.failsFor_decode bytes).mono fun cause => .inl).bind fun text _ => ?_
  refine FailsFor.mapError fun fault => ?_
  cases fault with
  | complaint what place => exact .inl trivial
  | numberTooLong count => exact .inl trivial
  | tooDeep holder => exact .inr ⟨holder, rfl⟩

/-- A document in a file can be written. -/
theorem isWritable_of_documentAt {document : Json} (h : tree.documentAt path = .ok document) :
    document.isWritable = true := by
  obtain ⟨bytes, -, h⟩ := of_bind h
  obtain ⟨text, -, h⟩ := of_bind h
  exact Json.isWritable_of_read (ok_of_mapError h)

/-- There is a document only in a file that is there. -/
theorem exists?_of_document {document : Json} (h : tree.documentAt path = .ok document) :
    tree.exists? path = .ok true := by
  obtain ⟨bytes, hbytes, -⟩ := of_bind h
  exact tree.exists?_of_read path hbytes

/-- Values stand too deep only in a file that is there. -/
theorem exists?_of_tooDeep {holder : Option Json.Holder}
    (h : tree.documentAt path = .error (.tooDeep holder)) : tree.exists? path = .ok true := by
  cases hread : tree.read path with
  | ok bytes => exact tree.exists?_of_read path hread
  | error cause =>
    -- A file that is not there cannot be read, and that is a refusal.
    have hrefusal : cause.IsRefusal := (tree.failsFor_read path cause hread).isRefusal
    unfold documentAt at h
    rw [hread] at h
    cases h
    exact hrefusal.elim

end FileTree
end DesktopMacro
