import VersionCatalog.Check.File
import VersionCatalog.Files.Tree
import VersionCatalog.Proofs.Document.Lines
import VersionCatalog.Proofs.Text.Utf8

/-!
# The encoding of files

A file with the bytes of a text is checked as that text without a leading byte-order mark. Any other
file that can be read is reported for the first ill-formed sequence in it. The place of that
sequence is counted from the end of a leading mark, so that it is not the place in a marked file.
-/

namespace VersionCatalog

open Text.Utf8

namespace Text.Utf8

/-! ## Marked bytes -/

theorem encode_cons_mark (text : List Char) :
    encode ('\ufeff' :: text) = byteOrderMark ++ encode text := rfl

theorem decodeFrom_mark (offset : Nat) (bytes : List UInt8) :
    decodeFrom offset (byteOrderMark ++ bytes) =
      (decodeFrom (offset + byteOrderMark.length) bytes).map ('\ufeff' :: ·) :=
  decodeFrom_encode offset ['\ufeff'] bytes

theorem dropMark_mark (bytes : List UInt8) : dropMark (byteOrderMark ++ bytes) = bytes := by
  rw [dropMark, if_pos (List.isPrefixOf_iff_prefix.2 (List.prefix_append _ _)), List.drop_left]

/-- Only the bytes of a text that begins with the mark begin with those of the mark. -/
theorem head?_of_markedBytes {text : List Char} (marked : byteOrderMark <+: encode text) :
    text.head? = some '\ufeff' := by
  obtain ⟨bytes, whole⟩ := marked
  have decoded := decodeFrom_mark 0 bytes
  rw [whole, ← decode, decode_eq_ok_iff.2 rfl] at decoded
  cases later : decodeFrom (0 + byteOrderMark.length) bytes with
  | ok others =>
      rw [later] at decoded
      cases decoded
      rfl
  | error place =>
      rw [later] at decoded
      cases decoded

/-- The mark is dropped from the bytes of a text just as from the text. -/
theorem dropMark_encode (text : List Char) :
    dropMark (encode text) = encode (Document.dropMark text) := by
  by_cases marked : text.head? = some '\ufeff'
  · obtain ⟨rest, rfl⟩ := List.head?_eq_some_iff.1 marked
    rw [encode_cons_mark, dropMark_mark, Document.dropMark]
  · have unmarked : ¬byteOrderMark.isPrefixOf (encode text) = true := fun found =>
      marked (head?_of_markedBytes (List.isPrefixOf_iff_prefix.1 found))
    rw [dropMark, if_neg unmarked, Document.dropMark_of_unmarked marked]

/-- How many bytes a leading mark takes. -/
def markLength (bytes : List UInt8) : Nat :=
  if byteOrderMark <+: bytes then byteOrderMark.length else 0

theorem IsFirstIllFormed.mark {bytes : List UInt8} {place : Nat}
    (first : IsFirstIllFormed bytes place) :
    IsFirstIllFormed (byteOrderMark ++ bytes) (byteOrderMark.length + place) := by
  rw [← decode_eq_error_iff, decode, decodeFrom_mark, first.decodeFrom, Nat.zero_add]
  rfl

/-- Of ill-formed bytes, the place of the first ill-formed sequence is given as it is counted from
the end of a leading mark. -/
theorem decode_dropMark_of_illFormed {bytes : List UInt8} (illFormed : ¬IsWellFormed bytes) :
    ∃ place, IsFirstIllFormed bytes (markLength bytes + place) ∧
      decode (dropMark bytes) = .error place := by
  by_cases marked : byteOrderMark <+: bytes
  · rw [markLength, if_pos marked]
    obtain ⟨rest, rfl⟩ := marked
    rw [dropMark_mark]
    cases read : decode rest with
    | ok text =>
        refine (illFormed ⟨'\ufeff' :: text, ?_⟩).elim
        rw [encode_cons_mark, decode_eq_ok_iff.1 read]
    | error place => exact ⟨place, (decode_eq_error_iff.1 read).mark, rfl⟩
  · have unmarked : ¬byteOrderMark.isPrefixOf bytes = true := by
      rwa [List.isPrefixOf_iff_prefix]
    rw [markLength, if_neg marked, dropMark, if_neg unmarked]
    cases read : decode bytes with
    | ok text => exact (illFormed ⟨text, decode_eq_ok_iff.1 read⟩).elim
    | error place =>
        refine ⟨place, ?_, rfl⟩
        rwa [Nat.zero_add, ← decode_eq_error_iff]

end Text.Utf8

variable {system : FileSystem} {path : Path} {content : List UInt8}

/-- A file that can be read is checked as the text that its bytes are those of, without a leading
mark. If there is no such text, the one error is that of the first ill-formed sequence, whose place
is counted from the end of a leading mark. -/
theorem checkFile_encoding [CallStack] (readable : system.read path = .ok content)
    (rules : List Rule) (scope : KeyScope) (time : Timestamp) :
    ∃ report, checkFile system rules scope time path = .ok report ∧
      (∀ text, encode text = content →
        report = checkText rules scope time (String.ofList (Document.dropMark text))) ∧
      (¬IsWellFormed content → ∃ place, IsFirstIllFormed content (markLength content + place) ∧
        report = Report.failed s!"Syntax error: invalid UTF-8 encoding at byte {place}" "syntax"
          time (some "Save the catalog as UTF-8")) := by
  refine ⟨checkBytes rules scope time content, by rw [checkFile, readable], ?_, ?_⟩
  · rintro text rfl
    rw [checkBytes, dropMark_encode, decode_eq_ok_iff.2 rfl]
  · intro illFormed
    obtain ⟨place, first, stopped⟩ := decode_dropMark_of_illFormed illFormed
    exact ⟨place, first, by rw [checkBytes, stopped]⟩

/-- A directory with one file. -/
def catalogTree (content : List UInt8) : Files :=
  ⟨.directory [("libs.versions.toml", .file content)], []⟩

theorem read_catalogTree (content : List UInt8) :
    (catalogTree content).system.read (.ofText "libs.versions.toml") = .ok content := rfl

open scoped CallStack

/-- The place in a file without a mark is the one that is reported. -/
theorem checkFile_stray_byte :
    (catalogTree [0x61, 0xff]).system.read (.ofText "libs.versions.toml") = .ok [0x61, 0xff] ∧
      IsFirstIllFormed [0x61, 0xff] 1 ∧ ∀ rules scope time,
        checkFile (catalogTree [0x61, 0xff]) rules scope time (.ofText "libs.versions.toml") =
          .ok (.failed "Syntax error: invalid UTF-8 encoding at byte 1" "syntax" time
            (some "Save the catalog as UTF-8")) := by
  have stray : IsFirstIllFormed [0x61, 0xff] 1 := decode_eq_error_iff.1 rfl
  refine ⟨rfl, stray, fun rules scope time => ?_⟩
  obtain ⟨report, checked, _, told⟩ :=
    checkFile_encoding (read_catalogTree [0x61, 0xff]) rules scope time
  obtain ⟨place, first, rfl⟩ := told stray.not_isWellFormed
  have same : markLength [0x61, 0xff] + place = 1 := first.unique stray
  rw [markLength, if_neg (by decide), Nat.zero_add] at same
  subst same
  exact checked

/-- In a file with a mark another place is reported. -/
theorem checkFile_stray_byte_marked :
    IsFirstIllFormed [0xef, 0xbb, 0xbf, 0xff] 3 ∧ ∀ rules scope time,
      checkFile (catalogTree [0xef, 0xbb, 0xbf, 0xff]) rules scope time
        (.ofText "libs.versions.toml") =
          .ok (.failed "Syntax error: invalid UTF-8 encoding at byte 0" "syntax" time
            (some "Save the catalog as UTF-8")) :=
  ⟨decode_eq_error_iff.1 rfl, fun _ _ _ => rfl⟩

end VersionCatalog
