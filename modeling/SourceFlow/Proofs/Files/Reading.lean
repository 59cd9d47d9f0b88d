import SourceFlow.Proofs.Files.Loading
import SourceFlow.Proofs.Text.Decoding
import SourceFlow.Proofs.Text.Lines

/-!
# Reading is a normalisation

The text of a file has no carriage return, and its encoding has no more bytes
than the file. So a file that holds this encoding is not too large either, and
it is read as the same text. The bytes of a file are those of its text just if
they are valid and no carriage return is among them: all offsets into the text
are then offsets into the file.
-/

namespace SourceFlow.Sources

/-! ## The text of a file -/

theorem toList_textOf (bytes : List UInt8) :
    (textOf bytes).toList = Text.foldNewlines (Utf8.decodeDropping bytes) :=
  String.toList_ofList

theorem return_not_mem_textOf (bytes : List UInt8) : '\r' ∉ (textOf bytes).toList := by
  rw [toList_textOf]
  exact Text.return_not_mem_foldNewlines _

/-- A text without carriage returns is read back from its encoding. -/
theorem textOf_encode {cs : List Char} (h : '\r' ∉ cs) :
    textOf (Utf8.encode cs) = String.ofList cs := by
  rw [textOf, Utf8.decodeDropping_encode, Text.foldNewlines_of_not_mem h]

/-- What is read is read again from its own encoding. -/
theorem textOf_encode_textOf (bytes : List UInt8) :
    textOf (Utf8.encode (textOf bytes).toList) = textOf bytes := by
  rw [textOf_encode (return_not_mem_textOf bytes), String.ofList_toList]

/-! ## Size -/

/-- Both line ends are one byte, so folding can only save one. -/
theorem length_encode_foldNewlines_le (cs : List Char) :
    (Utf8.encode (Text.foldNewlines cs)).length ≤ (Utf8.encode cs).length := by
  have hfeed : (Utf8.encodeChar '\n').length = 1 := rfl
  have hreturn : (Utf8.encodeChar '\r').length = 1 := rfl
  fun_induction Text.foldNewlines cs with
  | case1 => exact Nat.le_refl _
  -- a carriage return and a line feed become one line feed
  | case2 rest ih =>
    simp only [Utf8.encode_cons, List.length_append]
    omega
  -- a carriage return alone becomes a line feed, and any other character stays
  | case3 c rest _ ih =>
    simp only [Utf8.encode_cons, List.length_append]
    split
    · rename_i hc
      rw [hc]
      omega
    · omega

/-- Dropping bytes and folding line ends both only shorten. -/
theorem length_encode_textOf_le (bytes : List UInt8) :
    (Utf8.encode (textOf bytes).toList).length ≤ bytes.length := by
  rw [toList_textOf]
  calc (Utf8.encode (Text.foldNewlines (Utf8.decodeDropping bytes))).length
      ≤ (Utf8.encode (Utf8.decodeDropping bytes)).length := length_encode_foldNewlines_le _
    _ ≤ bytes.length := (Utf8.encode_decodeDropping_sublist bytes).length_le

/-! ## Exactness -/

/-- The bytes of a file are those of its text just if nothing had to be left out or folded. -/
theorem encode_textOf_eq_iff (bytes : List UInt8) :
    Utf8.encode (textOf bytes).toList = bytes ↔
      bytes.toByteArray.IsValidUTF8 ∧ 0x0D ∉ bytes := by
  have hreturn : ∀ cs, 0x0D ∈ Utf8.encode cs ↔ '\r' ∈ cs := Utf8.mem_encode_iff (by decide)
  rw [Utf8.isValidUTF8_iff]
  constructor
  · intro h
    refine ⟨⟨(textOf bytes).toList, Utf8.decode?_eq_some_iff.mpr h.symm⟩, ?_⟩
    rw [← h, hreturn]
    exact return_not_mem_textOf bytes
  -- valid bytes are the encoding of some text, and reading gives it back if no return is in it
  · rintro ⟨⟨cs, hcs⟩, hnone⟩
    obtain rfl := Utf8.decode?_eq_some_iff.mp hcs
    have hcs : '\r' ∉ cs := fun hmem => hnone ((hreturn cs).mpr hmem)
    rw [textOf_encode hcs, String.toList_ofList]

/-! ## Files -/

/-- A file that is there, below the root and not too large is read. -/
theorem readBelow_of_fits {parser : Parser} {limit : Int} {files : FileTree}
    {file root : PurePath} {id : String} {content : FileContent} (hid : idBelow file root = .ok id)
    (hfile : fileAlong? files file = some content)
    (hsize : (content.bytes.length : Int) ≤ limit) :
    readBelow parser limit files file root =
      .ok (some (.parsedBy parser id (textOf content.bytes))) := by
  rw [readBelow, hid, hfile]
  show Except.ok (readUnit? parser limit id content) = _
  rw [readUnit?, if_neg (by omega)]

/-- A file within the limit is read as its valid characters with every line end folded. No carriage
return is left. Any file that holds the encoding of the text is read as the same text, under the
same limit. The encoding is what a parser gets, and it is what the first file holds just if that is
valid and has no carriage return. -/
theorem readBelow_normalises (parser : Parser) {limit : Int} {files : FileTree}
    {file root : PurePath} {id : String} {content : FileContent} (hid : idBelow file root = .ok id)
    (hfile : fileAlong? files file = some content)
    (hsize : (content.bytes.length : Int) ≤ limit) :
    ∃ u, readBelow parser limit files file root = .ok (some u) ∧ u.id = id ∧
      u.text.toList = Text.foldNewlines (Utf8.decodeDropping content.bytes) ∧
      '\r' ∉ u.text.toList ∧
      (∀ (files' : FileTree) (file' root' : PurePath) (id' : String) (content' : FileContent),
        idBelow file' root' = .ok id' → fileAlong? files' file' = some content' →
        content'.bytes = u.text.toUTF8.data.toList →
        ∃ v, readBelow parser limit files' file' root' = .ok (some v) ∧ v.id = id' ∧
          v.text = u.text) ∧
      (∀ loaded p, u.parse loaded = .ok p → p.source.bytes = u.text.toUTF8.data.toList) ∧
      (u.text.toUTF8.data.toList = content.bytes ↔
        content.bytes.toByteArray.IsValidUTF8 ∧ 0x0D ∉ content.bytes) := by
  refine ⟨_, readBelow_of_fits hid hfile hsize, rfl, toList_textOf _, return_not_mem_textOf _,
    ?_, ?_, ?_⟩
  · intro files' file' root' id' content' hid' hfile' hbytes
    have hencoded : content'.bytes = Utf8.encode (textOf content.bytes).toList := by
      rw [hbytes, Utf8.encode_eq]
      rfl
    -- the second file is no larger than the first, so it is within the limit too
    have hsize' : (content'.bytes.length : Int) ≤ limit := by
      have hle := length_encode_textOf_le content.bytes
      rw [hencoded]
      omega
    refine ⟨_, readBelow_of_fits hid' hfile' hsize', rfl, ?_⟩
    show textOf content'.bytes = textOf content.bytes
    rw [hencoded, textOf_encode_textOf]
  -- the parser encodes the very text that was read
  · intro loaded p hparse
    obtain ⟨kind, _, _, rfl⟩ := SourceUnit.parse_eq_ok_iff.mp hparse
    exact Utf8.encode_eq _
  · rw [← Utf8.encode_eq]
    exact encode_textOf_eq_iff content.bytes

/-- A stray byte divides a carriage return from its line feed, and a surrogate and the beginning of
a character follow the last line end. -/
def strayBytes : List UInt8 :=
  [0x61, 0x0D, 0xFF, 0x0A, 0xC3, 0xA9, 0x0D, 0xED, 0xA0, 0x80, 0xE2, 0x82]

/-- Two files that are read as one text. -/
def mixedFiles : FileTree :=
  .directory
    [("src", .directory
      [("a.ts", .file ⟨strayBytes⟩), ("b.ts", .file ⟨[0x61, 0x0A, 0xC3, 0xA9, 0x0A]⟩)])]

/-- The first file is read as the text that the second holds, though its bytes are others. -/
theorem readBelow_normalises_mixedFiles :
    ∃ u v, readBelow oneNode 12 mixedFiles ⟨0, ["src", "a.ts"]⟩ ⟨0, ["src"]⟩ = .ok (some u) ∧
      readBelow oneNode 12 mixedFiles ⟨0, ["src", "b.ts"]⟩ ⟨0, []⟩ = .ok (some v) ∧
      u.id = "a.ts" ∧ v.id = "src/b.ts" ∧ u.text = "a\né\n" ∧ v.text = "a\né\n" ∧
      u.text.toUTF8.data.toList ≠ strayBytes ∧
      ∃ p, u.parse Grammar.all = .ok p ∧ p.source.bytes = [0x61, 0x0A, 0xC3, 0xA9, 0x0A] := by
  have hid : idBelow ⟨0, ["src", "a.ts"]⟩ ⟨0, ["src"]⟩ = .ok "a.ts" := rfl
  have hfile : fileAlong? mixedFiles ⟨0, ["src", "a.ts"]⟩ = some ⟨strayBytes⟩ := rfl
  have hid' : idBelow ⟨0, ["src", "b.ts"]⟩ ⟨0, []⟩ = .ok "src/b.ts" := rfl
  have hfile' : fileAlong? mixedFiles ⟨0, ["src", "b.ts"]⟩ =
      some ⟨[0x61, 0x0A, 0xC3, 0xA9, 0x0A]⟩ := rfl
  have hsize : (strayBytes.length : Int) ≤ 12 := by decide
  obtain ⟨u, hread, hu, htext, _, hagain, hsource, hexact⟩ :=
    readBelow_normalises oneNode hid hfile hsize
  have hchars : Text.foldNewlines (Utf8.decodeDropping strayBytes) = "a\né\n".toList := by
    decide +kernel
  have hsame : u.text = "a\né\n" := String.toList_injective (htext.trans hchars)
  have hbytes : [0x61, 0x0A, 0xC3, 0xA9, 0x0A] = u.text.toUTF8.data.toList := by
    rw [hsame]
    decide
  obtain ⟨v, hread', hv, htext'⟩ := hagain _ _ _ _ _ hid' hfile' hbytes
  refine ⟨u, v, hread, hread', hu, hv, hsame, htext'.trans hsame, ?_, ?_⟩
  · intro heq
    exact absurd (hexact.mp heq).2 (by decide)
  · have hkind : ScriptKind.ofPath? u.id = some .typescript := by
      rw [hu]
      decide
    have hloaded : ScriptKind.typescript.isSupported Grammar.all = true := rfl
    have hparse := SourceUnit.parse_eq_ok_iff.mpr ⟨_, hkind, hloaded, rfl⟩
    exact ⟨_, hparse, (hsource Grammar.all _ hparse).trans hbytes.symm⟩

end SourceFlow.Sources
