import SourceFlow.Facts.Extraction

/-!
# Decoding takes encoding back

The bytes of a character are a lead byte, which announces how many bytes
follow and within which range the first of them lies, and the bytes that
follow, six bits each. The ranges shut out what no character is encoded as,
so they have to let in what every character is encoded as: `Lead.Fits` says
that an announcement does, and there is one lemma for each number of bytes.

From there the decoder reads one character in front of any bytes
(`pieces_encodeChar_append`) and, by induction, a whole text
(`pieces_encode`). All readings of bytes follow, since they differ only in
what they do with ill-formed parts. `encode_eq` ties the bytes to the
encoding of the standard library.

A parsed unit is measured on its decoded bytes and any other unit on its
text, so the measures do not depend on which grammars are loaded.
-/

namespace SourceFlow.Utf8

/-! ## Bytes that follow -/

theorem toNat_ofNat_of_lt {n : Nat} (h : n < 256) : (UInt8.ofNat n).toNat = n := by
  rw [UInt8.toNat_ofNat']
  omega

/-- Six bits, as a byte that follows, are read behind the bits gathered so far. -/
theorem readFollow_cons {six : Nat} (h : six < 64) (k bits : Nat) (rest : List UInt8) :
    readFollow (k + 1) bits (.ofNat (0x80 + six) :: rest) =
      ((readFollow k (bits * 64 + six) rest).1, (readFollow k (bits * 64 + six) rest).2 + 1) := by
  have hbyte : (UInt8.ofNat (0x80 + six)).toNat = 0x80 + six := toNat_ofNat_of_lt (by omega)
  have hcontinues : isContinuation (.ofNat (0x80 + six)) = true := by
    rw [isContinuation, hbyte, Bool.and_eq_true, decide_eq_true_eq, decide_eq_true_eq]
    omega
  have hsix : 0x80 + six - 0x80 = six := by omega
  rw [readFollow, if_pos hcontinues, hbyte, hsix]

/-! ## Lead bytes -/

/-- An announcement fits a character: so many bytes follow, the lead byte carries these bits, and
the six bits of the first byte that follows are within the range. -/
structure Lead.Fits (l : Lead) (follow bits first : Nat) : Prop where
  follow : l.follow = follow + 1
  bits : l.bits = bits
  low : l.low ≤ 0x80 + first
  high : 0x80 + first ≤ l.high

/-- With a fitting announcement, the first byte that follows is read and the others are left to
read. -/
theorem readTail_of_fits {l : Lead} {follow bits first : Nat} (h : l.Fits follow bits first)
    (hfirst : first < 64) (rest : List UInt8) :
    readTail l (.ofNat (0x80 + first) :: rest) =
      ((readFollow follow (bits * 64 + first) rest).1,
        (readFollow follow (bits * 64 + first) rest).2 + 1) := by
  have hbyte : (UInt8.ofNat (0x80 + first)).toNat = 0x80 + first := toNat_ofNat_of_lt (by omega)
  have hsix : 0x80 + first - 0x80 = first := by omega
  have hfollow : l.follow - 1 = follow := by
    have := h.follow
    omega
  rw [readTail, hbyte, if_pos ⟨h.low, h.high⟩, hsix, hfollow, h.bits]

/-- Two bytes. -/
theorem lead?_two {n : Nat} (hlow : 0x80 ≤ n) (hhigh : n < 0x800) :
    ∃ l, lead? (.ofNat (0xC0 + n / 64)) = some l ∧ l.Fits 0 (n / 64) (n % 64) := by
  have hbyte : (UInt8.ofNat (0xC0 + n / 64)).toNat = 0xC0 + n / 64 :=
    toNat_ofNat_of_lt (by omega)
  refine ⟨⟨1, n / 64, 0x80, 0xBF⟩, ?_, ?_⟩
  · have hbits : 0xC0 + n / 64 - 0xC0 = n / 64 := by omega
    rw [lead?, hbyte, if_pos (by omega), hbits]
  · constructor <;> dsimp only <;> omega

/-- Three bytes. The range is narrower at both ends of the gap that surrogates leave, and where two
bytes would be enough. -/
theorem lead?_three {n : Nat} (hlow : 0x800 ≤ n) (hhigh : n < 0x10000)
    (hvalid : n < 0xD800 ∨ 0xDFFF < n) :
    ∃ l, lead? (.ofNat (0xE0 + n / 4096)) = some l ∧ l.Fits 1 (n / 4096) (n / 64 % 64) := by
  have hbyte : (UInt8.ofNat (0xE0 + n / 4096)).toNat = 0xE0 + n / 4096 :=
    toNat_ofNat_of_lt (by omega)
  have hbits : 0xE0 + n / 4096 - 0xE0 = n / 4096 := by omega
  rw [lead?, hbyte, hbits, if_neg (by omega)]
  by_cases hfirst : n / 4096 = 0
  · -- overlong forms are shut out
    refine ⟨⟨2, 0, 0xA0, 0xBF⟩, if_pos (by omega), ?_⟩
    constructor <;> dsimp only <;> omega
  · rw [if_neg (by omega)]
    by_cases hgap : n / 4096 = 0xD
    · -- surrogates are shut out
      refine ⟨⟨2, 0xD, 0x80, 0x9F⟩, if_pos (by omega), ?_⟩
      constructor <;> dsimp only <;> omega
    · rw [if_neg (by omega)]
      refine ⟨⟨2, n / 4096, 0x80, 0xBF⟩, if_pos (by omega), ?_⟩
      constructor <;> dsimp only <;> omega

/-- Four bytes. The range is narrower where three bytes would be enough, and at the last code
point. -/
theorem lead?_four {n : Nat} (hlow : 0x10000 ≤ n) (hhigh : n < 0x110000) :
    ∃ l, lead? (.ofNat (0xF0 + n / 262144)) = some l ∧
      l.Fits 2 (n / 262144) (n / 4096 % 64) := by
  have hbyte : (UInt8.ofNat (0xF0 + n / 262144)).toNat = 0xF0 + n / 262144 :=
    toNat_ofNat_of_lt (by omega)
  have hbits : 0xF0 + n / 262144 - 0xF0 = n / 262144 := by omega
  rw [lead?, hbyte, hbits, if_neg (by omega), if_neg (by omega), if_neg (by omega),
    if_neg (by omega)]
  by_cases hfirst : n / 262144 = 0
  · -- overlong forms again
    refine ⟨⟨3, 0, 0x90, 0xBF⟩, if_pos (by omega), ?_⟩
    constructor <;> dsimp only <;> omega
  · rw [if_neg (by omega)]
    by_cases hlast : n / 262144 = 4
    · -- nothing is encoded beyond the last code point
      rw [if_neg (by omega)]
      refine ⟨⟨3, 4, 0x80, 0x8F⟩, if_pos (by omega), ?_⟩
      constructor <;> dsimp only <;> omega
    · refine ⟨⟨3, n / 262144, 0x80, 0xBF⟩, if_pos (by omega), ?_⟩
      constructor <;> dsimp only <;> omega

/-! ## One character -/

/-- A lead byte of two or more bytes, its announcement, and what the tail is read as. -/
theorem readOne_of_lead {b : UInt8} {l : Lead} (hlead : lead? b = some l) {tail : List UInt8}
    {c : Char} {k : Nat} (htail : readTail l tail = (some c.toNat, k)) :
    readOne b tail = (some c, k) := by
  -- a byte below 0x80 announces nothing
  have hbyte : ¬ b.toNat < 0x80 := by
    intro hascii
    have hnone : lead? b = none := by
      rw [lead?, if_neg (by omega), if_neg (by omega), if_neg (by omega), if_neg (by omega),
        if_neg (by omega), if_neg (by omega), if_neg (by omega)]
    rw [hnone] at hlead
    cases hlead
  rw [readOne, if_neg hbyte, hlead]
  simp only [htail, Option.map_some, Char.ofNat_toNat]

/-- The bytes of a character are read as the character, whatever stands behind them. -/
theorem readOne_encodeChar (c : Char) :
    ∃ b tail, encodeChar c = b :: tail ∧
      ∀ rest, readOne b (tail ++ rest) = (some c, tail.length) := by
  have hvalid : c.toNat < 0xD800 ∨ 0xDFFF < c.toNat ∧ c.toNat < 0x110000 := c.valid
  rw [encodeChar]
  -- one byte, then two, three and four
  by_cases hone : c.toNat < 0x80
  · rw [if_pos hone]
    refine ⟨_, [], rfl, fun rest => ?_⟩
    have hbyte : (UInt8.ofNat c.toNat).toNat = c.toNat := toNat_ofNat_of_lt (by omega)
    rw [readOne, hbyte, if_pos hone, Char.ofNat_toNat]
    rfl
  rw [if_neg hone]
  by_cases htwo : c.toNat < 0x800
  · rw [if_pos htwo]
    obtain ⟨l, hlead, hfits⟩ := lead?_two (by omega) htwo
    refine ⟨_, _, rfl, fun rest => readOne_of_lead hlead ?_⟩
    have hbits : c.toNat / 64 * 64 + c.toNat % 64 = c.toNat := by omega
    rw [List.cons_append, readTail_of_fits hfits (by omega), hbits]
    rfl
  rw [if_neg htwo]
  by_cases hthree : c.toNat < 0x10000
  · rw [if_pos hthree]
    obtain ⟨l, hlead, hfits⟩ := lead?_three (by omega) hthree (by omega)
    refine ⟨_, _, rfl, fun rest => readOne_of_lead hlead ?_⟩
    have hbits : (c.toNat / 4096 * 64 + c.toNat / 64 % 64) * 64 + c.toNat % 64 = c.toNat := by
      omega
    rw [List.cons_append, readTail_of_fits hfits (by omega), List.cons_append,
      readFollow_cons (by omega), hbits]
    rfl
  · rw [if_neg hthree]
    obtain ⟨l, hlead, hfits⟩ := lead?_four (n := c.toNat) (by omega) (by omega)
    refine ⟨_, _, rfl, fun rest => readOne_of_lead hlead ?_⟩
    have hbits : ((c.toNat / 262144 * 64 + c.toNat / 4096 % 64) * 64 + c.toNat / 64 % 64) * 64 +
        c.toNat % 64 = c.toNat := by omega
    rw [List.cons_append, readTail_of_fits hfits (by omega), List.cons_append,
      readFollow_cons (by omega), List.cons_append, readFollow_cons (by omega), hbits]
    rfl

/-! ## Whole texts -/

theorem encode_cons (c : Char) (cs : List Char) : encode (c :: cs) = encodeChar c ++ encode cs :=
  List.flatMap_cons

/-- The bytes of a character make one piece, whatever stands behind them. -/
theorem pieces_encodeChar_append (c : Char) (rest : List UInt8) :
    pieces (encodeChar c ++ rest) = some c :: pieces rest := by
  obtain ⟨b, tail, hbytes, hread⟩ := readOne_encodeChar c
  rw [hbytes, List.cons_append, pieces]
  simp only [hread, List.drop_left]

/-- The bytes of a text are cut into its characters, and nothing in them is ill-formed. -/
theorem pieces_encode (cs : List Char) : pieces (encode cs) = cs.map some := by
  induction cs with
  | nil => rw [encode, List.flatMap_nil, pieces, List.map_nil]
  | cons c rest ih => rw [encode_cons, pieces_encodeChar_append, ih, List.map_cons]

/-- In the bytes of a text there is nothing to replace. -/
theorem decodeReplacing_encode (cs : List Char) : decodeReplacing (encode cs) = cs := by
  rw [decodeReplacing, pieces_encode, List.map_map]
  exact List.map_id cs

/-- Nor to drop. -/
theorem decodeDropping_encode (cs : List Char) : decodeDropping (encode cs) = cs := by
  rw [decodeDropping, pieces_encode, List.filterMap_map]
  exact List.filterMap_some

/-! ## The standard encoding -/

/-- The bytes of one character are those of the standard library. -/
theorem encodeChar_eq (c : Char) : encodeChar c = String.utf8EncodeChar c := by
  have hvalid : c.val.toNat < 0xD800 ∨ 0xDFFF < c.val.toNat ∧ c.val.toNat < 0x110000 := c.valid
  rw [encodeChar, String.utf8EncodeChar]
  unfold Char.toNat
  by_cases hone : c.val.toNat < 0x80
  · rw [if_pos hone, if_pos (by omega)]
  -- the bounds are those of the lengths, once with and once without the last value
  have hone' : ¬ c.val.toNat ≤ 127 := by omega
  rw [if_neg hone, if_neg hone']
  by_cases htwo : c.val.toNat < 0x800
  · have hlead : 0xC0 + c.val.toNat / 64 = c.val.toNat / 64 % 32 + 192 := by omega
    rw [if_pos htwo, if_pos (by omega), hlead, Nat.add_comm 0x80]
  have htwo' : ¬ c.val.toNat ≤ 2047 := by omega
  rw [if_neg htwo, if_neg htwo']
  by_cases hthree : c.val.toNat < 0x10000
  · have hlead : 0xE0 + c.val.toNat / 4096 = c.val.toNat / 4096 % 16 + 224 := by omega
    rw [if_pos hthree, if_pos (by omega), hlead, Nat.add_comm 0x80, Nat.add_comm 0x80]
  · have hlead : 0xF0 + c.val.toNat / 262144 = c.val.toNat / 262144 % 8 + 240 := by omega
    rw [if_neg hthree, if_neg (by omega), hlead, Nat.add_comm 0x80, Nat.add_comm 0x80,
      Nat.add_comm 0x80]

/-- The bytes of a text are those in which the standard library keeps it. -/
theorem encode_eq (s : String) : encode s.toList = s.toUTF8.data.toList := by
  have hchars : encode s.toList = s.toList.flatMap String.utf8EncodeChar :=
    congrArg (s.toList.flatMap ·) (funext encodeChar_eq)
  have hbytes : s.toUTF8 = (s.toList.flatMap String.utf8EncodeChar).toByteArray := by
    conv => lhs; rw [← String.ofList_toList (s := s)]
    rw [String.toUTF8_eq_toByteArray, String.toByteArray_ofList, List.utf8Encode]
  rw [hchars, hbytes, List.data_toByteArray]

end SourceFlow.Utf8

/-! ## Measures of a unit -/

namespace SourceFlow

theorem Syntax.Source.text_ofText (s : String) : (ofText s).text = s := by
  rw [text, ofText, Utf8.decodeReplacing_encode, String.ofList_toList]

/-- A unit that is read is measured on what its bytes decode to, which is its text. -/
theorem SourceUnit.text_source_of_parse {loaded : List Grammar} {unit : SourceUnit}
    {p : ParsedUnit} (h : unit.parse loaded = .ok p) : p.source.text = unit.text := by
  obtain ⟨kind, _, _, rfl⟩ := SourceUnit.parse_eq_ok_iff.mp h
  exact Syntax.Source.text_ofText unit.text

/-- The bytes of a text decode to the text. So whatever the tree of a unit and whether or not a
loaded grammar reads it, its lines are the line feeds of its text and one more, and its characters
are the code points of its text. -/
theorem SourceUnit.measures_of_text (loaded : List Grammar) (unit : SourceUnit) :
    Utf8.decodeReplacing unit.text.toUTF8.data.toList = unit.text.toList ∧
      (unit.facts loaded).metadata.lineCount = unit.text.toList.count '\n' + 1 ∧
      (unit.facts loaded).metadata.characterCount = unit.text.toList.length := by
  refine ⟨?_, ?_⟩
  · rw [← Utf8.encode_eq, Utf8.decodeReplacing_encode]
  cases hparse : unit.parse loaded with
  | ok p =>
    have htext := SourceUnit.text_source_of_parse hparse
    rw [SourceUnit.facts_of_parse hparse]
    unfold ParsedUnit.facts
    dsimp only
    rw [htext, Text.lineCount, String.length_toList]
    exact ⟨rfl, rfl⟩
  | error cause =>
    unfold SourceUnit.facts
    rw [hparse]
    unfold UnitFacts.unread
    dsimp only
    rw [Text.lineCount, String.length_toList]
    exact ⟨rfl, rfl⟩

end SourceFlow
