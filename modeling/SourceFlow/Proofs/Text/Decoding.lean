import SourceFlow.Proofs.Text.Utf8

/-!
# Encoding takes decoding back

Where the decoder finds a character, the bytes it read are the bytes of that
character (`cons_eq_encodeChar_append_drop`). An announcement bounds the bits
of the lead byte and of the byte after it, and so the code point:
`Lead.Opens` says how, and there is one lemma for each number of bytes. Only
these bounds keep out overlong forms, surrogates and what is past the last
code point, where the decoder would read bytes that nothing is encoded as.

By induction on the pieces, what is left of any bytes when the ill-formed
parts are left out is a sublist of them, and strict decoding succeeds on just
the encodings of texts. These are the bytes that the standard library calls
valid.
-/

namespace SourceFlow.Utf8

/-! ## Bytes that follow -/

theorem eq_ofNat_of_toNat {b : UInt8} {n : Nat} (h : b.toNat = n) : b = .ofNat n := by
  rw [← h, UInt8.ofNat_toNat]

/-- Where a code point is read, the first byte holds the next six bits of it. -/
theorem exists_six_of_readFollow {k bits n read : Nat} {bytes : List UInt8}
    (h : readFollow (k + 1) bits bytes = (some n, read)) :
    ∃ six rest read', six < 64 ∧ bytes = .ofNat (0x80 + six) :: rest ∧ read = read' + 1 ∧
      readFollow k (bits * 64 + six) rest = (some n, read') := by
  cases bytes with
  | nil => cases h
  | cons b rest =>
    by_cases hcontinues : isContinuation b = true
    · have hrange : 0x80 ≤ b.toNat ∧ b.toNat ≤ 0xBF := by
        rwa [isContinuation, Bool.and_eq_true, decide_eq_true_eq, decide_eq_true_eq] at hcontinues
      rw [readFollow, if_pos hcontinues] at h
      obtain ⟨hpoint, hread⟩ := Prod.mk.inj h
      refine ⟨b.toNat - 0x80, rest, _, by omega, ?_, hread.symm, Prod.ext hpoint rfl⟩
      rw [← eq_ofNat_of_toNat (b := b) (by omega)]
    · rw [readFollow, if_neg hcontinues] at h
      cases h

/-! ## Lead bytes -/

/-- What a lead byte announces: so many bytes after the next one, bits behind a mark, and bounds
for these bits together with the six bits of the next byte. -/
structure Lead.Opens (l : Lead) (b : UInt8) (follow mark lowest highest : Nat) : Prop where
  follow : l.follow = follow + 1
  byte : b.toNat = mark + l.bits
  low : 0x80 ≤ l.low
  high : l.high ≤ 0xBF
  lowest : lowest ≤ l.bits * 64 + (l.low - 0x80)
  highest : l.bits * 64 + (l.high - 0x80) ≤ highest

/-- All announcements. Three bytes stand for code points below the surrogates or above them. -/
theorem opens_of_lead? {b : UInt8} {l : Lead} (h : lead? b = some l) :
    l.Opens b 0 0xC0 0x80 0x7FF ∨ l.Opens b 1 0xE0 0x20 0x35F ∨ l.Opens b 1 0xE0 0x380 0x3FF ∨
      l.Opens b 2 0xF0 0x10 0x10F := by
  unfold lead? at h
  dsimp only at h
  split at h
  · cases h
    left
    constructor <;> dsimp only <;> omega
  split at h
  · cases h
    right; left
    constructor <;> dsimp only <;> omega
  split at h
  · cases h
    right; left
    constructor <;> dsimp only <;> omega
  split at h
  · cases h
    right
    by_cases hbelow : b.toNat < 0xED
    · left
      constructor <;> dsimp only <;> omega
    · right; left
      constructor <;> dsimp only <;> omega
  -- what is left has four bytes
  right; right; right
  split at h
  · cases h
    constructor <;> dsimp only <;> omega
  split at h
  · cases h
    constructor <;> dsimp only <;> omega
  split at h
  · cases h
    constructor <;> dsimp only <;> omega
  · cases h

variable {l : Lead} {b : UInt8} {tail : List UInt8} {n read : Nat}

/-- The byte after the lead byte holds six bits, and with those of the lead byte they are within the
bounds. -/
theorem Lead.Opens.exists_first {follow mark lowest highest : Nat}
    (h : l.Opens b follow mark lowest highest) (htail : readTail l tail = (some n, read)) :
    ∃ first rest read', first < 64 ∧ tail = .ofNat (0x80 + first) :: rest ∧ read = read' + 1 ∧
      lowest ≤ l.bits * 64 + first ∧ l.bits * 64 + first ≤ highest ∧
      readFollow follow (l.bits * 64 + first) rest = (some n, read') := by
  have hlow := h.low
  have hhigh := h.high
  have hlowest := h.lowest
  have hhighest := h.highest
  cases tail with
  | nil => cases htail
  | cons first rest =>
    by_cases hrange : l.low ≤ first.toNat ∧ first.toNat ≤ l.high
    · have hfollow : l.follow - 1 = follow := by
        rw [h.follow, Nat.add_sub_cancel]
      rw [readTail, if_pos hrange, hfollow] at htail
      obtain ⟨hpoint, hread⟩ := Prod.mk.inj htail
      refine ⟨first.toNat - 0x80, rest, _, by omega, ?_, hread.symm, by omega, by omega,
        Prod.ext hpoint rfl⟩
      rw [← eq_ofNat_of_toNat (b := first) (by omega)]
    · rw [readTail, if_neg hrange] at htail
      cases htail

/-! ## One character -/

theorem toNat_charOfNat (h : n.isValidChar) : (Char.ofNat n).toNat = n := by
  rw [Char.ofNat, dif_pos h]
  rfl

/-- Two bytes. What one byte would be enough for is below the bounds. -/
theorem Lead.Opens.encodeChar_two (h : l.Opens b 0 0xC0 0x80 0x7FF)
    (htail : readTail l tail = (some n, read)) :
    b :: tail = encodeChar (Char.ofNat n) ++ tail.drop read := by
  obtain ⟨first, rest, _, hfirst, rfl, rfl, hlow, hhigh, hread⟩ := h.exists_first htail
  cases hread
  have hbyte := h.byte
  have hlead : b = .ofNat (0xC0 + (l.bits * 64 + first) / 64) := eq_ofNat_of_toNat (by omega)
  have hsix : (l.bits * 64 + first) % 64 = first := by omega
  rw [encodeChar, toNat_charOfNat (Or.inl (by omega)), if_neg (by omega), if_pos (by omega), hsix,
    ← hlead]
  rfl

/-- Three bytes. The bits of the first two tell surrogates from code points. -/
theorem Lead.Opens.encodeChar_three {lowest highest : Nat} (h : l.Opens b 1 0xE0 lowest highest)
    (hlong : 0x20 ≤ lowest) (hvalid : highest < 0x360 ∨ 0x380 ≤ lowest ∧ highest < 0x400)
    (htail : readTail l tail = (some n, read)) :
    b :: tail = encodeChar (Char.ofNat n) ++ tail.drop read := by
  obtain ⟨first, more, _, hfirst, rfl, rfl, hlow, hhigh, hmore⟩ := h.exists_first htail
  obtain ⟨second, rest, _, hsecond, rfl, rfl, hread⟩ := exists_six_of_readFollow hmore
  cases hread
  have hbyte := h.byte
  generalize hn : (l.bits * 64 + first) * 64 + second = n
  -- below the surrogates or above them, as the first two bytes tell
  have hchar : n.isValidChar := by
    unfold Nat.isValidChar
    omega
  have hlead : b = .ofNat (0xE0 + n / 4096) := eq_ofNat_of_toNat (by omega)
  have hone : n / 64 % 64 = first := by omega
  have htwo : n % 64 = second := by omega
  rw [encodeChar, toNat_charOfNat hchar, if_neg (by omega), if_neg (by omega), if_pos (by omega),
    hone, htwo, ← hlead]
  rfl

/-- Four bytes. The bounds end at the last code point. -/
theorem Lead.Opens.encodeChar_four (h : l.Opens b 2 0xF0 0x10 0x10F)
    (htail : readTail l tail = (some n, read)) :
    b :: tail = encodeChar (Char.ofNat n) ++ tail.drop read := by
  obtain ⟨first, two, _, hfirst, rfl, rfl, hlow, hhigh, htwo⟩ := h.exists_first htail
  obtain ⟨second, one, _, hsecond, rfl, rfl, hone⟩ := exists_six_of_readFollow htwo
  obtain ⟨third, rest, _, hthird, rfl, rfl, hread⟩ := exists_six_of_readFollow hone
  cases hread
  have hbyte := h.byte
  generalize hn : ((l.bits * 64 + first) * 64 + second) * 64 + third = n
  have hchar : n.isValidChar := Or.inr (by omega)
  have hlead : b = .ofNat (0xF0 + n / 262144) := eq_ofNat_of_toNat (by omega)
  have hone : n / 4096 % 64 = first := by omega
  have htwo : n / 64 % 64 = second := by omega
  have hthree : n % 64 = third := by omega
  rw [encodeChar, toNat_charOfNat hchar, if_neg (by omega), if_neg (by omega), if_neg (by omega),
    hone, htwo, hthree, ← hlead]
  rfl

/-- Where a character is read, the bytes are those of the character and the ones not yet read. -/
theorem cons_eq_encodeChar_append_drop {c : Char} (h : readOne b tail = (some c, read)) :
    b :: tail = encodeChar c ++ tail.drop read := by
  rw [readOne] at h
  split at h
  · rename_i hascii
    cases h
    rw [encodeChar, toNat_charOfNat (Or.inl (by omega)), if_pos hascii, UInt8.ofNat_toNat]
    rfl
  · split at h
    · cases h
    · rename_i l hlead
      obtain ⟨hpoint, rfl⟩ := Prod.mk.inj h
      obtain ⟨n, hn, rfl⟩ := Option.map_eq_some_iff.mp hpoint
      have htail : readTail l tail = (some n, (readTail l tail).2) := Prod.ext hn rfl
      -- two, three or four bytes
      rcases opens_of_lead? hlead with htwo | hbelow | habove | hfour
      · exact htwo.encodeChar_two htail
      · exact hbelow.encodeChar_three (by decide) (by decide) htail
      · exact habove.encodeChar_three (by decide) (by decide) htail
      · exact hfour.encodeChar_four htail

/-- A byte below 0x80 stands in the bytes of its own character only. -/
theorem mem_encodeChar_iff (hascii : b.toNat < 0x80) (c : Char) :
    b ∈ encodeChar c ↔ c.toNat = b.toNat := by
  have hlarge : ∀ {n : Nat}, 0x80 ≤ n → n < 256 → b ≠ .ofNat n := by
    rintro n hlow hhigh rfl
    rw [toNat_ofNat_of_lt hhigh] at hascii
    omega
  have hvalid : c.toNat < 0xD800 ∨ 0xDFFF < c.toNat ∧ c.toNat < 0x110000 := c.valid
  rw [encodeChar]
  split
  · rename_i hone
    rw [List.mem_singleton]
    constructor
    · rintro rfl
      exact (toNat_ofNat_of_lt (by omega)).symm
    · intro heq
      rw [heq, UInt8.ofNat_toNat]
  · -- every byte of a longer form has its highest bit set
    have hne : c.toNat ≠ b.toNat := by omega
    refine ⟨fun hmem => absurd hmem ?_, fun heq => absurd heq hne⟩
    split
    · simp only [List.mem_cons, List.not_mem_nil, or_false, not_or]
      exact ⟨hlarge (by omega) (by omega), hlarge (by omega) (by omega)⟩
    split
    · simp only [List.mem_cons, List.not_mem_nil, or_false, not_or]
      exact ⟨hlarge (by omega) (by omega), hlarge (by omega) (by omega),
        hlarge (by omega) (by omega)⟩
    · simp only [List.mem_cons, List.not_mem_nil, or_false, not_or]
      exact ⟨hlarge (by omega) (by omega), hlarge (by omega) (by omega),
        hlarge (by omega) (by omega), hlarge (by omega) (by omega)⟩

/-! ## Whole texts -/

/-- A byte below 0x80 stands in the bytes of a text just if its character stands in the text. -/
theorem mem_encode_iff (hascii : b.toNat < 0x80) (cs : List Char) :
    b ∈ encode cs ↔ Char.ofNat b.toNat ∈ cs := by
  rw [encode, List.mem_flatMap]
  constructor
  · rintro ⟨c, hc, hb⟩
    rwa [← (mem_encodeChar_iff hascii c).mp hb, Char.ofNat_toNat]
  · intro hmem
    exact ⟨_, hmem, (mem_encodeChar_iff hascii _).mpr (toNat_charOfNat (Or.inl (by omega)))⟩

/-- Bytes cut into characters and other parts, none in place of such a part. -/
inductive Cut : List UInt8 → List (Option Char) → Prop where
  | nil : Cut [] []
  | char (c : Char) {rest : List UInt8} {parts : List (Option Char)} (h : Cut rest parts) :
      Cut (encodeChar c ++ rest) (some c :: parts)
  | illFormed (b : UInt8) (part : List UInt8) {rest : List UInt8} {parts : List (Option Char)}
      (h : Cut rest parts) : Cut (b :: (part ++ rest)) (none :: parts)

/-- The decoder cuts its input: no byte is read twice or passed over between two pieces. -/
theorem cut_pieces (bytes : List UInt8) : Cut bytes (pieces bytes) := by
  induction bytes using pieces.induct with
  | case1 =>
    rw [pieces]
    exact .nil
  | case2 b rest r ih =>
    rw [pieces]
    cases hread : readOne b rest with
    | mk piece read =>
      have hr : r = (piece, read) := hread
      rw [hr] at ih
      -- an ill-formed part has a first byte and those read with it
      cases piece with
      | none =>
        have hcut := Cut.illFormed b (rest.take read) ih
        rwa [List.take_append_drop] at hcut
      | some c =>
        rw [cons_eq_encodeChar_append_drop hread]
        exact .char c ih

namespace Cut

variable {bytes : List UInt8} {parts : List (Option Char)}

/-- The bytes of the characters alone. -/
theorem encode_sublist (h : Cut bytes parts) : (encode (parts.filterMap id)).Sublist bytes := by
  induction h with
  | nil => exact List.Sublist.refl []
  | char c _ ih =>
    rw [List.filterMap_cons_some (f := id) rfl, encode_cons]
    exact ih.append_left _
  | illFormed b part _ ih =>
    rw [List.filterMap_cons_none rfl]
    exact (ih.trans (List.sublist_append_right part _)).cons b

/-- Where there are only characters, the bytes are theirs. -/
theorem eq_encode (h : Cut bytes parts) {cs : List Char} (hparts : parts = cs.map some) :
    bytes = encode cs := by
  induction h generalizing cs with
  | nil =>
    rw [List.map_eq_nil_iff.mp hparts.symm]
    rfl
  | char c _ ih =>
    obtain ⟨d, cs, rfl, hd, hcs⟩ := List.map_eq_cons_iff.mp hparts.symm
    rw [encode_cons, Option.some.inj hd, ih hcs.symm]
  | illFormed b part _ _ =>
    obtain ⟨d, cs, rfl, hd, _⟩ := List.map_eq_cons_iff.mp hparts.symm
    cases hd

end Cut

/-- The decoder only leaves bytes out. -/
theorem encode_decodeDropping_sublist (bytes : List UInt8) :
    (encode (decodeDropping bytes)).Sublist bytes :=
  (cut_pieces bytes).encode_sublist

/-- Parts are characters throughout just if they are those characters. -/
theorem mapM_id_eq_some_iff {α : Type} {parts : List (Option α)} {cs : List α} :
    parts.mapM id = some cs ↔ parts = cs.map some := by
  induction parts generalizing cs with
  | nil =>
    rw [List.mapM_nil]
    constructor
    · intro h
      cases h
      rfl
    · intro h
      rw [List.map_eq_nil_iff.mp h.symm]
      rfl
  | cons part parts ih =>
    rw [List.mapM_cons]
    constructor
    · intro h
      obtain ⟨c, rfl, hmore⟩ := Option.bind_eq_some_iff.mp h
      obtain ⟨rest, hrest, hcs⟩ := Option.bind_eq_some_iff.mp hmore
      cases hcs
      rw [ih.mp hrest, List.map_cons]
    · intro h
      obtain ⟨c, rest, rfl, rfl, hrest⟩ := List.map_eq_cons_iff.mp h.symm
      rw [ih.mpr hrest.symm]
      rfl

/-- Strict decoding succeeds on just the encodings of texts. -/
theorem decode?_eq_some_iff {bytes : List UInt8} {cs : List Char} :
    decode? bytes = some cs ↔ bytes = encode cs := by
  rw [decode?, mapM_id_eq_some_iff]
  constructor
  · exact (cut_pieces bytes).eq_encode
  · rintro rfl
    exact pieces_encode cs

/-- The bytes that strict decoding accepts are those the standard library calls valid. -/
theorem isValidUTF8_iff (bytes : List UInt8) :
    bytes.toByteArray.IsValidUTF8 ↔ ∃ cs, decode? bytes = some cs := by
  -- both encodings are the same bytes
  have hencode : ∀ cs : List Char, bytes.toByteArray = cs.utf8Encode ↔ bytes = encode cs := by
    intro cs
    have hbytes : cs.utf8Encode = (encode cs).toByteArray := by
      rw [List.utf8Encode, encode, funext encodeChar_eq]
    rw [hbytes, List.toByteArray_inj]
  constructor
  · rintro ⟨cs, hcs⟩
    exact ⟨cs, decode?_eq_some_iff.mpr ((hencode cs).mp hcs)⟩
  · rintro ⟨cs, hcs⟩
    exact ⟨cs, (hencode cs).mpr (decode?_eq_some_iff.mp hcs)⟩

end SourceFlow.Utf8
