/-!
# UTF-8

Encoding of characters as bytes, and decoding that survives invalid
bytes. Decoding cuts the input into well-formed characters and maximal
ill-formed parts: a part is the longest run of bytes that begins some
well-formed sequence and is not completed, or a single byte that can
begin none. The three readings of bytes differ only in what they do with
such a part.
-/

namespace SourceFlow.Utf8

/-! ## Encoding -/

/-- The one to four bytes of a character. -/
def encodeChar (c : Char) : List UInt8 :=
  let n := c.toNat
  if n < 0x80 then [.ofNat n]
  else if n < 0x800 then [.ofNat (0xC0 + n / 64), .ofNat (0x80 + n % 64)]
  else if n < 0x10000 then
    [.ofNat (0xE0 + n / 4096), .ofNat (0x80 + n / 64 % 64), .ofNat (0x80 + n % 64)]
  else
    [.ofNat (0xF0 + n / 262144), .ofNat (0x80 + n / 4096 % 64), .ofNat (0x80 + n / 64 % 64),
      .ofNat (0x80 + n % 64)]

def encode (cs : List Char) : List UInt8 :=
  cs.flatMap encodeChar

/-! ## Decoding -/

/-- Whether a byte continues a sequence, whatever its lead byte. -/
def isContinuation (b : UInt8) : Bool :=
  0x80 ≤ b.toNat && b.toNat ≤ 0xBF

/-- What a lead byte announces: how many bytes follow it, the bits it carries itself, and the
range of the first byte after it. The range shuts out overlong forms, surrogates and code points
past the last one. -/
structure Lead where
  follow : Nat
  bits : Nat
  low : Nat
  high : Nat
deriving Repr, DecidableEq

/-- The announcement of a lead byte; none for a byte that begins no sequence of two or more. -/
def lead? (b : UInt8) : Option Lead :=
  let n := b.toNat
  if 0xC2 ≤ n ∧ n ≤ 0xDF then some ⟨1, n - 0xC0, 0x80, 0xBF⟩
  -- a first byte below 0xA0 would make an overlong form
  else if n = 0xE0 then some ⟨2, 0, 0xA0, 0xBF⟩
  -- from 0xA0 on there are the surrogates
  else if n = 0xED then some ⟨2, 0xD, 0x80, 0x9F⟩
  else if 0xE1 ≤ n ∧ n ≤ 0xEF then some ⟨2, n - 0xE0, 0x80, 0xBF⟩
  else if n = 0xF0 then some ⟨3, 0, 0x90, 0xBF⟩
  else if 0xF1 ≤ n ∧ n ≤ 0xF3 then some ⟨3, n - 0xF0, 0x80, 0xBF⟩
  -- from 0x90 on there are no code points
  else if n = 0xF4 then some ⟨3, 4, 0x80, 0x8F⟩
  else none

/-- Reads `follow` continuation bytes onto the bits gathered so far. Gives the code point, or none
if a byte is missing, and how many bytes were read. -/
def readFollow : Nat → Nat → List UInt8 → Option Nat × Nat
  | 0, bits, _ => (some bits, 0)
  | _ + 1, _, [] => (none, 0)
  | k + 1, bits, b :: rest =>
    if isContinuation b then
      let r := readFollow k (bits * 64 + (b.toNat - 0x80)) rest
      (r.1, r.2 + 1)
    else (none, 0)

/-- Reads what follows a lead byte: its first byte within the announced range, then the others. -/
def readTail (l : Lead) : List UInt8 → Option Nat × Nat
  | [] => (none, 0)
  | b :: rest =>
    if l.low ≤ b.toNat ∧ b.toNat ≤ l.high then
      let r := readFollow (l.follow - 1) (l.bits * 64 + (b.toNat - 0x80)) rest
      (r.1, r.2 + 1)
    else (none, 0)

/-- Reads the first character or ill-formed part of a non-empty input: the character, or none, and
how many bytes after the first one belong to it. -/
def readOne (b : UInt8) (rest : List UInt8) : Option Char × Nat :=
  if b.toNat < 0x80 then (some (Char.ofNat b.toNat), 0)
  else
    match lead? b with
    | none => (none, 0)
    | some l =>
      let r := readTail l rest
      (r.1.map Char.ofNat, r.2)

/-- The characters of the input in order, none in place of each maximal ill-formed part. -/
def pieces : List UInt8 → List (Option Char)
  | [] => []
  | b :: rest =>
    let r := readOne b rest
    r.1 :: pieces (rest.drop r.2)
termination_by bytes => bytes.length
decreasing_by simp only [List.length_drop, List.length_cons]; omega

/-- Decodes with the replacement character in place of each ill-formed part. -/
def decodeReplacing (bytes : List UInt8) : List Char :=
  (pieces bytes).map fun p => p.getD '\uFFFD'

/-- Decodes and leaves the ill-formed parts out. -/
def decodeDropping (bytes : List UInt8) : List Char :=
  (pieces bytes).filterMap id

/-- Decodes input without ill-formed parts, and nothing else. -/
def decode? (bytes : List UInt8) : Option (List Char) :=
  (pieces bytes).mapM id

end SourceFlow.Utf8
