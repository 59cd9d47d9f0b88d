import SourceFlow.Text.Basic

/-!
# Blank characters

The characters that stripping removes from the ends of a text: the ones
with the Unicode property `White_Space`, and the four separators
`U+001C` to `U+001F`. The zero-width space and the byte order mark are
not blank.
-/

namespace SourceFlow.Text

/-- Code point ranges of the blank characters, in increasing order. -/
def blankRanges : List (Nat × Nat) :=
  [(0x09, 0x0D), (0x1C, 0x20), (0x85, 0x85), (0xA0, 0xA0), (0x1680, 0x1680),
   (0x2000, 0x200A), (0x2028, 0x2029), (0x202F, 0x202F), (0x205F, 0x205F), (0x3000, 0x3000)]

/-- Whether a code point lies in one of the ranges. -/
def inRanges (ranges : List (Nat × Nat)) (n : Nat) : Bool :=
  ranges.any fun r => r.1 ≤ n && n ≤ r.2

def isBlank (c : Char) : Bool :=
  inRanges blankRanges c.toNat

/-- The characters without the blank ones at both ends. -/
def stripChars (cs : List Char) : List Char :=
  dropTrailing isBlank (cs.dropWhile isBlank)

end SourceFlow.Text
