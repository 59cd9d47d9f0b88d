/-!
# Text: tests and cuts shared by the whole library

All functions read a text as its list of characters (code points), so
lengths, cuts and searches count characters and never bytes.
-/

namespace SourceFlow.Text

def startsWith (s p : String) : Bool :=
  p.toList.isPrefixOf s.toList

/-- A text begins with what another text can be put behind to give it. -/
theorem startsWith_iff (s p : String) :
    startsWith s p = true ↔ ∃ rest, s.toList = p.toList ++ rest := by
  rw [startsWith, List.isPrefixOf_iff_prefix]
  constructor
  · rintro ⟨rest, hrest⟩
    exact ⟨rest, hrest.symm⟩
  · rintro ⟨rest, hrest⟩
    exact ⟨rest, hrest.symm⟩

def endsWith (s p : String) : Bool :=
  p.toList.isSuffixOf s.toList

/-- Whether `needle` stands somewhere in `hay` without a gap. -/
def occursIn (needle : List Char) : List Char → Bool
  | [] => needle.isEmpty
  | c :: rest => needle.isPrefixOf (c :: rest) || occursIn needle rest

/-- Whether `needle` is a substring of `s`; the empty text is one of every text. -/
def contains (s needle : String) : Bool :=
  occursIn needle.toList s.toList

/-- Maps each character to a text and joins the results in order. -/
def flatMapChars (f : Char → List Char) (s : String) : String :=
  String.ofList (s.toList.flatMap f)

def dropFirst (n : Nat) (s : String) : String :=
  String.ofList (s.toList.drop n)

def takeFirst (n : Nat) (s : String) : String :=
  String.ofList (s.toList.take n)

/-- The text without its first and its last character; empty if there are fewer than two. -/
def dropEnds (s : String) : String :=
  String.ofList (s.toList.drop 1).dropLast

/-- The list without its longest run of `p` at the end. -/
def dropTrailing (p : Char → Bool) (cs : List Char) : List Char :=
  (cs.reverse.dropWhile p).reverse

/-- ASCII letters in lower case, every other character as it is. -/
def lowerAscii (s : String) : String :=
  String.ofList (s.toList.map Char.toLower)

/-- Decimal text of an integer, with a minus sign in front of a negative one. -/
def decimal : Int → String
  | .ofNat n => n.repr
  | .negSucc n => "-" ++ (n + 1).repr

/-- Decimal text of `n`, filled with zeros in front to at least `width` digits. -/
def zeroPadded (width n : Nat) : String :=
  let digits := (n.repr).toList
  String.ofList (List.replicate (width - digits.length) '0' ++ digits)

end SourceFlow.Text
