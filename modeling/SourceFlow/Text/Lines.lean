import SourceFlow.Text.Basic

/-!
# Lines

Two notions of a line live here. Diagnostics quote the first line of a
snippet, where a line ends at any of the Unicode line boundaries. Files
are read with the three usual line ends folded into the line feed, and
everything else counts line feeds only.
-/

namespace SourceFlow.Text

/-! ## Line boundaries -/

/-- Whether a character ends a line of quoted text. -/
def isLineBreak (c : Char) : Bool :=
  let n := c.toNat
  -- more characters than in `foldNewlines`, where only line feeds and carriage returns count
  (0x0A ≤ n && n ≤ 0x0D) || (0x1C ≤ n && n ≤ 0x1E) || n == 0x85 || n == 0x2028 || n == 0x2029

/-- The characters before the first line boundary. -/
def firstLine (cs : List Char) : List Char :=
  cs.takeWhile fun c => !isLineBreak c

/-! ## Line feeds -/

/-- Folds a carriage return, with a line feed after it or not, into one line feed. -/
def foldNewlines : List Char → List Char
  | [] => []
  | '\r' :: '\n' :: rest => '\n' :: foldNewlines rest
  | c :: rest => (if c = '\r' then '\n' else c) :: foldNewlines rest

/-- How many lines a text has, the one after the last line feed included. -/
def lineCount (s : String) : Nat :=
  s.toList.count '\n' + 1

/-- The text without the line feeds at its end. -/
def dropTrailingNewlines (s : String) : String :=
  String.ofList (dropTrailing (· == '\n') s.toList)

def joinLines (lines : List String) : String :=
  "\n".intercalate lines

end SourceFlow.Text
