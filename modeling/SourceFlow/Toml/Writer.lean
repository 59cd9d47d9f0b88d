import SourceFlow.Toml.Document
import SourceFlow.Value.Literal

/-!
# Writing settings documents

A table is written with its plain entries first, then its arrays of
tables, then the tables in it, level by level, each under a header of its
own. Null is not written at all.
-/

namespace SourceFlow.Toml

/-! ## Texts and names -/

/-- What joins two pieces of a text that was cut at its escapes with two digits. It is the mark of
an escape with four digits if a backslash before it makes it one, and a plain letter if not. -/
def joint (before : List Char) : List Char :=
  let backslashes := (before.reverse.takeWhile (· == '\\')).length
  let counted := if backslashes < before.length then backslashes else backslashes - 1
  if backslashes = 0 ∨ counted % 2 = 1 then ['x'] else "u00".toList

/-- Joins pieces; backslashes before a joint are halved. -/
def joinPieces (first : List Char) (rest : List (List Char)) : List Char :=
  rest.foldl (fun done piece =>
    let done := Text.replaceAll ['\\', '\\'] ['\\'] done
    done ++ joint done ++ piece) first

/-- A text that was cut at its escapes with two digits. An empty piece in front is left out, and
then there must be two more. -/
def rejoin : List (List Char) → Written (List Char)
  | [] => .ok []
  | [piece] => .ok piece
  | [] :: (c :: cs) :: next :: rest => .ok (joinPieces (c :: cs) (next :: rest))
  | [] :: _ => .error .pastEnd
  | first :: rest => .ok (joinPieces first rest)

def quoted (cs : List Char) : Written (List Char) :=
  let body := Text.literalBody cs
  -- the body of a literal in single quotes has its double quotes bare
  let body := if Text.literalQuote cs = '"' then body
    else Text.replaceAll ['"'] ['\\', '"'] (Text.replaceAll ['\\', '\''] ['\''] body)
  (rejoin (Text.splitAll ['\\', 'x'] body)).map fun cs => '"' :: cs ++ ['"']

/-- A name, in quotes unless it can stand without them. A line end after such a name stays. -/
def nameText (name : List Char) : Written (List Char) :=
  let bare := if name.getLast? = some '\n' then name.dropLast else name
  if isBare bare then .ok name else quoted name

/-! ## Values -/

/-- A number with a point or an exponent, without a zero in front of the exponent. -/
def floatText (x : Binary64) : List Char :=
  Text.replaceAll "e-0".toList "e-".toList
    (Text.replaceAll "e+0".toList "e+".toList x.text.toList)

/-- Texts with spaces before and commas after them, in brackets. -/
def bracketed (items : List (List Char)) : List Char :=
  '[' :: items.flatMap (fun item => ' ' :: item ++ [',']) ++ [']']

mutual

/-- A value on one line. Of a table only the names are written. -/
def valueText : Value → Written (List Char)
  | .null => .ok "\"None\"".toList
  | .bool b => .ok (if b then "true".toList else "false".toList)
  | .int n => .ok (Text.decimal n).toList
  | .float x => .ok (floatText x)
  | .text s => quoted s.toList
  | .moment m => .ok m.written.toList
  | .list items => (valueTexts items).map bracketed
  | .table entries => (entries.mapM fun e => quoted e.1.toList).map bracketed

def valueTexts : List Value → Written (List (List Char))
  | [] => .ok []
  | v :: rest => do return (← valueText v) :: (← valueTexts rest)

end

/-! ## Tables -/

/-- What is written of a table, with the tables in it that are written after it. -/
structure Section where
  lines : List Char := []
  arrays : List Char := []
  tables : List (String × Table) := []

/-- The text under the header of a table. -/
def Section.text (s : Section) : List Char :=
  s.lines ++ s.arrays

/-- A path with one more name. -/
def below (path name : List Char) : List Char :=
  if path.isEmpty then name else path ++ '.' :: name

def isTable : Value → Bool
  | .table _ => true
  | _ => false

/-- Adds an entry to what is written of a table; `itemText` writes a table of an array. -/
def Section.add (itemText : List Char → Value → Written (List Char)) (path : List Char)
    (s : Section) (entry : String × Value) : Written Section := do
  let name ← nameText entry.1.toList
  match entry.2 with
  -- a null is not written
  | .null => return s
  | .table t => return { s with tables := Ordered.put (String.ofList name) t s.tables }
  | value =>
    let items := match value with
      | .list items => items
      | _ => []
    if items.any isTable then
      let texts ← items.mapM (itemText (below path name))
      return { s with arrays := s.arrays ++ texts.flatten }
    else
      return { s with lines := s.lines ++ name ++ " = ".toList ++ (← valueText value) ++ ['\n'] }

/-- The tables below tables, level by level; those without plain entries get no header. The first
argument bounds the number of levels. -/
def tablesText (sectionOf : List Char → Table → Written Section) (path : List Char) :
    Nat → List (String × Table) → Written (List Char)
  | 0, _ => .ok []
  | bound + 1, tables => do
    let parts ← tables.mapM fun (name, t) => do
      return (name, ← sectionOf (below path name.toList) t)
    let texts := parts.map fun (name, s) =>
      if s.text.isEmpty then []
      else '[' :: below path name.toList ++ [']', '\n'] ++ s.text
    let next := parts.flatMap fun (name, s) =>
      s.tables.map fun (inner, t) => (name ++ "." ++ inner, t)
    if next.isEmpty then return texts.flatten
    return texts.flatten ++ (← tablesText sectionOf path bound (Ordered.ofPairs next))

/-- An item of an array of tables, under a header of its own. An item that is no table can be
written only if it is empty. -/
def itemText (sectionOf : List Char → Table → Written Section) (bound : Nat) (path : List Char)
    (item : Value) : Written (List Char) := do
  let header := ['[', '['] ++ path ++ [']', ']', '\n']
  let refused (first : List Char) : Written (List Char) := do
    let _ ← nameText first
    throw .wrongKind
  match item with
  | .table t =>
    let s ← sectionOf path t
    let inner ← tablesText sectionOf path bound s.tables
    if s.text.head? = some '[' then return header ++ '\n' :: s.text ++ inner
    return header ++ s.text ++ '\n' :: inner
  | .text s =>
    match s.toList with
    | [] => return header ++ ['\n']
    | c :: _ => refused [c]
  | .list [] => return header ++ ['\n']
  | .list (first :: _) => refused first.shown.toList
  | _ => throw .wrongKind

/-- What is written of a table. The first argument bounds how deep arrays of tables nest. -/
def sectionOf : Nat → List Char → Table → Written Section
  | 0, _, _ => .ok {}
  | bound + 1, path, t => t.foldlM (Section.add (itemText (sectionOf bound) bound) path) {}

/-! ## Documents -/

mutual

/-- How deep a value nests. -/
def height : Value → Nat
  | .list items => heights items + 1
  | .table entries => entryHeights entries + 1
  | _ => 0

def heights : List Value → Nat
  | [] => 0
  | v :: rest => max (height v) (heights rest)

def entryHeights : List (String × Value) → Nat
  | [] => 0
  | (_, v) :: rest => max (height v) (entryHeights rest)

end

/-- An empty line after text that does not end in one. -/
def gapAfter (text : List Char) : List Char :=
  if text.isEmpty || ['\n', '\n'].isSuffixOf text then [] else ['\n']

/-- Writes tables under their headers, level by level. A table with nothing but tables in it gets no
header. The first argument bounds the number of levels. -/
def writeTables (sectionOf : List Char → Table → Written Section) :
    Nat → List Char → List (String × Table) → Written (List Char)
  | 0, text, _ => .ok text
  | bound + 1, text, tables =>
    if tables.isEmpty then .ok text
    else do
      let parts ← tables.mapM fun (name, t) => do
        return (name, ← sectionOf name.toList t)
      let text := parts.foldl (fun text (name, s) =>
        -- a table with nothing at all in it gets a header
        if s.text.isEmpty && !s.tables.isEmpty then text
        else text ++ gapAfter text ++ '[' :: name.toList ++ [']', '\n'] ++ s.text) text
      let next := parts.flatMap fun (name, s) =>
        s.tables.map fun (inner, t) => (name ++ "." ++ inner, t)
      writeTables sectionOf bound text (Ordered.ofPairs next)

def write (t : Table) : Written (List Char) := do
  let bound := entryHeights t + 2
  let top ← sectionOf bound [] t
  writeTables (sectionOf bound) bound top.text top.tables

/-- The format that is read and written here. -/
def format : Format := ⟨read, write⟩

end SourceFlow.Toml
