import SourceFlow.Value.Basic

/-!
# Formats of settings documents

A format reads a table from a document and writes a table as one. Nothing
is promised of a format; `Toml.format` is one that runs.
-/

namespace SourceFlow.Toml

inductive ReadError where
  /-- It breaks a rule of the format. -/
  | malformed
  /-- Something was looked for where the text or the list has already ended. -/
  | pastEnd
  /-- A value of one kind stands where another kind is needed. -/
  | wrongKind (message : String)
  /-- The number of a character is out of all bounds. -/
  | tooLarge
  /-- A text over several lines has the empty name. -/
  | nameless
deriving DecidableEq, Repr

/-- What is read, or why it cannot be. -/
abbrev Read := Except ReadError

inductive WriteError where
  /-- A text is cut at its escapes, and a piece of it is missing. -/
  | pastEnd
  /-- An array holds tables and other values as well. -/
  | wrongKind
deriving DecidableEq, Repr

/-- What is written, or why it cannot be. -/
abbrev Written := Except WriteError

/-- A reader and a writer of documents. -/
structure Format where
  read : List Char → Read Table
  write : Table → Written (List Char)

end SourceFlow.Toml
