import SourceFlow.Settings.Basic
import SourceFlow.Text.Lines
import SourceFlow.Text.Utf8
import SourceFlow.Toml.Format

/-!
# The settings file

Settings are kept in one table of a file that may hold other tables too.
Saving changes given names of that table and nothing else; clearing
removes the table. How a document is read and written is left to a
format. A file that is no document of the format counts as empty, but
bytes that are no text at all are an error for every operation, and
nothing can be written where a directory stands.

A file is emptied before it is written. If its new content cannot be
written, it stays empty.
-/

namespace SourceFlow

/-- What stands at the place of the settings file. -/
inductive SettingsFile where
  | absent
  | directory
  | undecodable
  | text (content : List Char)

/-- Why the settings file cannot be used. -/
inductive SettingsFileError where
  /-- Its bytes are no text. -/
  | undecodable
  /-- Its text cannot be read. -/
  | unreadable (error : Toml.ReadError)
  /-- Its new entries cannot be written. -/
  | unwritable (error : Toml.WriteError)
  /-- The entry that should be a table is not made of parts. -/
  | notACollection
  /-- The entry that should be a table is not made of pairs. -/
  | notPairs
  /-- The entry that should be a table has a pair without a name. -/
  | unnamed
deriving DecidableEq, Repr

namespace SettingsFile

/-- The name of the table with the settings. -/
def tableName : String := "flow"

def ofBytes (bytes : List UInt8) : SettingsFile :=
  match Utf8.decode? bytes with
  | none => .undecodable
  | some content => .text (Text.foldNewlines content)

def isPresent : SettingsFile → Bool
  | .absent => false
  | _ => true

section

variable (format : Toml.Format)

/-- The entries of a document; a malformed one has none. -/
def entriesOf (content : List Char) : Except SettingsFileError Table :=
  match format.read content with
  | .ok t => .ok t
  -- other errors are not taken for an empty file
  | .error .malformed => .ok []
  | .error e => .error (.unreadable e)

/-- All entries of the file. -/
def entries : SettingsFile → Except SettingsFileError Table
  | .absent | .directory => .ok []
  | .undecodable => .error .undecodable
  | .text content => entriesOf format content

/-- Puts entries in place of those of the file, and says whether that worked. -/
def write (file : SettingsFile) (t : Table) : Except SettingsFileError Bool × SettingsFile :=
  match file with
  | .directory => (.ok false, .directory)
  | _ =>
    match format.write t with
    | .ok content => (.ok true, .text content)
    -- what was in the file is lost by then
    | .error e => (.error (.unwritable e), .text [])

end

/-! ## Loading -/

/-- The settings among the entries of a file; an entry that is no table holds none. -/
def settingsIn (t : Table) : Settings :=
  match Ordered.get? t tableName with
  | some (.table section_) => .ofTable section_
  | _ => .defaults

def load (format : Toml.Format) (file : SettingsFile) : Except SettingsFileError Settings :=
  (file.entries format).map settingsIn

/-! ## Saving -/

/-- An item of a list as an entry of a table. It has to consist of two parts: a table of two names,
a text of two characters, or a list of two values. The name is missing if the first value is no
text, and a list or a table cannot stand for a name at all. -/
def pairOf : Value → Except SettingsFileError (Option String × Value)
  | .table [(a, _), (b, _)] => .ok (some a, .text b)
  | .text s =>
    match s.toList with
    | [a, b] => .ok (some (String.ofList [a]), .text (String.ofList [b]))
    | _ => .error .notPairs
  | .list [.text a, v] => .ok (some a, v)
  | .list [.list _, _] | .list [.table _, _] => .error .notACollection
  | .list [_, v] => .ok (none, v)
  | .table _ | .list _ => .error .notPairs
  | _ => .error .notACollection

/-- A pair with its name, if it has one. -/
def named? (pair : Option String × Value) : Option (String × Value) :=
  pair.1.map fun name => (name, pair.2)

/-- The entry with the settings as a table: absent and empty ones have no names, and a list has its
items. There is no table if an item has no name. -/
def tableOf? : Option Value → Except SettingsFileError (Option Table)
  | none => .ok (some [])
  | some (.table t) => .ok (some t)
  | some (.text s) => if s.isEmpty then .ok (some []) else .error .notPairs
  | some (.list items) =>
    (items.mapM pairOf).map fun pairs => (pairs.mapM named?).map Ordered.ofPairs
  | some _ => .error .notACollection

/-- Gives a name a value, or removes it if the value is null. -/
def assign (t : Table) (name : String) (value : Value) : Table :=
  if value.isNull then Ordered.erase name t else Ordered.put name value t

/-- Assigns values to names in order. -/
def assignAll (t : Table) (values : List (String × Value)) : Table :=
  values.foldl (fun t v => assign t v.1 v.2) t

section

variable (format : Toml.Format)

/-- Writes the settings among the other entries. That there is no table of them is found only while
the file is written. -/
def writeSettings (file : SettingsFile) (t : Table) (settings : Option Table)
    (values : List (String × Value)) : Except SettingsFileError Bool × SettingsFile :=
  match settings with
  | some settings =>
    file.write format (Ordered.put tableName (.table (assignAll settings values)) t)
  -- the file has been opened for writing, so it is empty
  | none => (.error .unnamed, .text [])

/-- Saves values among the settings, and says whether the file could be written. -/
def save (file : SettingsFile) (values : List (String × Value)) :
    Except SettingsFileError Bool × SettingsFile :=
  let stored := do
    let t ← file.entries format
    return (t, ← tableOf? (Ordered.get? t tableName))
  match stored with
  | .error e => (.error e, file)
  | .ok (t, settings) => file.writeSettings format t settings values

/-- Removes all settings, and says whether the file could be written. -/
def clear (file : SettingsFile) : Except SettingsFileError Bool × SettingsFile :=
  match file.entries format with
  | .error e => (.error e, file)
  | .ok t => file.write format (Ordered.erase tableName t)

end

end SettingsFile

end SourceFlow
