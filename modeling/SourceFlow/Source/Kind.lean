import SourceFlow.Path.Basic

/-!
# Script kinds and grammars

A source unit is a script if its path has one of eight extensions. The
extension decides the kind of script, and the kind decides which of the
three grammars reads it. Only grammars that are loaded can be used: those
that were asked for and whose package is installed.
-/

namespace SourceFlow

/-- A grammar that reads scripts. -/
inductive Grammar where
  | typescript
  | tsx
  | javascript
deriving DecidableEq, Repr

inductive ScriptKind where
  | typescript
  | tsx
  | javascript
  | jsx
deriving DecidableEq, Repr

namespace Grammar

def name : Grammar → String
  | .typescript => "typescript"
  | .tsx => "tsx"
  | .javascript => "javascript"

def all : List Grammar :=
  [.typescript, .tsx, .javascript]

def ofName? (name : String) : Option Grammar :=
  all.find? (·.name == name)

/-- The grammars of the names asked for; unknown names are passed over, and no names at all ask for
every grammar. -/
def requested (names : List String) : List Grammar :=
  if names.isEmpty then all else names.filterMap ofName?

/-- The package that a grammar comes in. -/
def package : Grammar → String
  | .typescript | .tsx => "tree_sitter_typescript"
  | .javascript => "tree_sitter_javascript"

/-- The grammars that are loaded for the names asked for; those of packages that are not installed
are passed over. -/
def loaded (uninstalled names : List String) : List Grammar :=
  -- two grammars share a package and are left out together
  (requested names).filter fun g => !uninstalled.contains g.package

end Grammar

namespace ScriptKind

def name : ScriptKind → String
  | .typescript => "typescript"
  | .tsx => "tsx"
  | .javascript => "javascript"
  | .jsx => "jsx"

def all : List ScriptKind :=
  [.typescript, .tsx, .javascript, .jsx]

def ofName? (name : String) : Option ScriptKind :=
  all.find? (·.name == name)

/-- The grammar that reads scripts of a kind. -/
def grammar : ScriptKind → Grammar
  | .typescript => .typescript
  | .tsx => .tsx
  | .javascript => .javascript
  | .jsx => .javascript

/-- The kinds by lower-case extension. -/
def byExtension : List (String × ScriptKind) :=
  [(".ts", .typescript), (".mts", .typescript), (".cts", .typescript), (".tsx", .tsx),
   (".js", .javascript), (".mjs", .javascript), (".cjs", .javascript), (".jsx", .jsx)]

/-- The kind of a script by its path, in any case of letters. Lower-casing ASCII letters is enough:
no other character has one of the letters of the extensions as its lower case. -/
def ofPath? (path : String) : Option ScriptKind :=
  byExtension.lookup (Path.extension (Text.lowerAscii path))

/-- Whether scripts of the kind can be read with the loaded grammars. -/
def isSupported (loaded : List Grammar) (kind : ScriptKind) : Bool :=
  loaded.contains kind.grammar

end ScriptKind

end SourceFlow
