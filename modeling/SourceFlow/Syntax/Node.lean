import SourceFlow.Text.Utf8

/-!
# Syntax trees

A concrete syntax tree over a source text, as an error-tolerant parser
delivers it: every token is a node, broken regions are nodes of kind
`ERROR`, and tokens the parser had to invent are marked missing. Nodes
carry byte offsets into the UTF-8 encoding of the text; the text of a
node is cut out of those bytes.

Trees need not be legal syntax. Any kind, any range and any field table
is a tree, and every function of the library is total on all of them.
-/

namespace SourceFlow.Syntax

structure Node where
  /-- The grammar's name for the node. -/
  kind : String
  /-- Byte offset of the first byte. -/
  start : Nat
  /-- Byte offset after the last byte. -/
  stop : Nat
  /-- Whether the node is named; tokens such as `async` or `*` are not. -/
  named : Bool := true
  /-- Whether the parser invented the node to recover from an error. -/
  missing : Bool := false
  /-- Whether the node has a text at all. -/
  hasText : Bool := true
  /-- Whether the parser flags the node's subtree as damaged. -/
  hasError : Bool := false
  /-- Names some children have, with their places among the children. -/
  fields : List (String × Nat) := []
  children : List Node := []
deriving Inhabited

namespace Node

/-- The kind of nodes that stand for a broken region. -/
def errorKind : String := "ERROR"

/-- Whether a node with these children is damaged by itself or through a child. -/
def damaged (kind : String) (missing : Bool) (children : List Node) : Bool :=
  missing || kind == errorKind || children.any (·.hasError)

/-! ## Children -/

def namedChildren (n : Node) : List Node :=
  n.children.filter (·.named)

def field? (n : Node) (name : String) : Option Node :=
  (n.fields.lookup name).bind fun i => n.children[i]?

/-- The first child of a kind, named or not. -/
def childOfKind? (n : Node) (kind : String) : Option Node :=
  n.children.find? (·.kind == kind)

/-- The first named child whose kind is none of `skipped`. -/
def firstNamed? (n : Node) (skipped : List String) : Option Node :=
  n.namedChildren.find? fun c => !skipped.contains c.kind

/-- Whether the node has the token `kind` as an unnamed child. -/
def hasToken (n : Node) (kind : String) : Bool :=
  n.children.any fun c => !c.named && c.kind == kind

def damagedChildren (n : Node) : List Node :=
  n.children.filter (·.hasError)

/-! ## Size -/

mutual

/-- How many nodes the tree has. -/
def size : Node → Nat
  | ⟨_, _, _, _, _, _, _, _, children⟩ => sizeAll children + 1

/-- How many nodes the trees have together. -/
def sizeAll : List Node → Nat
  | [] => 0
  | n :: rest => n.size + sizeAll rest

end

/-- A tree has one node more than its children have together. -/
theorem size_eq (n : Node) : n.size = sizeAll n.children + 1 := by
  cases n
  rw [size]

theorem sizeAll_append (xs ys : List Node) : sizeAll (xs ++ ys) = sizeAll xs + sizeAll ys := by
  induction xs with
  | nil => simp [sizeAll]
  | cons n rest ih => simp [sizeAll, ih, Nat.add_assoc]

/-- Leaving nodes out never adds any. -/
theorem sizeAll_filter_le (p : Node → Bool) (xs : List Node) :
    sizeAll (xs.filter p) ≤ sizeAll xs := by
  induction xs with
  | nil => simp [sizeAll]
  | cons n rest ih =>
    rw [List.filter_cons]
    split <;> simp only [sizeAll] <;> omega

end Node

/-! ## Sources -/

/-- The bytes of a source text. -/
structure Source where
  bytes : List UInt8

namespace Source

def ofText (text : String) : Source :=
  ⟨Utf8.encode text.toList⟩

def text (src : Source) : String :=
  String.ofList (Utf8.decodeReplacing src.bytes)

/-- The text of a node: its bytes, with replacement characters where the range cuts a character. -/
def textOf (src : Source) (n : Node) : String :=
  if n.hasText then
    -- an offset may lie within a character
    String.ofList (Utf8.decodeReplacing ((src.bytes.drop n.start).take (n.stop - n.start)))
  else ""

/-- The byte that ends a line. -/
def lineFeed : UInt8 := 10

/-- The line of an offset, counted from one. -/
def lineAt (src : Source) (offset : Nat) : Nat :=
  (src.bytes.take offset).count lineFeed + 1

/-- The column of an offset in bytes, counted from one. -/
def columnAt (src : Source) (offset : Nat) : Nat :=
  ((src.bytes.take offset).reverse.takeWhile (· != lineFeed)).length + 1

end Source

end SourceFlow.Syntax
