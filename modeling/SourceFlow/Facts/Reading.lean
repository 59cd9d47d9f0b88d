import SourceFlow.Facts.Basic
import SourceFlow.Syntax.Node
import SourceFlow.Text.Blank

/-!
# Reading facts off nodes

The small readings that imports, exports, declarations and calls share:
the position of a node, the value of a string literal, a name that may be
quoted, the text of a type annotation.
-/

namespace SourceFlow.Syntax.Source

def positionOf (src : Source) (n : Node) : Position :=
  ⟨src.lineAt n.start, src.columnAt n.start, src.lineAt n.stop, src.columnAt n.stop⟩

/-- Whether a node is a string literal, or a template without substitutions. -/
def isPlainString (n : Node) : Bool :=
  n.kind == "string" ||
    (n.kind == "template_string" && !n.namedChildren.any (·.kind == "template_substitution"))

/-- The text between the quotes of a string literal. -/
def stringValue? (src : Source) (n : Node) : Option String :=
  if isPlainString n then some (Text.dropEnds (src.textOf n)) else none

/-- A name: the text of an identifier, or the value of a quoted name. -/
def nameOf (src : Source) (n : Node) : String :=
  (src.stringValue? n).getD (src.textOf n)

/-- The text of a type annotation without its colon; none if nothing is left. -/
def annotation? (src : Source) (n : Node) : Option String :=
  let text := match Text.stripChars (src.textOf n).toList with
    -- the colon belongs to the annotation, the blanks behind it do not
    | ':' :: rest => Text.stripChars rest
    | text => text
  if text.isEmpty then none else some (String.ofList text)

/-- The arguments of a call, comments left out. -/
def arguments (call : Node) : List Node :=
  match call.field? "arguments" with
  | some args =>
    if args.kind == "arguments" then args.namedChildren.filter (·.kind != "comment") else []
  | none => []

/-- The first argument of a call, if it is a string. -/
def firstStringArgument? (src : Source) (call : Node) : Option String :=
  (arguments call).head?.bind src.stringValue?

end SourceFlow.Syntax.Source

namespace SourceFlow

/-- Whether a module reference leads out of the project. -/
def isExternalReference (reference : String) : Bool :=
  !(Text.startsWith reference "." || Text.startsWith reference "/")

def functionValueKinds : List String :=
  ["arrow_function", "function_expression", "function", "generator_function"]

end SourceFlow
