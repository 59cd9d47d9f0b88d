import SourceFlow.Report.Outline
import SourceFlow.Text.Lines

/-!
# Outlines as text

One line for each node of an outline, a node before what is below it.
Lines below a root begin with a cell for each level above, a bar where
that level goes on and blanks where it has ended, and with a branch.
-/

namespace SourceFlow.Outline

def icon (kind : NodeKind) : String :=
  if kind = .function then "🔧"
  else if kind = .endpoint then "🔗"
  else if kind = .dataStore then "🗃️"
  else "📄"

/-- The longest label that is shown whole. -/
def maxLabelLength : Nat := 50

/-- A label, cut if it is too long. -/
def shortLabel (label : String) : String :=
  if label.length > maxLabelLength then Text.takeFirst (maxLabelLength - 3) label ++ "..."
  else label

/-- What the line of a root shows. -/
def heading (o : Outline) : String :=
  icon o.kind ++ " " ++ shortLabel o.label

/-- What the line of any other node shows. -/
def payload (o : Outline) : String :=
  heading o ++ if o.isBackReference then " (circular)" else ""

def branch (last : Bool) : String :=
  if last then "└── " else "├── "

/-- The cell of a level in the lines below a node on it. -/
def cell (last : Bool) : String :=
  if last then "    " else "│   "

mutual

/-- The lines below a node, each with `lead` in front. -/
def linesBelow (lead : String) : Outline → List String
  | ⟨_, _, _, _, _, children, _⟩ => rowLines lead children

/-- The lines of a row of siblings and of what is below them, each with `lead` in front. -/
def rowLines (lead : String) : List Outline → List String
  | [] => []
  | o :: rest =>
    (lead ++ branch rest.isEmpty ++ payload o) ::
      (linesBelow (lead ++ cell rest.isEmpty) o ++ rowLines lead rest)

end

def lines (o : Outline) : List String :=
  heading o :: linesBelow "" o

/-- What is shown if there is nothing to show. -/
def emptyText : String := "No flow detected\n"

def render (roots : List Outline) : String :=
  if roots.isEmpty then emptyText else Text.joinLines (roots.flatMap lines) ++ "\n"

end SourceFlow.Outline
