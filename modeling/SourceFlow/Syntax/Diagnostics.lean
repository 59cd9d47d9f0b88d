import SourceFlow.Syntax.Node
import SourceFlow.Text.Blank
import SourceFlow.Text.Lines

/-!
# Diagnostics

What is wrong with a parsed text, in messages for people. The search
walks the damaged parts of the tree with an explicit stack: it enters
only children flagged as damaged, and nothing below a missing node. The
first fifty faults are described one by one; one more line counts the
rest.
-/

namespace SourceFlow.Syntax

/-- How many faults of a text are described one by one. -/
def maxDiagnostics : Nat := 50

/-- How many characters of a broken region a message quotes. -/
def snippetLength : Nat := 40

/-- Place of a node's first byte, as `line:column`. -/
def placeText (src : Source) (n : Node) : String :=
  (src.lineAt n.start).repr ++ ":" ++ (src.columnAt n.start).repr

/-- The quoted beginning of a broken region, or nothing if the region is blank. -/
def nearText (src : Source) (n : Node) : String :=
  match Text.stripChars (src.textOf n).toList with
  | [] => ""
  | cs => " near '" ++ String.ofList ((Text.firstLine cs).take snippetLength) ++ "'"

/-- Message for a token that the parser had to invent. -/
def missingMessage (src : Source) (n : Node) : String :=
  "Missing '" ++ n.kind ++ "' at " ++ placeText src n

def brokenMessage (src : Source) (n : Node) : String :=
  "Syntax error at " ++ placeText src n ++ nearText src n

/-- Last line of a list of messages that is not complete. -/
def moreMessage (count : Nat) : String :=
  "... " ++ count.repr ++ " more syntax errors"

/-- The faults met so far: the messages kept and the number of all. -/
structure FaultLog where
  messages : List String := []
  total : Nat := 0

namespace FaultLog

/-- Counts a fault, and keeps its message while there is room. -/
def record (log : FaultLog) (message : String) : FaultLog :=
  { messages :=
      if log.messages.length < maxDiagnostics then log.messages ++ [message] else log.messages
    total := log.total + 1 }

/-- The messages kept, and a line for the faults that have none. -/
def report (log : FaultLog) : List String :=
  if log.messages.length < log.total then
    log.messages ++ [moreMessage (log.total - log.messages.length)]
  else log.messages

end FaultLog

/-- Visits the nodes on the stack and the damaged nodes below them. -/
def collectFaults (src : Source) : List Node → FaultLog → FaultLog
  | [], log => log
  | n :: stack, log =>
    -- below a missing node nothing is looked for
    if n.missing then collectFaults src stack (log.record (missingMessage src n))
    else
      let log := if n.kind == Node.errorKind then log.record (brokenMessage src n) else log
      collectFaults src (n.damagedChildren ++ stack) log
termination_by stack => Node.sizeAll stack
decreasing_by
  · simp only [Node.sizeAll, Node.size_eq]; omega
  · have h : Node.sizeAll n.damagedChildren ≤ Node.sizeAll n.children := Node.sizeAll_filter_le _ _
    simp only [Node.sizeAll, Node.size_eq n, Node.sizeAll_append]
    omega

/-- The messages about a tree; a tree whose root is not flagged has none. -/
def diagnostics (src : Source) (root : Node) : List String :=
  if root.hasError then (collectFaults src [root] {}).report else []

end SourceFlow.Syntax
