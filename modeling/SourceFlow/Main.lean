import SourceFlow.Command.Session

/-!
# The command line

Obeys the lines of a session from standard input, then runs the command
given as arguments, if there is one, in the workspace that the session
has left.
-/

namespace SourceFlow

/-- Obeys the lines of standard input until it ends. -/
partial def obeyLines (input output : IO.FS.Stream) (s : Session) : IO Session := do
  let line ← input.getLine
  if line.isEmpty then return s
  let (s, text) := s.step (Text.dropTrailingNewlines line)
  output.putStr text
  output.flush
  obeyLines input output s

end SourceFlow

/-- Runs a session and the command given as arguments. -/
def main (arguments : List String) : IO UInt32 := do
  let output ← IO.getStdout
  let s ← SourceFlow.obeyLines (← IO.getStdin) output SourceFlow.Session.start
  let (s, text) := s.closeFile
  output.putStr text
  if arguments.isEmpty then return s.code.toUInt32
  let (s, text) := s.runWords arguments
  output.putStr text
  return s.code.toUInt32
