import VirtualTerminal.Console.Batch
import VirtualTerminal.Console.Interactive

/-!
A run of the console: a batch if there is anything to do in one, a conversation otherwise.
-/

namespace VirtualTerminal.Console

def Batch.isEmpty (batch : Batch) : Bool :=
  batch.lines = [] && batch.script = none

/-- All that a run prints, and its exit code.  A batch does not look at its input. -/
def run (batch : Batch) (input : String) : Option Transcript := do
  if batch.isEmpty then return { output := ← interact input } else batch.run

end VirtualTerminal.Console
