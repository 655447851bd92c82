import VirtualTerminal.Session.Effects
import VirtualTerminal.Text.Pieces

/-!
Scripts: lines that are entered one after the other.

A line that fails is counted and the next one is entered all the same.  A nested script is played
only where the limits leave room for it; it is open, one level deeper, while it is played.
-/

namespace VirtualTerminal.SessionM

variable (enter : String → SessionM Reply)

def playLines (lines : List String) : SessionM Report :=
  fold (fun report line => do return report.add (← enter line)) {} lines

def playScript (script : String) : SessionM Report := do
  note (.scriptStarted (← read (·.meter.depth)))
  let report ← playLines enter (Text.lines script)
  note (.scriptFinished report)
  return report

def playNested (script : String) : SessionM (Except Error Report) := do
  match ← read fun session => session.meter.depthError? session.limits with
  | some limit =>
      note (.limitReached limit)
      return .error (.limit limit)
  | none =>
      note .nestedScriptOpened
      let report ← playScript enter script
      note .nestedScriptClosed
      return .ok report

end VirtualTerminal.SessionM
