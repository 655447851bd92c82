import VirtualTerminal.Session.Basic
import VirtualTerminal.Session.Event

/-!
What the events of a journal make of a session.

Nothing changes a session but its events, so what a session is at some point on its way is what the
events up to that point make of the session at the start.
-/

namespace VirtualTerminal

/-- A log with lines added to it. -/
def appendLines (log : String) (lines : List String) : String :=
  lines.foldl (fun log line => log ++ line ++ "\n") log

namespace Session

def apply (session : Session) : Event → Session
  | .directoryChanged id _ => session.setDirectory id
  | .lineEntered _ => { session with meter := session.meter.atLine }
  | .linesLogged lines => { session with log := appendLines session.log lines }
  | .logCleared => { session with log := "" }
  | .commandCounted => { session with meter := session.meter.count }
  | .nestedScriptOpened => { session with meter := session.meter.deeper }
  | .nestedScriptClosed => { session with meter := session.meter.shallower }
  | .inputChanged input => { session with input := input }
  | .lineRemembered line => { session with history := session.history ++ [line] }
  | .sessionCreated .. | .commandNotFound _ | .limitReached _ | .commandDispatched ..
  | .commandFailed _ | .lineLeft .. | .scriptStarted _ | .scriptFinished _
  | .executableRun _ | .hostCalled _ => session

def replay (session : Session) (journal : List Event) : Session :=
  journal.foldl apply session

variable (session : Session)

@[simp]
theorem replay_nil : session.replay [] = session := rfl

@[simp]
theorem replay_cons (event : Event) (journal : List Event) :
    session.replay (event :: journal) = (session.apply event).replay journal := rfl

@[simp]
theorem replay_append (first second : List Event) :
    session.replay (first ++ second) = (session.replay first).replay second :=
  List.foldl_append

@[simp]
theorem apply_toSurroundings (event : Event) :
    (session.apply event).toSurroundings = session.toSurroundings := by
  cases event <;> rfl

@[simp]
theorem replay_toSurroundings (journal : List Event) :
    (session.replay journal).toSurroundings = session.toSurroundings := by
  induction journal generalizing session with
  | nil => rfl
  | cons event journal inductionHypothesis =>
      rw [replay_cons, inductionHypothesis, apply_toSurroundings]

end Session

@[simp]
theorem appendLines_nil (log : String) : appendLines log [] = log := rfl

@[simp]
theorem appendLines_cons (log line : String) (lines : List String) :
    appendLines log (line :: lines) = appendLines (log ++ line ++ "\n") lines := rfl

end VirtualTerminal
