import VirtualTerminal.Session.Config
import VirtualTerminal.Session.Keyboard

/-!
What a host may ask of a session, and what it is answered.
-/

namespace VirtualTerminal

inductive Request
  | line (text : String)
  | script (text : String)
  /-- A script that counts as nested although no script is open. -/
  | nestedScript (text : String)
  | key (key : Key)
  | submit (text : String)
  | changeDirectory (path : String)
  /-- Calls a command without a line: nothing is shown or counted, and a failure is not logged. -/
  | call (keyword : String) (arguments : List String)
  | log (text : String)
  | clear
  deriving Repr, DecidableEq

inductive Answer
  | nothing
  | reply (reply : Reply)
  | report (report : Report)
  | nestedReport (report : Except Error Report)
  | input (text : String)
  | changed (result : Except Error Unit)
  | noSuchCommand
  deriving Repr, DecidableEq

namespace Request

open SessionM

def perform : Request → SessionM Answer
  | .line text => .reply <$> enter text
  | .script text => .report <$> playScript enter text
  | .nestedScript text => .nestedReport <$> playNested enter text
  | .key pressed => do
      press pressed
      return .input (← read (·.input))
  | .submit text => do
      SessionM.submit text
      return .nothing
  | .changeDirectory path => .changed <$> SessionM.changeDirectory path
  | .call keyword arguments => do
      match ← read (·.registry.get? keyword) with
      | some command => .reply <$> handle enter command arguments
      | none => return .noSuchCommand
  | .log text => do
      SessionM.log text
      return .nothing
  | .clear => do
      SessionM.clear
      return .nothing

/-- Makes requests one after the other. -/
def performAll : List Request → SessionM (List Answer)
  | [] => return []
  | request :: requests => do
      let answer ← perform request
      return answer :: (← performAll requests)

theorem performAll_cons (request : Request) (requests : List Request) :
    performAll (request :: requests) = do
      let answer ← request.perform
      let answers ← performAll requests
      return answer :: answers := rfl

theorem performAll_singleton (request : Request) :
    performAll [request] = do
      let answer ← request.perform
      return [answer] := by
  simp [performAll]

theorem performAll_append (first second : List Request) :
    performAll (first ++ second) = do
      let before ← performAll first
      let after ← performAll second
      return before ++ after := by
  induction first with
  | nil => simp [performAll]
  | cons request first inductionHypothesis =>
      simp [performAll_cons, inductionHypothesis]

end Request

end VirtualTerminal
