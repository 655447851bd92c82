import VirtualTerminal.Session.Basic

/-!
What there is to see of a session.
-/

namespace VirtualTerminal

structure View where
  lines : String := ""
  prompt : String := ""
  input : String := ""
  deriving Repr, DecidableEq, Inhabited

def View.isEmpty (view : View) : Bool :=
  view = {}

def Session.view (session : Session) : View where
  lines := session.log
  prompt := session.prompt
  input := session.input

end VirtualTerminal
