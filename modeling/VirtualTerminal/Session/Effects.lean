import VirtualTerminal.Session.Monad
import VirtualTerminal.Text.Numeral

/-!
The elementary steps of a session, and what executables and host handlers make of them.
-/

namespace VirtualTerminal

/-- The most greetings that one run gives. -/
def greetingLimit : Nat := 4294967295

/-- What greeting the world shows: as many greetings as the argument says, and one without it. -/
def greetings : List String → List String
  | [] => greet 1
  | [argument] =>
      match (Text.signedDecimal? argument.toList).filter (· ≤ greetingLimit) with
      | some count => greet count
      | none => ["Expected a number, got \"" ++ argument ++ "\"."]
  | _ => ["Maximum one argument."]
where
  greet (count : Nat) : List String :=
    (List.range count).map fun i => toString (i + 1) ++ ": Hello, world!"

namespace SessionM

def logAll (lines : List String) : SessionM Unit :=
  note (.linesLogged lines)

def log (line : String) : SessionM Unit :=
  logAll [line]

def clear : SessionM Unit :=
  note .logCleared

def setDirectory (id : DirId) : SessionM Unit := do
  let prompt ← read fun session => (session.setDirectory id).prompt
  note (.directoryChanged id (withoutMarks prompt))

/-- Changes the working directory; a path that leads nowhere changes nothing. -/
def changeDirectory (path : String) : SessionM (Except Error Unit) := do
  match ← read (·.findDirectory path) with
  | .ok id =>
      setDirectory id
      return .ok ()
  | .error error => return .error error

def perform (arguments : List String) : Effect → SessionM Unit
  | .log text => log text
  | .logArguments separator => log (separator.intercalate arguments)
  | .logDirectory => do log (← read (·.directoryPath))
  | .logState => do log (← read (·.stateLine))
  | .clear => clear
  | .changeDirectory path => do
      let _ ← changeDirectory path
      return

def performAll (arguments : List String) (effects : List Effect) : SessionM Unit :=
  effects.forM (perform arguments)

def act (arguments : List String) : Action → SessionM Unit
  | .greet => logAll (greetings arguments)
  | .effects effects => performAll arguments effects

/-- Calls a handler of the host. -/
def callHost (call : HostCall) (effects : List Effect) : SessionM Unit := do
  note (.hostCalled call)
  match call with
  | .exit => performAll [] effects
  | .redirect path => performAll [path] effects

end SessionM

end VirtualTerminal
