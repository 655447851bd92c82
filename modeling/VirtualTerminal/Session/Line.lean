import VirtualTerminal.Line.Token
import VirtualTerminal.Session.Builtins

/-!
Entering a line.

A line is shown behind the prompt, split into tokens and given to the command that its first token
names.  A line without tokens does nothing.  A keyword that names no command is reported in the log
and is no failure.  The reason of a failure is logged.

A command may enter further lines, and those may call it again.  `enterWithin` bounds how many lines
may be open at a time; `enter` computes a bound from the session that only an endless nest exceeds.
-/

namespace VirtualTerminal.SessionM

section

variable (enter : String → SessionM Reply)

/-- Follows one directive; a reply ends the command. -/
def follow (command : Command) (arguments : List String) : Directive → SessionM (Option Reply)
  | .effect effect => do
      perform arguments effect
      return none
  | .line text => do
      let _ ← enter text
      return none
  | .lineOfArguments => do
      let _ ← enter (" ".intercalate arguments)
      return none
  | .nestedScript script => nested script
  | .nestedScriptOfArguments copies =>
      nested ("\n".intercalate (List.replicate copies (" ".intercalate arguments)))
  | .script script => do
      let report ← playScript enter script
      log (toString report.lines ++ " " ++ toString report.failures ++ " " ++
        toString report.isSuccess)
      return none
  | .logFile path => do
      match ← read (·.findText path) with
      | .ok text =>
          log text
          return none
      | .error error => return some (.error error)
  | .enterDirectory path => do
      match ← changeDirectory path with
      | .ok () => return none
      | .error error => return some (.error error)
  | .logCommand => do
      log (command.keyword ++ "|" ++ command.name ++ "|" ++ command.description)
      return none
  | .answer message => return some (.ok (some message))
  | .failUsage reason => return some (.error (.usage reason))
  | .failConfiguration reason => return some (.error (.configuration reason))
where
  nested (script : String) : SessionM (Option Reply) := do
    match ← playNested enter script with
    | .ok _ => return none
    | .error error => return some (.error error)

def followAll (command : Command) (arguments : List String) : List Directive → SessionM Reply
  | [] => return .nothing
  | directive :: directives => do
      match ← follow enter command arguments directive with
      | some reply => return reply
      | none => followAll command arguments directives

def handle (command : Command) (arguments : List String) : SessionM Reply :=
  match command.handler with
  | .builtin builtin => runBuiltin enter command arguments builtin
  | .directives directives => followAll enter command arguments directives

/-- Counts a command and handles it if the limits allow one more. -/
def dispatch (line : String) (command : Command) (arguments : List String) : SessionM Reply := do
  note .commandCounted
  match ← read fun session => session.meter.commandError? session.limits with
  | some limit =>
      note (.limitReached limit)
      return .error (.limit limit)
  | none =>
      note (.commandDispatched command.keyword arguments.length line)
      handle enter command arguments

def interpret (line : String) : SessionM Reply := do
  match Line.tokens line with
  | .error error => return .error error
  | .ok [] => return .nothing
  | .ok (keyword :: arguments) =>
      match ← read (·.registry.get? keyword) with
      | some command => dispatch enter line command arguments
      | none =>
          note (.commandNotFound keyword)
          log (Error.commandNotFound keyword).message
          return .nothing

/-- Shows a line behind the prompt. -/
def openLine (line : String) : SessionM Unit := do
  note (.lineEntered line)
  log ((← read (·.prompt)) ++ line)

def logFailure : Reply → SessionM Unit
  | .ok _ => pure ()
  | .error error => do
      note (.commandFailed error)
      log error.message

def closeLine (line : String) (reply : Reply) : SessionM Unit := do
  logFailure reply
  note (.lineLeft line reply)

def enterStep (line : String) : SessionM Reply := do
  openLine line
  let reply ← interpret enter line
  closeLine line reply
  return reply

end

/-- Enters a line with room for `nesting` lines open at a time. -/
def enterWithin : Nat → String → SessionM Reply
  | 0 => fun _ => endless
  | nesting + 1 => enterStep (enterWithin nesting)

end SessionM

/-- How many different lines a directive can lead to. -/
def Directive.lineCount : Directive → Nat
  | .line text => text.length + 1
  | .script body => body.length + 1
  | _ => 0

def Command.lineCount (command : Command) : Nat :=
  match command.handler with
  | .builtin _ => 0
  | .directives directives =>
      directives.foldr (fun directive lines => directive.lineCount + lines) 0

/-- More lines than can be open at a time without one being entered inside itself in the same
directory.  Outside nested scripts a line is one that was typed, one that a directive holds, or the
arguments of such a line, of which each is shorter than the one before; inside, each takes a command
from those that are left. -/
def Session.nestingBound (session : Session) (line : String) : Nat :=
  session.tree.size *
    (line.length + 1 +
      session.registry.toList.foldr (fun command lines => command.lineCount + lines) 0) +
  session.limits.commands + 2

def SessionM.enter (line : String) : SessionM Reply := do
  let bound ← read (·.nestingBound line)
  enterWithin bound line

end VirtualTerminal
