import VirtualTerminal.Error
import VirtualTerminal.FileTree.Basic
import VirtualTerminal.Redaction

/-!
What happens in a session: the journal of its events, and the records that a trace shows of them.
-/

namespace VirtualTerminal

instance exceptDecidableEq {ε α : Type} [DecidableEq ε] [DecidableEq α] :
    DecidableEq (Except ε α)
  | .ok first, .ok second => decidable_of_iff (first = second) (by simp)
  | .error first, .error second => decidable_of_iff (first = second) (by simp)
  | .ok _, .error _ => isFalse (by simp)
  | .error _, .ok _ => isFalse (by simp)

/-- What a line comes to: a message for the host, if any, or the reason why it failed. -/
abbrev Reply := Except Error (Option String)

/-- How the lines of a script went. -/
structure Report where
  lines : Nat := 0
  failures : Nat := 0
  deriving Repr, DecidableEq

namespace Report

def add (report : Report) : Reply → Report
  | .ok _ => { report with lines := report.lines + 1 }
  | .error _ => { lines := report.lines + 1, failures := report.failures + 1 }

def isSuccess (report : Report) : Bool :=
  report.failures = 0

end Report

/-- A call of a handler that the host has set. -/
inductive HostCall
  | exit
  | redirect (path : String)
  deriving Repr, DecidableEq

/-- All that becomes of a session is in its events; the others only tell what went on. -/
inductive Event
  | sessionCreated (directories commands : Nat)
  /-- The working directory was set, be it to what it was; `path` is how the prompt shows it. -/
  | directoryChanged (id : DirId) (path : String)
  /-- A line is about to be read; outside nested scripts it has all its commands still to spend. -/
  | lineEntered (line : String)
  | linesLogged (lines : List String)
  | logCleared
  | commandNotFound (keyword : String)
  /-- A command was counted, be it still allowed or not. -/
  | commandCounted
  | limitReached (limit : LimitError)
  | commandDispatched (keyword : String) (arguments : Nat) (line : String)
  | commandFailed (error : Error)
  | lineLeft (line : String) (reply : Reply)
  | scriptStarted (depth : Nat)
  | scriptFinished (report : Report)
  | nestedScriptOpened
  | nestedScriptClosed
  | executableRun (path : String)
  | hostCalled (call : HostCall)
  | inputChanged (input : String)
  | lineRemembered (line : String)
  deriving Repr, DecidableEq

inductive Record.Level
  | debug
  | info
  | warn
  deriving Repr, DecidableEq

inductive Record.Value
  | text (text : String)
  | number (number : Nat)
  deriving Repr, DecidableEq

/-- An event as a trace shows it. -/
structure Record where
  level : Record.Level
  message : String
  fields : List (String × Record.Value)
  deriving Repr, DecidableEq

namespace Event

/-- The record of an event; some events leave none.  Texts that were typed are redacted. -/
def record? (redaction : Redaction) : Event → Option Record
  | .sessionCreated directories commands => some {
      level := .info
      message := "session created"
      fields := [("directories", .number directories), ("commands", .number commands)] }
  | .directoryChanged _ path => some {
      level := .debug
      message := "working directory changed"
      fields := [("cwd", .text path)] }
  | .commandNotFound keyword => some {
      level := .warn
      message := "command not found"
      fields := [("command", .text (redaction.apply keyword))] }
  | .limitReached limit => some {
      level := .warn
      message := "execution limit reached"
      fields := [("limit", .text limit.message)] }
  | .commandDispatched keyword arguments line => some {
      level := .debug
      message := "dispatching command"
      fields := [
        ("command", .text keyword),
        ("args", .number arguments),
        ("line", .text (redaction.apply line))] }
  | .commandFailed error => some {
      level := .debug
      message := "command failed"
      fields := [("error", .text error.message)] }
  | .scriptStarted depth => some {
      level := .info
      message := "script started"
      fields := [("depth", .number depth)] }
  | .scriptFinished report => some {
      level := .info
      message := "script finished"
      fields := [("lines", .number report.lines), ("failures", .number report.failures)] }
  | .lineEntered _ | .linesLogged _ | .logCleared | .commandCounted | .lineLeft ..
  | .nestedScriptOpened | .nestedScriptClosed | .executableRun _ | .hostCalled _
  | .inputChanged _ | .lineRemembered _ => none

def hostCall? : Event → Option HostCall
  | .hostCalled call => some call
  | _ => none

end Event

def trace (redaction : Redaction) (journal : List Event) : List Record :=
  journal.filterMap (Event.record? redaction)

def hostCalls (journal : List Event) : List HostCall :=
  journal.filterMap Event.hostCall?

@[simp]
theorem trace_append (redaction : Redaction) (first second : List Event) :
    trace redaction (first ++ second) = trace redaction first ++ trace redaction second := by
  simp [trace]

@[simp]
theorem hostCalls_append (first second : List Event) :
    hostCalls (first ++ second) = hostCalls first ++ hostCalls second := by
  simp [hostCalls]

end VirtualTerminal
