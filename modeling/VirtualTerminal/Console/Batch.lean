import VirtualTerminal.Console.Basic

/-!
Lines and a script given on the command line.

The lines are entered in turn until one of them exits; the script is played only if none did.  Then
the log is printed, or the view as JSON.
-/

namespace VirtualTerminal.Console

inductive Script
  | text (text : String)
  /-- A file that could not be read. -/
  | unreadable (name reason : String)
  deriving Repr, DecidableEq

structure Batch where
  lines : List String := []
  script : Option Script := none
  json : Bool := false
  deriving Repr, DecidableEq

/-- What a finished run has printed, and its exit code. -/
structure Transcript where
  output : String := ""
  errors : String := ""
  code : Nat := 0
  deriving Repr, DecidableEq

/-- A batch on its way. -/
structure Progress where
  session : Session
  journal : List Event := []
  /-- The messages of the lines entered so far. -/
  messages : List String := []
  success : Bool := true

namespace Progress

def start : Progress where
  session := Config.session { host := host }

def exited (progress : Progress) : Bool :=
  hasExited progress.journal

/-- Takes down the message of a line or its failure. -/
def settle (progress : Progress) : Reply → Progress
  | .ok (some message) => { progress with messages := progress.messages ++ [message] }
  | .ok none => progress
  | .error _ => { progress with success := false }

/-- Takes over the session and what happened to it. -/
def advance {α : Type} (progress : Progress) (outcome : Outcome α) : Progress :=
  { progress with
    session := outcome.session
    journal := progress.journal ++ outcome.journal }

def enterLine (progress : Progress) (line : String) : Option Progress := do
  let outcome ← (SessionM.enter line).outcome progress.session
  return (progress.advance outcome).settle outcome.value

/-- Enters lines until one of them exits. -/
def enterLines (progress : Progress) : List String → Option Progress
  | [] => some progress
  | line :: lines => do
      let progress ← progress.enterLine line
      if progress.exited then return progress else enterLines progress lines

def playScript (progress : Progress) (script : String) : Option Progress := do
  let outcome ← (SessionM.playScript SessionM.enter script).outcome progress.session
  return { progress.advance outcome with
    success := progress.success && outcome.value.isSuccess }

def errors (progress : Progress) : String :=
  appendLines "" progress.messages

/-- Prints the log, or the view as JSON, and ends. -/
def finish (progress : Progress) (json : Bool) : Transcript where
  output := printCalls progress.journal ++
    if json then progress.session.view.toPrettyJson ++ "\n" else progress.session.log
  errors := progress.errors
  code := if progress.success then 0 else 1

/-- Ends without the log because of a script that cannot be read. -/
def abort (progress : Progress) (name reason : String) : Transcript where
  output := printCalls progress.journal
  errors := progress.errors ++ "Error: Failed to read script: " ++ name ++
    "\n\nCaused by:\n    " ++ reason ++ "\n"
  code := 1

end Progress

def Batch.run (batch : Batch) : Option Transcript := do
  let progress ← Progress.start.enterLines batch.lines
  match batch.script with
  | none => return progress.finish batch.json
  | some script =>
      if progress.exited then return progress.finish batch.json
      else
        match script with
        | .unreadable name reason => return progress.abort name reason
        | .text text => return (← progress.playScript text).finish batch.json

end VirtualTerminal.Console
