import VirtualTerminal.Console.Basic
import VirtualTerminal.Text.Clip

/-!
Lines typed one after the other, each answered before the next one is read.

What a line is answered is what the log has gained behind the line's own echo, and then the next
prompt or a farewell.
-/

namespace VirtualTerminal.Console

def banner : String :=
  "Welcome to termkit. Type `help` to list commands.\n"

def openingSession : Session :=
  Config.session { host := host, banner := banner }

/-- What is printed before the first line. -/
def opening : String :=
  openingSession.log ++ openingSession.prompt

/-- What is printed at the end of the input. -/
def ending : String := "\n"

def farewell : String := "Goodbye.\n"

/-- The text behind the first line break. -/
def dropFirstLine (text : List Char) : List Char :=
  (text.dropWhile (· ≠ '\n')).drop 1

/-- What a log has gained over one of `bytes` bytes, less the first line of it.  Where the log was
cleared and has grown again, this is the text at the same place if there is a character. -/
def gain (bytes : Nat) (log : String) : String :=
  match Text.afterBytes? bytes log.toList with
  | some text => String.ofList (dropFirstLine text)
  | none => ""

structure Response where
  session : Session
  journal : List Event
  output : String

def Response.exited (response : Response) : Bool :=
  hasExited response.journal

def respond (session : Session) (line : String) : Option Response := do
  let before := Text.byteSize session.log.toList
  let outcome ← (SessionM.submit line).outcome session
  return {
    session := outcome.session
    journal := outcome.journal
    output := printCalls outcome.journal ++ gain before outcome.session.log ++
      if hasExited outcome.journal then farewell else outcome.session.prompt }

/-- What is printed on a reading of the input, and the session that reads on, if one does. -/
structure Turn where
  output : String
  next : Option Session

/-- What is read at a time: a line with its break, the last one perhaps without. -/
def readings (input : String) : List String :=
  (Text.endedPieces '\n' input.toList).map String.ofList

/-- The line that a reading holds.  A line break ends a line, with a carriage return in front of it
or without one. -/
def typedLine (reading : String) : String :=
  match reading.toList.reverse with
  | '\n' :: '\r' :: line => String.ofList line.reverse
  | '\n' :: line => String.ofList line.reverse
  | _ => reading

/-- Answers what has been read, which is nothing at all at the end of the input. -/
def turn (session : Session) (reading : String) : Option Turn :=
  if reading = "" then some { output := ending, next := none }
  else do
    let response ← respond session (typedLine reading)
    return {
      output := response.output
      next := if response.exited then none else some response.session }

/-- All that is printed on readings, up to the first behind which nothing is read. -/
def exchange (session : Session) : List String → Option String
  | [] => do
      let last ← turn session ""
      return last.output
  | reading :: readings => do
      let answer ← turn session reading
      match answer.next with
      | none => return answer.output
      | some next => return answer.output ++ (← exchange next readings)

/-- All that is printed while `input` is typed. -/
def interact (input : String) : Option String := do
  return opening ++ (← exchange openingSession (readings input))

end VirtualTerminal.Console
