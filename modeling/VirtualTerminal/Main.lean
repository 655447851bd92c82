import VirtualTerminal.Console.Arguments
import VirtualTerminal.Console.Run

/-!
The command line program: reads files and the standard input and prints what the console says.
-/

namespace VirtualTerminal.Console

def printNow (text : String) : IO Unit := do
  let output ← IO.getStdout
  output.putStr text
  output.flush

/-- Answers one reading of the input after the other. -/
partial def converseLoop (session : Session) (input : IO.FS.Stream) : IO UInt32 := do
  match turn session (← input.getLine) with
  | none => return 1
  | some answer =>
      printNow answer.output
      match answer.next with
      | none => return 0
      | some next => converseLoop next input

/-- What the operating system says of a failure. -/
def reasonOf : IO.Error → String
  | .alreadyExists _ code details | .otherError code details | .resourceBusy code details
  | .resourceVanished code details | .unsupportedOperation code details
  | .hardwareFault code details | .unsatisfiedConstraints code details
  | .illegalOperation code details | .protocolError code details | .timeExpired code details
  | .interrupted _ code details | .noFileOrDirectory _ code details
  | .invalidArgument _ code details | .permissionDenied _ code details
  | .resourceExhausted _ code details | .inappropriateType _ code details
  | .noSuchThing _ code details => details ++ " (os error " ++ toString code ++ ")"
  | error => toString error

def readScript (name : String) : IO Script := do
  try
    -- reading by the name looks at the metadata first and does not fail in the system's own words
    let file ← IO.FS.Handle.mk name .read
    match String.fromUTF8? (← file.readBinToEnd) with
    | some text => return .text text
    | none => return .unreadable name "stream did not contain valid UTF-8"
  catch error => return .unreadable name (reasonOf error)

def start (arguments : Arguments) : IO UInt32 := do
  let script ← arguments.script.mapM readScript
  let batch : Batch := { lines := arguments.lines, script := script, json := arguments.json }
  if batch.isEmpty then
    printNow opening
    converseLoop openingSession (← IO.getStdin)
  else
    match batch.run with
    | none => return 1
    | some transcript =>
        (← IO.getStderr).putStr transcript.errors
        printNow transcript.output
        return transcript.code.toUInt32

end VirtualTerminal.Console

def main (arguments : List String) : IO UInt32 := do
  match VirtualTerminal.Console.Arguments.ofList? arguments with
  | some arguments => VirtualTerminal.Console.start arguments
  | none =>
      (← IO.getStderr).putStr VirtualTerminal.Console.Arguments.usage
      return 2
