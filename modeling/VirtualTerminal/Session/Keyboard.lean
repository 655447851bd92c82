import VirtualTerminal.Key
import VirtualTerminal.Session.Line
import VirtualTerminal.Text.Blank

/-!
Key presses: characters and backspaces change the input buffer and Enter enters it as a line.
-/

namespace VirtualTerminal

/-- What a key other than Enter makes of the input buffer. -/
def Key.edit (input : String) : Key → String
  | .character c => if Text.isControl c then input else input.push c
  | .backspace => String.ofList input.toList.dropLast
  | .enter => input
  | .other _ => input

namespace SessionM

/-- Adds a line to the history unless it is blank. -/
def remember (line : String) : SessionM Unit :=
  if Text.isBlankText line then pure () else note (.lineRemembered line)

/-- Enters the input buffer and empties it afterwards; a failure of the line is in the log. -/
def pressEnter : SessionM Unit := do
  let line ← read (·.input)
  remember line
  let _ ← enter line
  note (.inputChanged "")

def press (key : Key) : SessionM Unit :=
  match key with
  | .enter => pressEnter
  | key => do
      let input ← read (·.input)
      note (.inputChanged (key.edit input))

/-- Types a text and presses Enter. -/
def submit (text : String) : SessionM Unit := do
  fold (fun _ c => press (.character c)) () text.toList
  press .enter

end SessionM

end VirtualTerminal
