/-!
Key presses, as they are named to the terminal.
-/

namespace VirtualTerminal

inductive Key
  | character (c : Char)
  | backspace
  | enter
  | other (name : String)
  deriving Repr, DecidableEq

/-- A name of one character is that character. -/
def Key.ofName (name : String) : Key :=
  match name.toList with
  | [c] => .character c
  | _ =>
      if name = "Backspace" then .backspace
      else if name = "Enter" then .enter
      else .other name

@[simp]
theorem Key.ofName_singleton (c : Char) : Key.ofName (String.singleton c) = .character c := by
  simp [Key.ofName]

end VirtualTerminal
