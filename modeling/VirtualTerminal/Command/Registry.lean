import VirtualTerminal.Command.Manual

/-!
The commands of a session by keyword.

Commands stand in the order in which their keywords were first registered.  An index leads from a
keyword to its place.
-/

namespace VirtualTerminal

structure Registry where
  commands : Array Command := #[]
  index : List (String × Nat) := []
  deriving Repr, DecidableEq, Inhabited

namespace Registry

/-- The place of a keyword's command. -/
def slot? (registry : Registry) (keyword : String) : Option Nat :=
  registry.index.lookup keyword

/-- Adds a command, in the place of one with the same keyword if there is one. -/
def register (registry : Registry) (command : Command) : Registry :=
  match registry.slot? command.keyword with
  | some slot => { registry with commands := registry.commands.setIfInBounds slot command }
  | none => {
      commands := registry.commands.push command
      index := (command.keyword, registry.commands.size) :: registry.index }

def registerAll (registry : Registry) (commands : List Command) : Registry :=
  commands.foldl register registry

def builtins : Registry :=
  registerAll {} (Builtin.all.map Builtin.command)

variable (registry : Registry)

def get? (keyword : String) : Option Command :=
  (registry.slot? keyword).bind (registry.commands[·]?)

def size : Nat :=
  registry.commands.size

def toList : List Command :=
  registry.commands.toList

def keywords : List String :=
  registry.toList.map Command.keyword

@[simp]
theorem get?_empty (keyword : String) : get? {} keyword = none := by
  simp [get?, slot?]

@[simp]
theorem registerAll_nil : registry.registerAll [] = registry := rfl

@[simp]
theorem registerAll_cons (command : Command) (commands : List Command) :
    registry.registerAll (command :: commands) =
      (registry.register command).registerAll commands := rfl

theorem registerAll_append (first second : List Command) :
    registry.registerAll (first ++ second) =
      (registry.registerAll first).registerAll second :=
  List.foldl_append

end Registry

end VirtualTerminal
