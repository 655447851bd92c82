import VirtualTerminal.Console.Batch

/-!
The arguments that the console is started with.
-/

namespace VirtualTerminal.Console

structure Arguments where
  /-- Lines to enter, each given after `-c`. -/
  lines : List String := []
  /-- The name of a file to play as a script. -/
  script : Option String := none
  json : Bool := false
  deriving Repr, DecidableEq

namespace Arguments

def usage : String :=
  "Usage: terminal [-c LINE]... [--json] [SCRIPT]\n"

/-- Reads arguments in order; none if one of them is not understood. -/
def read? (arguments : Arguments) : List String → Option Arguments
  | [] => some arguments
  | ["-c"] => none
  | "-c" :: line :: rest => read? { arguments with lines := arguments.lines ++ [line] } rest
  | "--json" :: rest => read? { arguments with json := true } rest
  | name :: rest =>
      if name.startsWith "-" || arguments.script.isSome then none
      else read? { arguments with script := some name } rest

def ofList? (arguments : List String) : Option Arguments :=
  read? {} arguments

end Arguments

end VirtualTerminal.Console
