import VirtualTerminal.File
import VirtualTerminal.Text.Quoted

/-!
Commands: the keyword that calls one, its help text, and what it does.

A command either is one of the builtins or follows a list of directives.
-/

namespace VirtualTerminal

inductive Builtin
  | changeDirectory
  | help
  | clear
  | printDirectory
  | list
  | exit
  | redirect
  | run
  | comment
  | concatenate
  deriving Repr, DecidableEq

inductive Directive
  | effect (effect : Effect)
  /-- Enters a line; what comes of it is ignored. -/
  | line (text : String)
  /-- Enters the arguments as a line; what comes of it is ignored. -/
  | lineOfArguments
  /-- Plays a nested script; ends the command if it may not be opened. -/
  | nestedScript (script : String)
  /-- The same with the arguments as each of `copies` lines. -/
  | nestedScriptOfArguments (copies : Nat)
  /-- Plays a script without nesting and logs its report. -/
  | script (script : String)
  /-- Logs a text file; ends the command if there is none. -/
  | logFile (path : String)
  /-- Changes the working directory; ends the command if the path leads to none. -/
  | enterDirectory (path : String)
  /-- Logs the command's own keyword, name and description. -/
  | logCommand
  | answer (message : String)
  | failUsage (reason : String)
  | failConfiguration (reason : String)
  deriving Repr, DecidableEq

inductive Handler
  | builtin (builtin : Builtin)
  | directives (directives : List Directive)
  deriving Repr, DecidableEq

structure Command where
  keyword : String
  name : String
  description : String
  handler : Handler
  deriving Repr, DecidableEq

/-- A short form of a command that leaves out its help text and what it does. -/
def Command.summary (command : Command) : String :=
  "Command \x7b keyword: " ++ Text.quoted command.keyword ++
    ", name: " ++ Text.quoted command.name ++ ", .. \x7d"

/-- A short form of an executable that leaves out its action. -/
def Executable.summary (executable : Executable) : String :=
  let description :=
    match executable.description with
    | none => "None"
    | some description => "Some(" ++ Text.quoted description ++ ")"
  "Executable \x7b description: " ++ description ++ ", .. \x7d"

end VirtualTerminal
