/-!
Files: texts, and executables with the action that running one performs.
-/

namespace VirtualTerminal

/-- A step that an executable, a command or a host handler takes on the session it runs in. -/
inductive Effect
  | log (text : String)
  /-- Logs the arguments, joined. -/
  | logArguments (separator : String)
  /-- Logs the working directory's path. -/
  | logDirectory
  /-- Logs the input buffer, the length of the history and the prompt. -/
  | logState
  | clear
  /-- Changes the working directory if the path leads to one. -/
  | changeDirectory (path : String)
  deriving Repr, DecidableEq

inductive Action
  /-- Greets the world as often as its argument says. -/
  | greet
  | effects (effects : List Effect)
  deriving Repr, DecidableEq

structure Executable where
  description : Option String
  action : Action
  deriving Repr, DecidableEq

inductive Content
  | text (text : String)
  | executable (executable : Executable)
  deriving Repr, DecidableEq

structure File where
  name : String
  content : Content
  deriving Repr, DecidableEq

namespace File

def isText (file : File) : Bool :=
  match file.content with
  | .text _ => true
  | .executable _ => false

def isExecutable (file : File) : Bool :=
  !file.isText

end File

end VirtualTerminal
