import VirtualTerminal.Command.Registry
import VirtualTerminal.FileTree.Resolve
import VirtualTerminal.Limits
import VirtualTerminal.Redaction

/-!
The state of a terminal session.

What a session is built with never changes; what it does changes the working directory, the log, the
input buffer, the history and the meter.  The prompt shows the working directory.
-/

namespace VirtualTerminal

/-- What the host does when a session asks it to; each handler is optional. -/
structure Host where
  exit : Option (List Effect) := none
  /-- Gets the path as its only argument. -/
  redirect : Option (List Effect) := none
  deriving Repr, DecidableEq, Inhabited

/-- Names which handlers are set. -/
def Host.summary (host : Host) : String :=
  "Settings \x7b on_exit: " ++ toString host.exit.isSome ++
    ", redirect: " ++ toString host.redirect.isSome ++ " \x7d"

/-- What a session is built with. -/
structure Surroundings where
  tree : FileTree
  registry : Registry
  host : Host := {}
  limits : Limits := {}
  redaction : Redaction := {}
  deriving Repr, DecidableEq, Inhabited

structure Session extends Surroundings where
  directory : DirId := FileTree.root
  prompt : String := ""
  /-- The lines shown so far, each with a line break behind it. -/
  log : String := ""
  input : String := ""
  /-- The lines entered on the keyboard that were not blank, oldest first. -/
  history : List String := []
  meter : Meter := {}
  deriving Repr, DecidableEq, Inhabited

/-- What stands between the working directory and the input. -/
def promptMark : String := " $ "

/-- Drops every mark at the front of a reversed text; a mark reads the same backwards. -/
def dropMarks : List Char → List Char
  | ' ' :: '$' :: ' ' :: text => dropMarks text
  | text => text

/-- A prompt without the marks at its end. -/
def withoutMarks (prompt : String) : String :=
  String.ofList (dropMarks prompt.toList.reverse).reverse

namespace Session

variable (session : Session)

/-- The path of the working directory. -/
def directoryPath : String :=
  session.tree.fullPath session.directory

def setDirectory (id : DirId) : Session :=
  { session with directory := id, prompt := session.tree.fullPath id ++ promptMark }

def findDirectory (path : String) : Except Error DirId :=
  (session.tree.findDirectory session.directory path).mapError .path

def findFile (path : String) : Except Error File :=
  (session.tree.findFile session.directory path).mapError .path

def findText (path : String) : Except Error String :=
  match session.findFile path with
  | .ok { content := .text text, .. } => .ok text
  | .ok _ => .error (.path (.notText path))
  | .error error => .error error

def findExecutable (path : String) : Except Error Executable :=
  match session.findFile path with
  | .ok { content := .executable executable, .. } => .ok executable
  | .ok _ => .error (.path (.notExecutable path))
  | .error error => .error error

/-- Input buffer, length of the history and prompt in one line. -/
def stateLine : String :=
  session.input ++ "|" ++ toString session.history.length ++ "|" ++ session.prompt

@[simp]
theorem setDirectory_toSurroundings (id : DirId) :
    (session.setDirectory id).toSurroundings = session.toSurroundings := rfl

theorem findFile_of_findText {session : Session} {path text : String}
    (found : session.findText path = .ok text) :
    ∃ name, session.findFile path = .ok { name := name, content := .text text } := by
  unfold Session.findText at found
  split at found
  next name _ file =>
    cases found
    exact ⟨name, file⟩
  next => cases found
  next => cases found

end Session

end VirtualTerminal
