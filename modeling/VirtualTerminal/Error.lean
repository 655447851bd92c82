import VirtualTerminal.Limits

/-!
Why a line or a path was refused, and the text that the log shows for it.
-/

namespace VirtualTerminal

inductive PathError
  | rootHasNoParent
  | directoryNotFound (name : String)
  /-- A directory was asked for and a file bears the name. -/
  | isAFile (name : String)
  /-- The path cannot name a file. -/
  | malformed (path : String)
  | fileNotFound (name directory : String)
  | notText (path : String)
  | notExecutable (path : String)
  deriving Repr, DecidableEq

def PathError.message : PathError → String
  | .rootHasNoParent => "Root directory has no parent directory."
  | .directoryNotFound name => "Could not find directory \"" ++ name ++ "\"."
  | .isAFile name => "'" ++ name ++ "' is a file."
  | .malformed path => "Malformed file path \"" ++ path ++ "\"."
  | .fileNotFound name directory =>
      "Could not find file with name '" ++ name ++ "' in " ++ directory
  | .notText path => "'" ++ path ++ "' is not a text file."
  | .notExecutable path => "'" ++ path ++ "' is not an executable."

inductive Error
  | parse (reason : String)
  | path (error : PathError)
  | commandNotFound (keyword : String)
  /-- The host did not provide what a command needs. -/
  | configuration (reason : String)
  /-- A command was given the wrong arguments. -/
  | usage (reason : String)
  | limit (error : LimitError)
  deriving Repr, DecidableEq

namespace Error

def message : Error → String
  | .parse reason => "parse error: " ++ reason
  | .path error => error.message
  | .commandNotFound keyword => "Couldn't find command \"" ++ keyword ++ "\"."
  | .configuration reason => reason
  | .usage reason => reason
  | .limit error => "resource limit exceeded: " ++ error.message

def unterminatedQuote : Error :=
  .parse "unterminated quoted parameter"

end Error

end VirtualTerminal
