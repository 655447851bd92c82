import VirtualTerminal.Session.Script

/-!
What the builtin commands do.  `enter` enters a line of a script.
-/

namespace VirtualTerminal

def Reply.nothing : Reply := .ok none

def Reply.goodbye : Reply := .ok (some "Goodbye.")

namespace SessionM

def runChangeDirectory (arguments : List String) : SessionM Reply := do
  match arguments with
  | [path] =>
      if path = "" then return .error (.usage "Exactly 1 parameter required.")
      else
        match ← changeDirectory path with
        | .ok () => return .nothing
        | .error error => return .error error
  | _ => return .error (.usage "Exactly 1 parameter required.")

/-- What help says about a keyword. -/
def helpOn (registry : Registry) (keyword : String) : String :=
  match registry.get? keyword with
  | some command => command.description
  | none => "Could not find command \"" ++ keyword ++ "\""

def helpLines (registry : Registry) (description : String) (arguments : List String) :
    List String :=
  if arguments = [] then description :: "" :: "Available commands:" :: registry.keywords
  else arguments.flatMap fun keyword => [helpOn registry keyword, ""]

def runHelp (command : Command) (arguments : List String) : SessionM Reply := do
  let registry ← read (·.registry)
  logAll (helpLines registry command.description arguments)
  return .nothing

/-- What is shown in front of a list; arguments are not looked at. -/
def listWarnings (arguments : List String) : List String :=
  if arguments = [] then [] else ["[WARN] ls parameters unimplemented."]

def runList (arguments : List String) : SessionM Reply := do
  let names ← read fun session => session.tree.childNames session.directory
  logAll (listWarnings arguments ++ names)
  return .nothing

def runExit : SessionM Reply := do
  match ← read (·.host.exit) with
  | none => return .error (.configuration "No onExit function provided.")
  | some effects =>
      callHost .exit effects
      return .goodbye

def runRedirect (arguments : List String) : SessionM Reply := do
  match arguments with
  | [path] =>
      match ← read (·.host.redirect) with
      | none => return .error (.configuration "No redirect handler available on page.")
      | some effects =>
          callHost (.redirect path) effects
          return .goodbye
  | _ => return .error (.usage "1 parameter required. ($ help redirect)")

/-- What is shown of a file: its text, or why there is none. -/
def textOrReason : Except Error String → String
  | .ok text => text
  | .error error => error.message

/-- Shows a text file; that there is none is shown as well and is no failure. -/
def runConcatenate (arguments : List String) : SessionM Reply := do
  match arguments with
  | [path] =>
      log (textOrReason (← read (·.findText path)))
      return .nothing
  | _ => return .error (.usage "Exactly 1 parameter required.")

variable (enter : String → SessionM Reply)

/-- Runs an executable with the further arguments, or plays a text as a nested script. -/
def runFile (arguments : List String) : SessionM Reply := do
  match arguments with
  | [] => return .error (.usage "At least 1 parameter required. ($ help run)")
  | path :: arguments =>
      match ← read (·.findFile path) with
      | .error error => return .error error
      | .ok { content := .executable executable, .. } =>
          note (.executableRun path)
          act arguments executable.action
          return .nothing
      | .ok { content := .text script, .. } =>
          match ← playNested enter script with
          | .ok _ => return .nothing
          | .error error => return .error error

def runBuiltin (command : Command) (arguments : List String) : Builtin → SessionM Reply
  | .changeDirectory => runChangeDirectory arguments
  | .help => runHelp command arguments
  | .clear => do
      clear
      return .nothing
  | .printDirectory => do
      log (← read (·.directoryPath))
      return .nothing
  | .list => runList arguments
  | .exit => runExit
  | .redirect => runRedirect arguments
  | .run => runFile enter arguments
  | .comment => return .nothing
  | .concatenate => runConcatenate arguments

end SessionM

end VirtualTerminal
