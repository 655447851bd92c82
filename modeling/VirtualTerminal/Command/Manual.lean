import VirtualTerminal.Command.Basic

/-!
Keywords, names and help texts of the builtin commands.
-/

namespace VirtualTerminal.Builtin

/-- The builtins in the order in which help lists them. -/
def all : List Builtin :=
  [.changeDirectory, .help, .clear, .printDirectory, .list, .exit, .redirect, .run, .comment,
    .concatenate]

def keyword : Builtin → String
  | .changeDirectory => "cd"
  | .help => "help"
  | .clear => "clear"
  | .printDirectory => "pwd"
  | .list => "ls"
  | .exit => "exit"
  | .redirect => "redirect"
  | .run => "run"
  | .comment => "#"
  | .concatenate => "cat"

def name : Builtin → String
  | .changeDirectory => "Change Directory"
  | .help => "Help"
  | .clear => "Clear Terminal"
  | .printDirectory => "Print Working Directory"
  | .list => "List Directory Contents"
  | .exit => "Exit"
  | .redirect => "Redirect"
  | .run => "Run"
  | .comment => "Comment"
  | .concatenate => "Concatenate File Contents"

/-- What the help text says below its title. -/
def manual : Builtin → String
  | .changeDirectory =>
      "Used to switch between directories.\n" ++
      "Usage:\n  $ cd <relative-or-absolute-directory-path>"
  | .help =>
      "Used for getting help in the terminal.\n" ++
      "Usage:\n  $ help [<command-name> [<command-name>...]]\n" ++
      "hint: try 'help ls cd'"
  | .clear =>
      "Clear the current line buffer.\n" ++
      "Usage:\n  $ clear"
  | .printDirectory =>
      "Prints the terminal's current directory to the screen.\n" ++
      "Usage:\n  $ pwd"
  | .list =>
      "Prints out the contents of the current directory to the screen.\n" ++
      "Usage:\n  $ ls"
  | .exit =>
      "Terminates the current terminal session.\n" ++
      "Usage:\n  $ exit"
  | .redirect =>
      "Redirects to the given path.\n" ++
      "Usage:\n  $ redirect <website-path>\n" ++
      "Example:\n  $ redirect /games/minesweeper"
  | .run =>
      "Runs a given executable or script file.\n" ++
      "Usage:\n  $ run <file-name-or-path> [<argument>...]\n" ++
      "Example:\n  $ run /hello_world.exe 10"
  | .comment => "Does nothing... just used for documentation."
  | .concatenate =>
      "Writes a file's contents to the terminal.\n" ++
      "Usage:\n  $ cat <file-path>"

def command (builtin : Builtin) : Command where
  keyword := builtin.keyword
  name := builtin.name
  description := "== " ++ builtin.name ++ " ==\n" ++ builtin.manual
  handler := .builtin builtin

def ofKeyword? (keyword : String) : Option Builtin :=
  all.find? (·.keyword = keyword)

@[simp]
theorem ofKeyword?_keyword (builtin : Builtin) :
    ofKeyword? builtin.keyword = some builtin := by
  cases builtin <;> decide

end VirtualTerminal.Builtin
