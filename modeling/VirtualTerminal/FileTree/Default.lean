import VirtualTerminal.FileTree.Layout

/-!
The tree that a session gets if the host brings none.
-/

namespace VirtualTerminal

def introduction : String :=
  "# Welcome to the termkit command line!\n" ++
  "# A brief overview of the features of this terminal:\n" ++
  "# - Simple directory and file structure (root: '/')\n" ++
  "# - Full scripting support using terminal commands (just how you ran this script!)\n" ++
  "# - Built in scoped executable files (try: $ run /hello_world.exe 10)\n" ++
  "# - Simple unix-like directory navigation.\n" ++
  "#\n" ++
  "# To start you off, I'm now going to run the 'help' command for you:\n" ++
  "help"

def helloWorld : File where
  name := "hello_world.exe"
  content := .executable {
    description := some "Says hello world <n> times.\n  $ run hello_world.exe <n>"
    action := .greet }

def Layout.default : Layout where
  entries :=
    .file helloWorld <|
    .file { name := "intro.script", content := .text introduction } <|
    .directory "games"
      (.file
        { name := "minesweeper.script", content := .text "redirect /games/minesweeper" } .nil)
      .nil

end VirtualTerminal
