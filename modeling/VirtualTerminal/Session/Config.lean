import VirtualTerminal.FileTree.Default
import VirtualTerminal.Session.Monad

/-!
What a host may choose before a session starts.
-/

namespace VirtualTerminal

structure Config where
  layout : Layout := .default
  /-- Registered after the builtins, in whose place they may step. -/
  commands : List Command := []
  host : Host := {}
  limits : Limits := {}
  redaction : Redaction := {}
  /-- What the log holds at the start. -/
  banner : String := ""

namespace Config

def surroundings (config : Config) : Surroundings where
  tree := .ofLayout config.layout
  registry := Registry.builtins.registerAll config.commands
  host := config.host
  limits := config.limits
  redaction := config.redaction

/-- The session at its start, in the root directory. -/
def session (config : Config) : Session :=
  let blank : Session := { config.surroundings with log := config.banner }
  blank.setDirectory FileTree.root

/-- What happens when a session starts. -/
def journal (config : Config) : List Event := [
  .sessionCreated config.surroundings.tree.size config.surroundings.registry.size,
  .directoryChanged FileTree.root (withoutMarks config.session.prompt)]

def start (config : Config) : Outcome Unit where
  value := ()
  session := config.session
  journal := config.journal

@[simp]
theorem session_toSurroundings (config : Config) :
    config.session.toSurroundings = config.surroundings := rfl

end Config

end VirtualTerminal
