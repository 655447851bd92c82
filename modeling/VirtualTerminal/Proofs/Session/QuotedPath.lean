import VirtualTerminal.Proofs.Line.Writing
import VirtualTerminal.Proofs.Session.Directory

/-!
# Paths between quotes

The prompt shows the path of a directory, and between quotes that path can be entered again.  A path
ends in a slash, so whatever the names in it hold, it cannot hide the quote behind it; and from
every working directory it leads to the directory that it is shown for.
-/

namespace VirtualTerminal

open SessionM

theorem FileTree.IsLinked.getLast?_fullPath {tree : FileTree} (linked : tree.IsLinked) {id : DirId}
    (valid : id < tree.size) : (tree.fullPath id).toList.getLast? = some '/' := by
  obtain ⟨front, path⟩ := linked.fullPath_ends_in_slash valid
  simp [path]

/-- A line that gives the path of a directory between quotes is read as the keyword and the path. -/
theorem tokens_callQuoted_fullPath {tree : FileTree} (linked : tree.IsLinked) {id : DirId}
    (valid : id < tree.size) :
    Line.tokens (Line.callQuoted "cd" (tree.fullPath id)) = .ok ["cd", tree.fullPath id] := by
  apply Line.tokens_callQuoted
  · simp
  · simp [Text.isBlank]
  · rw [linked.getLast?_fullPath valid]
    decide

/-- The builtin that changes the directory sets it to the one that its argument leads to. -/
theorem SessionM.handle_outcome_of_found {enter : String → SessionM Reply} {session : Session}
    {command : Command} {path : String} {id : DirId}
    (builtin : command.handler = .builtin .changeDirectory) (filled : path ≠ "")
    (found : session.findDirectory path = .ok id) :
    (handle enter command [path]).outcome session = some {
      value := .nothing
      session := session.setDirectory id
      journal := [.directoryChanged id (withoutMarks (session.setDirectory id).prompt)] } := by
  rw [handle, builtin]
  exact runChangeDirectory_outcome_of_found filled found

/-- Where no script is open, a line may start a command and `cd` is the builtin, every directory
that can be reached by the names on the way down from the root is entered by the line that gives its
path between quotes, with each quote in the path behind a backslash.  The line succeeds without a
message whatever the working directory was.  Then the directory is the working directory and the prompt
shows its path, the echo of the line stands in the log, one command is counted, and nothing else has
changed. -/
theorem quoted_path_enters_directory {session : Session} {command : Command} {id : DirId}
    (registered : session.registry.get? "cd" = some command)
    (builtin : command.handler = .builtin .changeDirectory) (idle : session.meter.depth = 0)
    (allowed : 1 ≤ session.limits.commands) (grown : session.tree.Grown)
    (rootSlashless : '/' ∉ (session.tree.name FileTree.root).toList)
    (valid : id < session.tree.size)
    (named : ∀ holder child, session.tree.Holds holder child → session.tree.Reaches child id →
      session.tree.IsNamed holder child) :
    let path := session.tree.fullPath id
    let line := Line.callQuoted "cd" path
    (enter line).outcome session = some {
      value := .ok none
      session := { session with
        directory := id
        prompt := path ++ " $ "
        log := session.log ++ (session.prompt ++ line) ++ "\n"
        meter := { session.meter with commands := 1 } }
      journal := session.opening line ++ calling line command [path] ++
        (.directoryChanged id path :: closing line (.ok none)) } := by
  intro path line
  have linked := grown.isLinked
  have called : session.registry.called? line = some (command, [path]) := by
    simp only [Registry.called?, line, path, tokens_callQuoted_fullPath linked valid, registered,
      Option.map_some]
  have reset : session.meter.atLine = session.meter.reset := if_pos idle
  have left : session.meter.atLine.commands < session.limits.commands := by
    rw [reset]
    exact allowed
  have filled : path ≠ "" := by
    obtain ⟨front, ends⟩ := linked.fullPath_ends_in_slash valid
    simp [path, ends]
  have found : session.findDirectory path = .ok id := by
    rw [Session.findDirectory, FileTree.findDirectory_fullPath grown rootSlashless valid named]
    rfl
  have foundInside : (session.replay
      (session.opening line ++ calling line command [path])).findDirectory path = .ok id := found
  have shown : withoutMarks (path ++ promptMark) = path := linked.withoutMarks_fullPath valid
  obtain ⟨nesting, bound⟩ : ∃ nesting, session.nestingBound line = nesting + 1 := ⟨_, rfl⟩
  rw [enter_outcome, bound]
  refine (enterStep_outcome_of_handled called left
    (handle_outcome_of_found builtin filled foundInside)).trans ?_
  simp [Session.opening, calling, closing, failure, Session.apply, Session.setDirectory,
    Reply.nothing, reset, Meter.reset, Meter.count, promptMark, path]
  exact shown

/-- A session in which a line may start one command.  A directory has quotes, a blank and a final
backslash in its name, and another one without a name inside. -/
def knottySession : Session :=
  let layout : Layout := { entries := .directory "a \"b\\" (.directory "" .nil .nil) .nil }
  (Config.session { layout := layout, limits := { commands := 1 } }).setDirectory 1

/-- From the outer directory the inner one is entered. -/
theorem quoted_path_enters_directory_knotty :
    knottySession.registry.get? "cd" = some Builtin.changeDirectory.command ∧
    knottySession.meter.depth = 0 ∧ 1 ≤ knottySession.limits.commands ∧
    knottySession.tree.Grown ∧ '/' ∉ (knottySession.tree.name FileTree.root).toList ∧
    2 < knottySession.tree.size ∧
    (∀ holder child, knottySession.tree.Holds holder child → knottySession.tree.Reaches child 2 →
      knottySession.tree.IsNamed holder child) ∧
    ∃ outcome,
      (enter "cd \"/a \\\"b\\//\"").outcome knottySession = some outcome ∧
      outcome.value = .ok none ∧ outcome.session.directory = 2 ∧
      outcome.session.prompt = "/a \"b\\// $ " ∧
      outcome.session.log = "/a \"b\\/ $ cd \"/a \\\"b\\//\"\n" := by
  have registered : knottySession.registry.get? "cd" = some Builtin.changeDirectory.command := by
    decide +kernel
  have grown : knottySession.tree.Grown := .ofLayout _
  have slashless : '/' ∉ (knottySession.tree.name FileTree.root).toList := by decide +kernel
  have named : ∀ holder child, knottySession.tree.Holds holder child →
      knottySession.tree.Reaches child 2 → knottySession.tree.IsNamed holder child :=
    grown.isLinked.isNamed_of_reaches (by decide +kernel)
  have entered := quoted_path_enters_directory registered rfl rfl (by decide) grown slashless
    (by decide +kernel) named
  have path : knottySession.tree.fullPath 2 = "/a \"b\\//" := by decide +kernel
  have line : Line.callQuoted "cd" "/a \"b\\//" = "cd \"/a \\\"b\\//\"" := by decide +kernel
  simp only [path, line] at entered
  refine ⟨registered, rfl, by decide, grown, slashless, by decide +kernel, named, _, entered, rfl,
    rfl, ?_, ?_⟩
  · decide +kernel
  · decide +kernel

end VirtualTerminal
