import VirtualTerminal.Proofs.FileTree.FullPath
import VirtualTerminal.Proofs.FileTree.Lookup
import VirtualTerminal.Proofs.Session.Journal
import VirtualTerminal.Proofs.Session.Local

/-!
# The working directory

At every point of what happens to a session its working directory is one of its tree, and the prompt
shows the path of that directory.  The path that is reported when the directory changes is read off
the prompt; it is the right one because full paths end in a slash, which no mark ends in.
-/

namespace VirtualTerminal

theorem withoutMarks_append_promptMark (front : String) :
    withoutMarks (front ++ "/" ++ promptMark) = front ++ "/" := by
  have marked : (front ++ "/" ++ promptMark).toList.reverse =
      ' ' :: '$' :: ' ' :: '/' :: front.toList.reverse := by
    simp [promptMark]
  have path : ('/' :: front.toList.reverse).reverse = (front ++ "/").toList := by simp
  rw [withoutMarks, marked, dropMarks, dropMarks, path, String.ofList_toList]
  simp

theorem FileTree.IsLinked.withoutMarks_fullPath {tree : FileTree} (linked : tree.IsLinked)
    {id : DirId} (valid : id < tree.size) :
    withoutMarks (tree.fullPath id ++ promptMark) = tree.fullPath id := by
  obtain ⟨front, path⟩ := linked.fullPath_ends_in_slash valid
  rw [path, withoutMarks_append_promptMark]

/-- The working directory is one of a linked tree, and the prompt shows its path. -/
structure Session.IsPlaced (session : Session) : Prop where
  linked : session.tree.IsLinked
  valid : session.directory < session.tree.size
  prompt_eq : session.prompt = session.directoryPath ++ promptMark

/-- A change of the working directory leads to one of the tree and reports its path. -/
def Event.FitsTree (session : Session) : Event → Prop
  | .directoryChanged id path => id < session.tree.size ∧ path = session.tree.fullPath id
  | _ => True

namespace Session.IsPlaced

variable {session : Session}

theorem apply {event : Event} (placed : session.IsPlaced) (fits : event.FitsTree session) :
    (session.apply event).IsPlaced := by
  cases event with
  | directoryChanged id path => exact ⟨placed.linked, fits.1, rfl⟩
  | _ => exact ⟨placed.linked, placed.valid, placed.prompt_eq⟩

theorem replay {journal : List Event} (placed : session.IsPlaced)
    (fits : Throughout (fun now event _ => event.FitsTree now) session journal) :
    (session.replay journal).IsPlaced := by
  induction journal generalizing session with
  | nil => exact placed
  | cons event journal inductionHypothesis =>
      exact inductionHypothesis (placed.apply fits.1) fits.2

theorem findDirectory_valid (placed : session.IsPlaced) {path : String} {id : DirId}
    (found : session.findDirectory path = .ok id) : id < session.tree.size := by
  unfold Session.findDirectory at found
  cases looked : session.tree.findDirectory session.directory path with
  | ok other =>
      rw [looked] at found
      exact Except.ok.inj found ▸ placed.linked.findDirectory_valid placed.valid looked
  | error error =>
      rw [looked] at found
      cases found

end Session.IsPlaced

/-- From a working directory of the tree, directories only change to those of the tree. -/
def StaysPlaced (session : Session) (journal : List Event) : Prop :=
  session.IsPlaced → Throughout (fun now event _ => event.FitsTree now) session journal

namespace StaysPlaced

variable {session : Session} {event : Event} {journal first second : List Event}

theorem single (fits : event.FitsTree session) : StaysPlaced session [event] :=
  fun _ => ⟨fits, trivial⟩

theorem append (before : StaysPlaced session first)
    (after : StaysPlaced (session.replay first) second) :
    StaysPlaced session (first ++ second) := by
  intro placed
  have fits := before placed
  exact fits.append (fun _ _ _ _ holds => holds) (after (placed.replay fits))

theorem nested (inside : StaysPlaced (session.apply .nestedScriptOpened) journal) :
    StaysPlaced session (.nestedScriptOpened :: (journal ++ [.nestedScriptClosed])) := by
  intro placed
  have fits := inside (placed.apply trivial)
  exact ⟨trivial, fits.append (fun _ _ _ _ holds => holds) ⟨trivial, trivial⟩⟩

theorem effect (happens : event.IsEffect session) : StaysPlaced session [event] := by
  cases happens with
  | directoryChanged found =>
      intro placed
      have valid := placed.findDirectory_valid found
      exact ⟨⟨valid, placed.linked.withoutMarks_fullPath valid⟩, trivial⟩
  | _ => exact single trivial

end StaysPlaced

def Course.placed : Course :=
  .ofJournals StaysPlaced (fun _ _ => trivial) .append .effect

theorem Course.placed_isLocal : Course.placed.IsLocal where
  started _ := ofJournals_some (.single trivial)
  finished _ _ := ofJournals_some (.single trivial)
  refused _ := ofJournals_some (.single trivial)
  nested _ inside := ofJournals_map inside fun _ => .nested
  entered _ _ := ofJournals_some (.single trivial)
  remark := by
    intro session event happens
    cases happens <;> exact ofJournals_some (.single trivial)
  endless _ := ofJournals_none

theorem Course.placed_keystroke {session : Session} {event : Event}
    (happens : event.IsKeystroke session) : Course.placed.Holds session (some [event]) := by
  cases happens <;> exact ofJournals_some (.single trivial)

theorem Course.follows_performAll_placed (requests : List Request) :
    (Request.performAll requests).Follows .placed :=
  placed_isLocal.follows_performAll placed_keystroke requests

theorem Config.session_isPlaced (config : Config) : config.session.IsPlaced where
  linked := FileTree.isLinked_ofLayout config.layout
  valid := (FileTree.isLinked_ofLayout config.layout).rooted
  prompt_eq := rfl

/-- Whatever is asked of a session, at every point it has the tree, the commands, the host and the
limits that it was built with, its working directory is one of the tree that is met on the way down
from the root, and its prompt is the path of that directory with the mark behind it.  Each record of
a change of the working directory, that of the start included, shows the path of the directory that
was just set. -/
theorem prompt_shows_directory (config : Config) {requests : List Request}
    {outcome : Outcome (List Answer)}
    (reached : (Request.performAll requests).outcome config.session = some outcome) :
    (∀ past rest, outcome.journal = past ++ rest →
      let now := config.session.replay past
      now.toSurroundings = config.surroundings ∧
        now.directory < now.tree.size ∧ now.tree.Reaches FileTree.root now.directory ∧
        now.prompt = now.tree.fullPath now.directory ++ " $ ") ∧
    outcome.session = config.session.replay outcome.journal ∧
    config.journal = [
      .sessionCreated config.surroundings.tree.size config.surroundings.registry.size,
      .directoryChanged config.session.directory config.session.directoryPath] ∧
    ∀ past id path rest, outcome.journal = past ++ .directoryChanged id path :: rest →
      let now := config.session.replay (past ++ [.directoryChanged id path])
      (Event.directoryChanged id path).record? now.redaction = some {
        level := .debug
        message := "working directory changed"
        fields := [("cwd", .text (now.tree.fullPath now.directory))] } := by
  have placed := config.session_isPlaced
  have fits := Course.admits_of_outcome (Course.follows_performAll_placed requests) reached placed
  refine ⟨?_, SessionM.outcome_session reached, ?_, ?_⟩
  · intro past rest split now
    rw [split] at fits
    have still : now.IsPlaced := placed.replay (fits.left fun _ _ _ _ holds => holds)
    refine ⟨?_, still.valid, still.linked.reaches_root still.valid, still.prompt_eq⟩
    exact config.session.replay_toSurroundings past
  · rw [Config.journal, placed.prompt_eq, Session.directoryPath,
      placed.linked.withoutMarks_fullPath placed.valid]
    rfl
  · intro past id path rest split now
    obtain ⟨-, shown⟩ := Throughout.iff_forall_split.mp fits past _ rest split
    have here : now = (config.session.replay past).setDirectory id :=
      config.session.replay_append past _
    rw [here, shown]
    rfl

/-- A tree with a directory whose name is the mark behind a prompt. -/
def markedConfig : Config where
  layout := { entries := .directory " $ " .nil .nil }

/-- The name of a directory may look like the mark behind a prompt. -/
theorem prompt_shows_directory_marked :
    ∃ outcome,
      (Request.performAll [.line "cd \" $ \""]).outcome markedConfig.session = some outcome ∧
      outcome.session.directory = 1 ∧
      outcome.session.tree.Reaches FileTree.root 1 ∧
      outcome.session.prompt = "/ $ / $ " := by
  have ends : ((Request.performAll [.line "cd \" $ \""]).outcome markedConfig.session).any
      (fun outcome => outcome.session.directory = 1 ∧
        outcome.session.tree.fullPath 1 = "/ $ /") = true := by decide +kernel
  obtain ⟨outcome, reached, changed⟩ := (Option.any_eq_true _ _).mp ends
  obtain ⟨here, path⟩ := of_decide_eq_true changed
  obtain ⟨throughout, replayed, -⟩ := prompt_shows_directory markedConfig reached
  obtain ⟨-, -, way, prompt⟩ := throughout outcome.journal [] (List.append_nil _).symm
  rw [← replayed, here] at way prompt
  exact ⟨outcome, reached, here, way, by rw [prompt, path]; rfl⟩

end VirtualTerminal
