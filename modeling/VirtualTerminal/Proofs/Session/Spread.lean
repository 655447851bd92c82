import VirtualTerminal.Proofs.FileTree.Lookup
import VirtualTerminal.Proofs.Session.Coupling
import VirtualTerminal.Proofs.Session.Failure
import VirtualTerminal.Proofs.Session.Spending

/-!
# How far a line spreads

Where all commands are builtins, lines are only entered by running a text file, and a command runs
one file at most.  So whatever the files say, each command that is started adds no more lines than
the longest text of the tree has, and the limit bounds how many are started.
-/

namespace VirtualTerminal

/-- The text of a text file. -/
def File.text? (file : File) : Option String :=
  match file.content with
  | .text text => some text
  | .executable _ => none

/-- The texts of all files of a tree. -/
def FileTree.texts (tree : FileTree) : List String :=
  ((List.range tree.size).flatMap tree.files).filterMap File.text?

/-- The largest number of lines that a text of a tree has. -/
def FileTree.mostLines (tree : FileTree) : Nat :=
  (tree.texts.map fun text => (Text.lines text).length).max?.getD 0

theorem Session.mem_files_of_findFile {session : Session} {path : String} {file : File}
    (found : session.findFile path = .ok file) :
    ∃ holder < session.tree.size, file ∈ session.tree.files holder := by
  unfold Session.findFile at found
  cases looked : session.tree.findFile session.directory path with
  | error error =>
      rw [looked] at found
      cases found
  | ok other =>
      rw [looked] at found
      cases found
      exact FileTree.mem_files_of_findFile looked

theorem Session.mem_texts_of_findText {session : Session} {path text : String}
    (found : session.findText path = .ok text) : text ∈ session.tree.texts := by
  obtain ⟨name, file⟩ := Session.findFile_of_findText found
  obtain ⟨holder, valid, member⟩ := Session.mem_files_of_findFile file
  refine List.mem_filterMap.mpr ⟨_, List.mem_flatMap.mpr ⟨holder, ?_, member⟩, rfl⟩
  exact List.mem_range.mpr valid

theorem Session.length_lines_le {session : Session} {path text : String}
    (found : session.findText path = .ok text) :
    (Text.lines text).length ≤ session.tree.mostLines :=
  List.le_max?_getD_of_mem
    (List.mem_map.mpr ⟨text, Session.mem_texts_of_findText found, rfl⟩)

/-- A line is entered. -/
def Event.isLine : Event → Bool
  | .lineEntered _ => true
  | _ => false

/-- How many lines a journal enters. -/
def enteredLines (journal : List Event) : Nat :=
  journal.countP Event.isLine

@[simp]
theorem enteredLines_append (first second : List Event) :
    enteredLines (first ++ second) = enteredLines first + enteredLines second :=
  List.countP_append

@[simp]
theorem enteredLines_closing (line : String) (reply : Reply) :
    enteredLines (closing line reply) = 0 := by
  cases reply <;> rfl

/-- The journals that enter no line. -/
def Course.lineless : Course :=
  .ofJournals (fun _ journal => enteredLines journal = 0) (fun _ => rfl)
    (fun before after => by rw [enteredLines_append, before, after])
    (fun happens => by cases happens <;> rfl)

theorem Course.follows_note_lineless {event : Event} (unentered : event.isLine = false) :
    (SessionM.note event).Follows .lineless := by
  rintro session journal ⟨⟩
  exact List.countP_eq_zero.mpr (by simp [Stage.outcome, unentered])

namespace SessionM

variable {α β : Type} {surroundings : Surroundings} {own more : Nat}

/-- A step enters at most `own` lines by itself, and for each command that it starts as many as the
longest text has. -/
def Spreads (step : SessionM α) (surroundings : Surroundings) (own : Nat) : Prop :=
  ∀ session outcome, session.toSurroundings = surroundings →
    step.outcome session = some outcome →
    enteredLines outcome.journal ≤ own + surroundings.tree.mostLines * dispatches outcome.journal

namespace Spreads

theorem of_lineless {step : SessionM α} (lineless : step.Follows .lineless) :
    step.Spreads surroundings own := by
  intro session outcome _ reached
  have none : enteredLines outcome.journal = 0 :=
    lineless session outcome.journal (journal?_of_outcome reached)
  rw [none]
  exact Nat.zero_le _

theorem mono {step : SessionM α} (spreads : step.Spreads surroundings own) (less : own ≤ more) :
    step.Spreads surroundings more :=
  fun session outcome same reached =>
    Nat.le_trans (spreads session outcome same reached) (Nat.add_le_add_right less _)

theorem read {view : Session → β} {next : β → SessionM α}
    (after : ∀ session, session.toSurroundings = surroundings →
      (next (view session)).Spreads surroundings own) :
    (SessionM.read view >>= next).Spreads surroundings own :=
  fun session outcome same reached => after session same session outcome same reached

theorem bind {first : SessionM α} {next : α → SessionM β} (before : first.Spreads surroundings own)
    (after : ∀ value, (next value).Spreads surroundings more) :
    (first >>= next).Spreads surroundings (own + more) := by
  intro session outcome same reached
  obtain ⟨start, rest, started, ended, rfl⟩ := bind_outcome_eq_some_iff.mp reached
  have later : start.session.toSurroundings = surroundings := by
    rw [outcome_toSurroundings started, same]
  have here := before session start same started
  have there := after start.value start.session rest later ended
  show enteredLines (start.journal ++ rest.journal) ≤
    own + more + surroundings.tree.mostLines * dispatches (start.journal ++ rest.journal)
  rw [enteredLines_append, dispatches_append, Nat.mul_add]
  omega

theorem bind_left {first : SessionM α} {next : α → SessionM β}
    (before : first.Spreads surroundings own) (after : ∀ value, (next value).Follows .lineless) :
    (first >>= next).Spreads surroundings own := by
  have rest : ∀ value, (next value).Spreads surroundings 0 := fun value => of_lineless (after value)
  exact before.bind rest

theorem bind_right {first : SessionM α} {next : α → SessionM β}
    (before : first.Follows .lineless) (after : ∀ value, (next value).Spreads surroundings own) :
    (first >>= next).Spreads surroundings own := by
  rw [← Nat.zero_add own]
  exact (of_lineless before).bind after

theorem fold {step : β → α → SessionM β} {items : List α}
    (each : ∀ value item, (step value item).Spreads surroundings own) (value : β) :
    (SessionM.fold step value items).Spreads surroundings (items.length * own) := by
  induction items generalizing value with
  | nil => exact of_lineless (Course.follows_pure value)
  | cons item items inductionHypothesis =>
      rw [List.length_cons, Nat.succ_mul, Nat.add_comm]
      exact (each value item).bind inductionHypothesis

section

variable {enter : String → SessionM Reply}
  (lines : ∀ line, (enter line).Spreads surroundings 1)
include lines

/-- A script enters each of its lines once. -/
theorem playScript (script : String) :
    (SessionM.playScript enter script).Spreads surroundings (Text.lines script).length := by
  have played : (playLines enter (Text.lines script)).Spreads surroundings
      ((Text.lines script).length * 1) := by
    apply fold
    exact fun report line => (lines line).bind_left fun _ => Course.follows_pure _
  rw [Nat.mul_one] at played
  apply read
  intro session _
  apply bind_right (Course.follows_note_lineless rfl)
  intro _
  apply played.bind_left
  exact fun report =>
    Course.follows_bind (Course.follows_note_lineless rfl) fun _ => Course.follows_pure report

theorem playNested (script : String) :
    (SessionM.playNested enter script).Spreads surroundings (Text.lines script).length := by
  apply read
  intro session _
  cases session.meter.depthError? session.limits with
  | some limit =>
      apply bind_right (Course.follows_note_lineless rfl)
      exact fun _ => of_lineless (Course.follows_pure _)
  | none =>
      apply bind_right (Course.follows_note_lineless rfl)
      intro _
      apply (playScript lines script).bind_left
      exact fun report =>
        Course.follows_bind (Course.follows_note_lineless rfl) fun _ => Course.follows_pure _

/-- The file that is run is a text of the tree, or enters no line. -/
theorem runFile (arguments : List String) :
    (SessionM.runFile enter arguments).Spreads surroundings surroundings.tree.mostLines := by
  unfold SessionM.runFile
  split
  next => exact of_lineless (Course.follows_pure _)
  next path arguments =>
    apply read
    intro session same
    rcases found : session.findFile path with error | ⟨name, text | executable⟩
    · exact of_lineless (Course.follows_pure _)
    · have readable : session.findText path = .ok text := by
        rw [Session.findText, found]
      have short : (Text.lines text).length ≤ surroundings.tree.mostLines := by
        rw [← same]
        exact Session.length_lines_le readable
      apply ((playNested lines text).mono short).bind_left
      intro played
      cases played <;> exact Course.follows_pure _
    · apply bind_right (Course.follows_note_lineless rfl)
      intro _
      apply of_lineless
      exact Course.follows_bind (Course.follows_act arguments executable.action) fun _ =>
        Course.follows_pure _

theorem runBuiltin (command : Command) (arguments : List String) (builtin : Builtin) :
    (SessionM.runBuiltin enter command arguments builtin).Spreads surroundings
      surroundings.tree.mostLines := by
  -- No other builtin plays a script, so whatever holds without scripts holds of it.
  by_cases runs : builtin = .run
  · rw [runs]
    exact runFile lines arguments
  · apply of_lineless
    exact Course.follows_runBuiltin command arguments builtin fun other => absurd other runs

theorem handle (command : Command) (arguments : List String) (builtin : command.isBuiltin = true) :
    (SessionM.handle enter command arguments).Spreads surroundings surroundings.tree.mostLines := by
  obtain ⟨which, -, same⟩ := handle_eq_runBuiltin builtin
  rw [same]
  exact runBuiltin lines command arguments which

end

end Spreads

/-- What a line enters beyond itself is due to the command that it starts. -/
theorem enteredLines_le_of_entered {enter : String → SessionM Reply} {session : Session}
    {line : String} {reply : Reply} {journal : List Event}
    (builtins : ∀ command ∈ session.registry.toList, command.isBuiltin = true)
    (lines : ∀ line, (enter line).Spreads session.toSurroundings 1)
    (entered : Entered enter session line reply journal) :
    enteredLines journal ≤ 1 + session.tree.mostLines * dispatches journal := by
  cases entered with
  | @uncalled reply remarks _ remarked =>
      have plain : enteredLines remarks = 0 := by
        cases remarked <;> rfl
      have first : enteredLines (session.opening line) = 1 := rfl
      rw [enteredLines_append, enteredLines_append, enteredLines_closing, first, plain]
      exact Nat.le_add_right _ _
  | refused _ _ => exact Nat.le_add_right _ _
  | @handled command arguments handling called left handled =>
      have builtin := builtins command (Registry.mem_toList_of_called? called)
      have inside := Spreads.handle lines command arguments builtin _ handling
        (session.replay_toSurroundings _) handled
      have first : enteredLines (session.opening line ++ calling line command arguments) = 1 := rfl
      have start : dispatches (session.opening line ++ calling line command arguments) = 1 := rfl
      have entered : enteredLines (handling.journal ++ closing line handling.value) =
          enteredLines handling.journal := by simp
      have started : dispatches (handling.journal ++ closing line handling.value) =
          dispatches handling.journal := by simp
      -- What the command enters by itself is no more than its start allows for.
      rw [enteredLines_append, first, entered, dispatches_append, start, started, Nat.mul_add]
      omega

theorem Spreads.enterWithin
    (builtins : ∀ command ∈ surroundings.registry.toList, command.isBuiltin = true)
    (nesting : Nat) (line : String) :
    (SessionM.enterWithin nesting line).Spreads surroundings 1 := by
  induction nesting generalizing line with
  | zero => rintro session outcome _ ⟨⟩
  | succ nesting inductionHypothesis =>
      rintro session outcome rfl reached
      exact enteredLines_le_of_entered builtins inductionHypothesis (entered_of_outcome reached)

end SessionM

open SessionM

/-- Where all commands are builtins a submitted line comes to an end, whatever the scripts of the
tree run.  With it no more lines are entered than one and, for each command that the limit allows,
as many as the longest text of the tree has. -/
theorem enteredLines_le {session : Session}
    (builtins : ∀ command ∈ session.registry.toList, command.isBuiltin = true)
    (idle : session.meter.depth = 0) (line : String) :
    ∃ outcome, (enter line).outcome session = some outcome ∧
      enteredLines outcome.journal ≤ 1 + session.limits.commands * session.tree.mostLines := by
  have nests : ∀ command ∈ session.registry.toList, command.entersLines = false :=
    fun command member => Command.entersLines_eq_false (builtins command member)
  obtain ⟨outcome, reached⟩ := enter_ends nests line
  refine ⟨outcome, reached, ?_⟩
  obtain ⟨nesting, entered⟩ := entered_of_enter reached
  have started : dispatches outcome.journal ≤ session.limits.commands := by
    simpa [outerLines_eq_one idle nests reached] using dispatches_le_mul_outerLines idle reached
  calc enteredLines outcome.journal
      ≤ 1 + session.tree.mostLines * dispatches outcome.journal :=
        enteredLines_le_of_entered builtins (Spreads.enterWithin builtins nesting) entered
    _ ≤ 1 + session.tree.mostLines * session.limits.commands :=
        Nat.add_le_add_left (Nat.mul_le_mul_left _ started) 1
    _ = 1 + session.limits.commands * session.tree.mostLines := by rw [Nat.mul_comm]

/-- A session whose only script runs itself twice, with an allowance of five commands. -/
def branchingSession : Session :=
  Config.session {
    layout := { entries := .file { name := "loop", content := .text "run loop\nrun loop" } .nil }
    limits := { commands := 5 } }

/-- Five commands with two lines each are started, and the line itself makes eleven. -/
theorem enteredLines_le_branching :
    (∀ command ∈ branchingSession.registry.toList, command.isBuiltin = true) ∧
    branchingSession.meter.depth = 0 ∧ branchingSession.tree.mostLines = 2 ∧
    ∃ outcome, (enter "run loop").outcome branchingSession = some outcome ∧
      enteredLines outcome.journal = 11 ∧ enteredLines outcome.journal ≤ 1 + 5 * 2 := by
  have builtins : ∀ command ∈ branchingSession.registry.toList, command.isBuiltin = true := by
    decide +kernel
  have most : branchingSession.tree.mostLines = 2 := by decide +kernel
  obtain ⟨outcome, reached, bound⟩ := enteredLines_le builtins rfl "run loop"
  rw [most] at bound
  have eleven : ((enter "run loop").outcome branchingSession).any (fun outcome =>
      enteredLines outcome.journal = 11) = true := by decide +kernel
  obtain ⟨other, same, counted⟩ := (Option.any_eq_true _ _).mp eleven
  obtain rfl := Option.some.inj (reached.symm.trans same)
  exact ⟨builtins, rfl, most, outcome, reached, of_decide_eq_true counted, bound⟩

end VirtualTerminal
