import VirtualTerminal.Proofs.Session.Spread

/-!
# Habits

A habit is a property of steps that is handed on from steps to the step that takes them in turn.
Where all commands are builtins a line has a habit if the events that it may lead to do, save that
some habits forbid a look at what is typed.  That lines have a habit is proved here once for all
habits.
-/

namespace VirtualTerminal

/-- The executable of a file that is one. -/
def File.executable? (file : File) : Option Executable :=
  match file.content with
  | .text _ => none
  | .executable executable => some executable

/-- The executables among the files of a tree. -/
def FileTree.executables (tree : FileTree) : List Executable :=
  ((List.range tree.size).flatMap tree.files).filterMap File.executable?

theorem Session.mem_executables_of_findFile {session : Session} {path name : String}
    {executable : Executable}
    (found : session.findFile path = .ok { name := name, content := .executable executable }) :
    executable ∈ session.tree.executables := by
  obtain ⟨holder, valid, member⟩ := Session.mem_files_of_findFile found
  refine List.mem_filterMap.mpr ⟨_, List.mem_flatMap.mpr ⟨holder, ?_, member⟩, rfl⟩
  exact List.mem_range.mpr valid

/-- An event that neither clears the log nor calls a handler of the host. -/
def Event.isOrdinary : Event → Bool
  | .logCleared | .hostCalled _ => false
  | _ => true

/-- A view that shows nothing of the buffer, the history and the log. -/
def IsUntypedView {α : Type} (view : Session → α) : Prop :=
  ∀ session input history log,
    view { session with input := input, history := history, log := log } = view session

/-- A property of steps that are taken in sessions with certain surroundings. -/
structure Habit (surroundings : Surroundings) where
  Keeps : ∀ {α : Type}, SessionM α → Prop
  /-- What may happen. -/
  Allows : Event → Prop
  /-- The buffer and the length of the history may be looked at. -/
  showsTyping : Prop
  ordinary : ∀ {event}, event.isOrdinary = true → Allows event
  pure : ∀ {α : Type} (value : α), Keeps (Pure.pure value)
  bind : ∀ {α β : Type} {first : SessionM α} {next : α → SessionM β}, Keeps first →
    (∀ value, Keeps (next value)) → Keeps (first >>= next)
  read : ∀ {α β : Type} {view : Session → β} {next : β → SessionM α},
    IsUntypedView view ∨ showsTyping →
    (∀ session, session.toSurroundings = surroundings → Keeps (next (view session))) →
    Keeps (SessionM.read view >>= next)
  note : ∀ {event}, Allows event → Keeps (SessionM.note event)
  endless : ∀ {α : Type}, Keeps (SessionM.endless : SessionM α)

namespace Habit

variable {surroundings : Surroundings} (habit : Habit surroundings)

def AllowsEffect : Effect → Prop
  | .clear => habit.Allows .logCleared
  | .logState => habit.showsTyping
  | _ => True

def AllowsAction : Action → Prop
  | .greet => True
  | .effects effects => ∀ effect ∈ effects, habit.AllowsEffect effect

/-- What a builtin does by itself is allowed. -/
def AllowsBuiltin : Builtin → Prop
  | .clear => habit.Allows .logCleared
  | .exit => habit.Allows (.hostCalled .exit)
  | .redirect => ∀ path, habit.Allows (.hostCalled (.redirect path))
  | _ => True

/-- The builtin that a line calls, if it calls one, is allowed. -/
def AllowsLine (line : String) : Prop :=
  ∀ command arguments builtin, surroundings.registry.called? line = some (command, arguments) →
    command.handler = .builtin builtin → habit.AllowsBuiltin builtin

/-- All commands are builtins, and what the host and the files of the tree may do is allowed. -/
structure Suits : Prop where
  builtins : ∀ command ∈ surroundings.registry.toList, command.isBuiltin = true
  exit : ∀ effects ∈ surroundings.host.exit, ∀ effect ∈ effects, habit.AllowsEffect effect
  redirect : ∀ effects ∈ surroundings.host.redirect, ∀ effect ∈ effects, habit.AllowsEffect effect
  executables : ∀ executable ∈ surroundings.tree.executables, habit.AllowsAction executable.action
  texts : ∀ text ∈ surroundings.tree.texts, ∀ line ∈ Text.lines text, habit.AllowsLine line

section

variable {habit} {α β : Type}

theorem readUntyped {view : Session → β} {next : β → SessionM α} (blind : IsUntypedView view)
    (after : ∀ session, session.toSurroundings = surroundings →
      habit.Keeps (next (view session))) :
    habit.Keeps (SessionM.read view >>= next) :=
  habit.read (.inl blind) after

theorem note_bind {event : Event} {next : Unit → SessionM α} (allowed : habit.Allows event)
    (after : habit.Keeps (next ())) : habit.Keeps (SessionM.note event >>= next) :=
  habit.bind (habit.note allowed) fun _ => after

theorem fold {step : β → α → SessionM β} {items : List α}
    (each : ∀ value, ∀ item ∈ items, habit.Keeps (step value item)) (value : β) :
    habit.Keeps (SessionM.fold step value items) := by
  induction items generalizing value with
  | nil => exact habit.pure value
  | cons item items inductionHypothesis =>
      apply habit.bind (each value item List.mem_cons_self)
      exact inductionHypothesis fun value other member =>
        each value other (List.mem_cons_of_mem _ member)

end

/-! ### What executables and the host do -/

theorem logAll (lines : List String) : habit.Keeps (SessionM.logAll lines) :=
  habit.note (habit.ordinary rfl)

theorem log (line : String) : habit.Keeps (SessionM.log line) :=
  habit.logAll [line]

theorem changeDirectory (path : String) : habit.Keeps (SessionM.changeDirectory path) := by
  apply readUntyped fun _ _ _ _ => rfl
  intro session _
  cases session.findDirectory path with
  | error error => exact habit.pure _
  | ok id =>
      have changed : habit.Keeps (SessionM.setDirectory id) :=
        readUntyped (fun _ _ _ _ => rfl) fun _ _ => habit.note (habit.ordinary rfl)
      exact habit.bind changed fun _ => habit.pure _

theorem perform (arguments : List String) {effect : Effect} (allowed : habit.AllowsEffect effect) :
    habit.Keeps (SessionM.perform arguments effect) := by
  cases effect with
  | log text => exact habit.log text
  | logArguments separator => exact habit.log _
  | logDirectory => exact readUntyped (fun _ _ _ _ => rfl) fun _ _ => habit.log _
  | logState => exact habit.read (.inr allowed) fun _ _ => habit.log _
  | clear => exact habit.note allowed
  | changeDirectory path => exact habit.bind (habit.changeDirectory path) fun _ => habit.pure ()

theorem performAll (arguments : List String) {effects : List Effect}
    (allowed : ∀ effect ∈ effects, habit.AllowsEffect effect) :
    habit.Keeps (SessionM.performAll arguments effects) := by
  induction effects with
  | nil => exact habit.pure ()
  | cons effect effects inductionHypothesis =>
      rw [List.forall_mem_cons] at allowed
      exact habit.bind (habit.perform arguments allowed.1) fun _ => inductionHypothesis allowed.2

theorem act (arguments : List String) {action : Action} (allowed : habit.AllowsAction action) :
    habit.Keeps (SessionM.act arguments action) := by
  cases action with
  | greet => exact habit.logAll _
  | effects effects => exact habit.performAll arguments allowed

theorem callHost {call : HostCall} {effects : List Effect}
    (called : habit.Allows (.hostCalled call))
    (allowed : ∀ effect ∈ effects, habit.AllowsEffect effect) :
    habit.Keeps (SessionM.callHost call effects) := by
  refine note_bind called ?_
  cases call with
  | exit => exact habit.performAll [] allowed
  | redirect path => exact habit.performAll [path] allowed

/-! ### What builtins do -/

theorem runChangeDirectory (arguments : List String) :
    habit.Keeps (SessionM.runChangeDirectory arguments) := by
  unfold SessionM.runChangeDirectory
  split
  next path =>
    split
    next => exact habit.pure _
    next =>
      apply habit.bind (habit.changeDirectory path)
      intro result
      cases result <;> exact habit.pure _
  next => exact habit.pure _

theorem runConcatenate (arguments : List String) :
    habit.Keeps (SessionM.runConcatenate arguments) := by
  unfold SessionM.runConcatenate
  split
  next path =>
    apply readUntyped fun _ _ _ _ => rfl
    exact fun _ _ => habit.bind (habit.log _) fun _ => habit.pure _
  next => exact habit.pure _

section

variable {habit} (suits : habit.Suits)
include suits

theorem runExit (called : habit.Allows (.hostCalled .exit)) : habit.Keeps SessionM.runExit := by
  apply readUntyped fun _ _ _ _ => rfl
  intro session same
  cases handler : session.host.exit with
  | none => exact habit.pure _
  | some effects =>
      have allowed := suits.exit effects (same ▸ handler)
      exact habit.bind (habit.callHost called allowed) fun _ => habit.pure _

theorem runRedirect (called : ∀ path, habit.Allows (.hostCalled (.redirect path)))
    (arguments : List String) : habit.Keeps (SessionM.runRedirect arguments) := by
  unfold SessionM.runRedirect
  split
  next path =>
    apply readUntyped fun _ _ _ _ => rfl
    intro session same
    cases handler : session.host.redirect with
    | none => exact habit.pure _
    | some effects =>
        have allowed := suits.redirect effects (same ▸ handler)
        exact habit.bind (habit.callHost (called path) allowed) fun _ => habit.pure _
  next => exact habit.pure _

end

section

variable {habit} {enter : String → SessionM Reply}

theorem playScript {script : String} (lines : ∀ line ∈ Text.lines script, habit.Keeps (enter line)) :
    habit.Keeps (SessionM.playScript enter script) := by
  apply readUntyped fun _ _ _ _ => rfl
  intro session _
  apply note_bind (habit.ordinary rfl)
  apply habit.bind
  · refine fold (fun report line member => ?_) ({} : Report)
    exact habit.bind (lines line member) fun _ => habit.pure _
  · exact fun report => note_bind (habit.ordinary rfl) (habit.pure report)

theorem playNested {script : String} (lines : ∀ line ∈ Text.lines script, habit.Keeps (enter line)) :
    habit.Keeps (SessionM.playNested enter script) := by
  apply readUntyped fun _ _ _ _ => rfl
  intro session _
  cases session.meter.depthError? session.limits with
  | some limit => exact note_bind (habit.ordinary rfl) (habit.pure _)
  | none =>
      apply note_bind (habit.ordinary rfl)
      apply habit.bind (playScript lines)
      exact fun _ => note_bind (habit.ordinary rfl) (habit.pure _)

variable (suits : habit.Suits)
  (lines : ∀ line, habit.AllowsLine line → habit.Keeps (enter line))
include suits lines

theorem runFile (arguments : List String) : habit.Keeps (SessionM.runFile enter arguments) := by
  unfold SessionM.runFile
  split
  next => exact habit.pure _
  next path arguments =>
    apply readUntyped fun _ _ _ _ => rfl
    intro session same
    rcases found : session.findFile path with error | ⟨name, text | executable⟩
    · exact habit.pure _
    · have readable : session.findText path = .ok text := by
        rw [Session.findText, found]
      have among : text ∈ surroundings.tree.texts := same ▸ Session.mem_texts_of_findText readable
      apply habit.bind (playNested fun line member => lines line (suits.texts text among line member))
      intro played
      cases played <;> exact habit.pure _
    · have among : executable ∈ surroundings.tree.executables :=
        same ▸ Session.mem_executables_of_findFile found
      apply note_bind (habit.ordinary rfl)
      exact habit.bind (habit.act arguments (suits.executables executable among)) fun _ =>
        habit.pure _

theorem runBuiltin (command : Command) (arguments : List String) {builtin : Builtin}
    (allowed : habit.AllowsBuiltin builtin) :
    habit.Keeps (SessionM.runBuiltin enter command arguments builtin) := by
  cases builtin with
  | changeDirectory => exact habit.runChangeDirectory arguments
  | help =>
      apply readUntyped fun _ _ _ _ => rfl
      exact fun _ _ => habit.bind (habit.logAll _) fun _ => habit.pure _
  | clear => exact note_bind allowed (habit.pure _)
  | printDirectory =>
      apply readUntyped fun _ _ _ _ => rfl
      exact fun _ _ => habit.bind (habit.log _) fun _ => habit.pure _
  | list =>
      apply readUntyped fun _ _ _ _ => rfl
      exact fun _ _ => habit.bind (habit.logAll _) fun _ => habit.pure _
  | exit => exact runExit suits allowed
  | redirect => exact runRedirect suits allowed arguments
  | run => exact runFile suits lines arguments
  | comment => exact habit.pure _
  | concatenate => exact habit.runConcatenate arguments

/-! ### Lines -/

section

variable {line : String} (allowed : habit.AllowsLine line)
include allowed

theorem handle {command : Command} {arguments : List String}
    (called : surroundings.registry.called? line = some (command, arguments)) :
    habit.Keeps (SessionM.handle enter command arguments) := by
  have member := Registry.mem_toList_of_called? called
  obtain ⟨builtin, shape, same⟩ := SessionM.handle_eq_runBuiltin (suits.builtins command member)
  rw [same]
  exact runBuiltin suits lines command arguments (allowed command arguments builtin called shape)

theorem dispatch {command : Command} {arguments : List String}
    (called : surroundings.registry.called? line = some (command, arguments)) :
    habit.Keeps (SessionM.dispatch enter line command arguments) := by
  apply note_bind (habit.ordinary rfl)
  apply readUntyped fun _ _ _ _ => rfl
  intro session _
  cases session.meter.commandError? session.limits with
  | some limit => exact note_bind (habit.ordinary rfl) (habit.pure _)
  | none => exact note_bind (habit.ordinary rfl) (handle suits lines allowed called)

theorem interpret : habit.Keeps (SessionM.interpret enter line) := by
  unfold SessionM.interpret
  split
  next => exact habit.pure _
  next => exact habit.pure _
  next keyword arguments tokens =>
    apply readUntyped fun _ _ _ _ => rfl
    intro session same
    cases registered : session.registry.get? keyword with
    | none =>
        apply note_bind (habit.ordinary rfl)
        exact habit.bind (habit.log _) fun _ => habit.pure _
    | some command =>
        have called : surroundings.registry.called? line = some (command, arguments) := by
          simp only [Registry.called?, tokens, ← same, registered, Option.map_some]
        exact dispatch suits lines allowed called

/-- A line has a habit if those that it may enter do. -/
theorem enterStep : habit.Keeps (SessionM.enterStep enter line) := by
  have opened : habit.Keeps (SessionM.openLine line) := by
    apply note_bind (habit.ordinary rfl)
    exact readUntyped (fun _ _ _ _ => rfl) fun _ _ => habit.log _
  have closed : ∀ reply, habit.Keeps (SessionM.closeLine line reply) := by
    intro reply
    refine habit.bind ?_ fun _ => habit.note (habit.ordinary rfl)
    cases reply with
    | ok message => exact habit.pure ()
    | error error => exact note_bind (habit.ordinary rfl) (habit.log _)
  apply habit.bind opened
  intro _
  apply habit.bind (interpret suits lines allowed)
  exact fun reply => habit.bind (closed reply) fun _ => habit.pure reply

end

end

/-- Where a habit suits, every line has it that calls nothing that is forbidden. -/
theorem enterWithin {habit : Habit surroundings} (suits : habit.Suits) (nesting : Nat)
    {line : String} (allowed : habit.AllowsLine line) :
    habit.Keeps (SessionM.enterWithin nesting line) := by
  induction nesting generalizing line with
  | zero => exact habit.endless
  | succ nesting inductionHypothesis =>
      exact enterStep suits (fun _ other => inductionHypothesis other) allowed

end Habit

/-- In sessions with certain surroundings a step does not let an event happen. -/
def SessionM.Avoids {α : Type} (step : SessionM α) (surroundings : Surroundings) (event : Event) :
    Prop :=
  ∀ session outcome, session.toSurroundings = surroundings →
    step.outcome session = some outcome → event ∉ outcome.journal

/-- The habit of letting all happen but one event. -/
def Habit.avoiding (surroundings : Surroundings) (event : Event)
    (special : event.isOrdinary = false) : Habit surroundings where
  Keeps step := step.Avoids surroundings event
  Allows other := event ≠ other
  showsTyping := True
  ordinary := by
    rintro other ordinary rfl
    exact Bool.false_ne_true (special.symm.trans ordinary)
  pure := by
    rintro α value session _ - ⟨⟩
    exact List.not_mem_nil
  bind := by
    intro α β first next before after session outcome same reached
    obtain ⟨start, rest, started, ended, rfl⟩ := SessionM.bind_outcome_eq_some_iff.mp reached
    have later : start.session.toSurroundings = surroundings := by
      rw [SessionM.outcome_toSurroundings started, same]
    show event ∉ start.journal ++ rest.journal
    rw [List.mem_append, not_or]
    exact ⟨before session start same started, after start.value start.session rest later ended⟩
  read _ after session outcome same reached := after session same session outcome same reached
  note := by
    rintro other allowed session _ - ⟨⟩
    exact mt List.mem_singleton.mp allowed
  endless := by rintro α session _ - ⟨⟩

end VirtualTerminal
