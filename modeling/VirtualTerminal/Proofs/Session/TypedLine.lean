import VirtualTerminal.Proofs.Session.Habit
import VirtualTerminal.Proofs.Session.Log
import VirtualTerminal.Proofs.Session.Typing

/-!
# Typed lines and entered lines

What is typed loses its control characters on the way to the buffer.  The line that is left is
entered there, behind other text and with another history, which commands do not look at unless they
show them.  So it does what the whole line does when that is entered, provided that both split into
the same tokens.
-/

namespace VirtualTerminal

open SessionM

/-- An action shows the buffer and the length of the history. -/
def Action.showsTyping : Action → Bool
  | .greet => false
  | .effects steps => steps.contains .logState

/-- All commands are builtins, and neither the host nor a file of the tree shows what is typed. -/
structure Surroundings.HideTyping (surroundings : Surroundings) : Prop where
  builtins : ∀ command ∈ surroundings.registry.toList, command.isBuiltin = true
  exit : ∀ effects ∈ surroundings.host.exit, .logState ∉ effects
  redirect : ∀ effects ∈ surroundings.host.redirect, .logState ∉ effects
  executables : ∀ executable ∈ surroundings.tree.executables, executable.action.showsTyping = false

/-! ### Sessions that are alike -/

/-- The second session differs from the first in the buffer, the history and the log at most. -/
def Session.IsLike (first second : Session) : Prop :=
  ∃ input history log, second = { first with input := input, history := history, log := log }

namespace Session.IsLike

variable {first second : Session}

theorem toSurroundings (alike : first.IsLike second) :
    second.toSurroundings = first.toSurroundings := by
  obtain ⟨input, history, log, rfl⟩ := alike
  rfl

theorem apply (alike : first.IsLike second) (event : Event) :
    (first.apply event).IsLike (second.apply event) := by
  obtain ⟨input, history, log, rfl⟩ := alike
  cases event <;> exact ⟨_, _, _, rfl⟩

theorem replay (alike : first.IsLike second) (journal : List Event) :
    (first.replay journal).IsLike (second.replay journal) := by
  induction journal generalizing first second with
  | nil => exact alike
  | cons event journal inductionHypothesis => exact inductionHypothesis (alike.apply event)

theorem opened (alike : first.IsLike second) (line other : String) :
    (first.replay (first.opening line)).IsLike (second.replay (second.opening other)) := by
  obtain ⟨input, history, log, rfl⟩ := alike
  exact ⟨input, history, _, rfl⟩

theorem filled (alike : first.IsLike second) (text : String) :
    first.IsLike (second.filled text) := by
  obtain ⟨input, history, log, rfl⟩ := alike
  exact ⟨_, _, log, rfl⟩

theorem emptied (alike : first.IsLike second) : first.IsLike { second with input := "" } := by
  obtain ⟨input, history, log, rfl⟩ := alike
  exact ⟨"", history, log, rfl⟩

end Session.IsLike

namespace SessionM

/-- In sessions that are alike a step comes to the same value and journal. -/
def IgnoresTyping {α : Type} (step : SessionM α) (surroundings : Surroundings) : Prop :=
  ∀ first second outcome, first.toSurroundings = surroundings → first.IsLike second →
    step.outcome first = some outcome →
    step.outcome second = some {
      value := outcome.value
      session := second.replay outcome.journal
      journal := outcome.journal }

theorem IgnoresTyping.bind {α β : Type} {surroundings : Surroundings} {first : SessionM α}
    {next : α → SessionM β} (before : first.IgnoresTyping surroundings)
    (after : ∀ value, (next value).IgnoresTyping surroundings) :
    (first >>= next).IgnoresTyping surroundings := by
  intro session other outcome same alike reached
  obtain ⟨start, rest, started, ended, rfl⟩ := bind_outcome_eq_some_iff.mp reached
  have later : start.session.toSurroundings = surroundings := by
    rw [outcome_toSurroundings started, same]
  have alikeLater : start.session.IsLike (other.replay start.journal) := by
    rw [outcome_session started]
    exact alike.replay start.journal
  have here := before session other start same alike started
  have there := after start.value start.session _ rest later alikeLater ended
  rw [bind_outcome_of_reached here, there]
  simp [Outcome.after]

end SessionM

/-- The habit of taking no account of what is typed. -/
def Habit.ignoringTyping (surroundings : Surroundings) : Habit surroundings where
  Keeps step := step.IgnoresTyping surroundings
  Allows _ := True
  showsTyping := False
  ordinary _ := trivial
  pure := by
    rintro α value first second _ - - ⟨⟩
    rfl
  bind := IgnoresTyping.bind
  read := by
    rintro α β view next (blind | ⟨⟨⟩⟩) after first second outcome same alike reached
    have seen : view second = view first := by
      obtain ⟨input, history, log, rfl⟩ := alike
      exact blind first input history log
    rw [read_bind, seen]
    exact after first same first second outcome same alike reached
  note := by
    rintro event - first second _ - - ⟨⟩
    rfl
  endless := by rintro α first second _ - - ⟨⟩

namespace Surroundings.HideTyping

variable {surroundings : Surroundings}

theorem allowsEffect {effects : List Effect} (hidden : .logState ∉ effects) :
    ∀ effect ∈ effects, (Habit.ignoringTyping surroundings).AllowsEffect effect := by
  intro effect member
  cases effect with
  | logState => exact absurd member hidden
  | _ => trivial

theorem allowsLine (line : String) : (Habit.ignoringTyping surroundings).AllowsLine line := by
  intro command arguments builtin _ _
  cases builtin with
  | redirect => exact fun _ => trivial
  | _ => trivial

theorem suits (hide : surroundings.HideTyping) : (Habit.ignoringTyping surroundings).Suits where
  builtins := hide.builtins
  exit effects handler := allowsEffect (hide.exit effects handler)
  redirect effects handler := allowsEffect (hide.redirect effects handler)
  executables := by
    intro executable among
    have hidden := hide.executables executable among
    cases shape : executable.action with
    | greet => trivial
    | effects effects =>
        apply allowsEffect
        simpa [shape, Action.showsTyping] using hidden
  texts _ _ line _ := allowsLine line

end Surroundings.HideTyping

/-! ### Lines of the same tokens -/

/-- An event without the line that it tells of. -/
def Event.unlabelled : Event → Event
  | .lineEntered _ => .lineEntered ""
  | .commandDispatched keyword arguments _ => .commandDispatched keyword arguments ""
  | .lineLeft _ reply => .lineLeft "" reply
  | event => event

/-- A journal without the lines that its events tell of. -/
def unlabelled (journal : List Event) : List Event :=
  journal.map .unlabelled

@[simp]
theorem unlabelled_append (first second : List Event) :
    unlabelled (first ++ second) = unlabelled first ++ unlabelled second :=
  List.map_append

@[simp]
theorem hostCalls_unlabelled (journal : List Event) :
    hostCalls (unlabelled journal) = hostCalls journal := by
  have unseen : Event.hostCall? ∘ Event.unlabelled = Event.hostCall? := by
    funext event
    cases event <;> rfl
  rw [unlabelled, hostCalls, hostCalls, List.filterMap_map, unseen]

@[simp]
theorem Session.replay_unlabelled (session : Session) (journal : List Event) :
    session.replay (unlabelled journal) = session.replay journal := by
  induction journal generalizing session with
  | nil => rfl
  | cons event journal inductionHypothesis =>
      have same : session.apply event.unlabelled = session.apply event := by
        cases event <;> rfl
      rw [replay_cons, ← inductionHypothesis, ← same]
      rfl

@[simp]
theorem logCleared_mem_unlabelled (journal : List Event) :
    .logCleared ∈ unlabelled journal ↔ .logCleared ∈ journal := by
  have unseen : ∀ event : Event, event.unlabelled = .logCleared ↔ event = .logCleared := by
    intro event
    cases event <;> simp [Event.unlabelled]
  simp [unlabelled, unseen]

theorem Registry.called?_of_tokens {line other : String}
    (same : Line.tokens other = Line.tokens line) (registry : Registry) :
    registry.called? other = registry.called? line := by
  rw [called?, called?, same]

/-- What is said of a line that calls no command depends on its tokens alone. -/
theorem Uncalled.eq_of_tokens {registry : Registry} {line other : String} {reply answer : Reply}
    {remarks further : List Event} (same : Line.tokens other = Line.tokens line)
    (remarked : Uncalled registry line reply remarks)
    (remarkedToo : Uncalled registry other answer further) :
    answer = reply ∧ further = remarks := by
  cases remarked <;> cases remarkedToo <;> simp_all

namespace SessionM

theorem unlabelled_closing (line other : String) (reply : Reply) :
    unlabelled (closing other reply) = unlabelled (closing line reply) := by
  cases reply <;> rfl

variable {first second : Session} {line other : String}

/-- In the second session the step comes to the same value and journal as in the first. -/
def GoesAlike {α : Type} (step : SessionM α) (first second : Session) : Prop :=
  ∀ outcome, step.outcome first = some outcome →
    step.outcome second = some {
      value := outcome.value
      session := second.replay outcome.journal
      journal := outcome.journal }

section

variable {enter : String → SessionM Reply}

/-- In sessions that are alike, lines of the same tokens call the same command. -/
theorem interpret_outcome_of_tokens (alike : first.IsLike second)
    (same : Line.tokens other = Line.tokens line)
    (handles : ∀ command arguments,
      first.registry.called? line = some (command, arguments) →
      (handle enter command arguments).GoesAlike (first.apply .commandCounted)
        (second.apply .commandCounted))
    {read : Outcome Reply} (reached : (interpret enter line).outcome first = some read) :
    ∃ journal, (interpret enter other).outcome second = some {
        value := read.value
        session := second.replay journal
        journal := journal } ∧
      unlabelled journal = unlabelled read.journal := by
  have registry : second.registry = first.registry :=
    congrArg Surroundings.registry alike.toSurroundings
  have calls : second.registry.called? other = first.registry.called? line := by
    rw [registry, Registry.called?_of_tokens same]
  cases called : first.registry.called? line with
  | none =>
      obtain ⟨reply, remarks, here, remarked⟩ := interpret_outcome_of_not_called enter first called
      obtain ⟨answer, further, there, remarkedToo⟩ :=
        interpret_outcome_of_not_called enter second (calls.trans called)
      rw [registry] at remarkedToo
      obtain ⟨rfl, rfl⟩ := remarked.eq_of_tokens same remarkedToo
      cases here.symm.trans reached
      exact ⟨_, there, rfl⟩
  | some call =>
      obtain ⟨command, arguments⟩ := call
      rw [interpret_outcome_of_called first called] at reached
      rw [interpret_outcome_of_called second (calls.trans called)]
      have limits : second.limits = first.limits :=
        congrArg Surroundings.limits alike.toSurroundings
      have meter : second.meter = first.meter := by
        obtain ⟨input, history, log, rfl⟩ := alike
        rfl
      rcases Nat.lt_or_ge first.meter.commands first.limits.commands with left | spent
      · rw [dispatch_outcome_of_left first left] at reached
        obtain ⟨handling, handled, rfl⟩ := Option.map_eq_some_iff.mp reached
        have done := handles command arguments called handling handled
        rw [dispatch_outcome_of_left second (by rwa [limits, meter]), done]
        exact ⟨calling other command arguments ++ handling.journal, rfl, rfl⟩
      · rw [dispatch_outcome_of_spent first spent] at reached
        cases reached
        rw [dispatch_outcome_of_spent second (by rwa [limits, meter]), limits]
        exact ⟨_, rfl, rfl⟩

/-- Behind its echo a line does the same as one of the same tokens in a session that is alike. -/
theorem enterStep_outcome_of_tokens (alike : first.IsLike second)
    (same : Line.tokens other = Line.tokens line)
    (handles : ∀ command arguments,
      first.registry.called? line = some (command, arguments) →
      (handle enter command arguments).GoesAlike
        ((first.replay (first.opening line)).apply .commandCounted)
        ((second.replay (second.opening other)).apply .commandCounted))
    {entered : Outcome Reply} (reached : (enterStep enter line).outcome first = some entered) :
    ∃ rest further, entered.journal = first.opening line ++ rest ∧
      (enterStep enter other).outcome second = some {
        value := entered.value
        session := second.replay (second.opening other ++ further)
        journal := second.opening other ++ further } ∧
      unlabelled further = unlabelled rest := by
  rw [enterStep_outcome] at reached
  obtain ⟨reading, read, rfl⟩ := Option.map_eq_some_iff.mp reached
  obtain ⟨journal, done, told⟩ :=
    interpret_outcome_of_tokens (alike.opened line other) same handles read
  refine ⟨_, journal ++ closing other reading.value, rfl, ?_, ?_⟩
  · rw [enterStep_outcome, done, Option.map_some, Session.replay_append, Session.replay_append]
  · rw [unlabelled_append, unlabelled_append, told, unlabelled_closing]

end

/-- The same holds of lines as they are entered. -/
theorem enter_outcome_of_tokens (hide : first.toSurroundings.HideTyping)
    (alike : first.IsLike second) (same : Line.tokens other = Line.tokens line)
    {entered : Outcome Reply} (reached : (enter line).outcome first = some entered) :
    ∃ rest further, entered.journal = first.opening line ++ rest ∧
      (enter other).outcome second = some {
        value := entered.value
        session := second.replay (second.opening other ++ further)
        journal := second.opening other ++ further } ∧
      unlabelled further = unlabelled rest := by
  have nests : ∀ command ∈ second.registry.toList, command.entersLines = false := by
    intro command member
    rw [alike.toSurroundings] at member
    exact Command.entersLines_eq_false (hide.builtins command member)
  obtain ⟨last, ends⟩ := enter_ends nests other
  -- The bounds on open lines depend on the lines, so they are raised to a common one.
  obtain ⟨nesting, wide, wideToo⟩ : ∃ nesting,
      (enterWithin (nesting + 1) line).outcome first = some entered ∧
      (enterWithin (nesting + 1) other).outcome second = some last := by
    refine ⟨max (first.nestingBound line) (second.nestingBound other), ?_, ?_⟩
    · exact enterWithin_outcome_of_le (Nat.le_succ_of_le (Nat.le_max_left _ _))
        (enter_outcome first line ▸ reached)
    · exact enterWithin_outcome_of_le (Nat.le_succ_of_le (Nat.le_max_right _ _))
        (enter_outcome second other ▸ ends)
  have handles : ∀ command arguments, first.registry.called? line = some (command, arguments) →
      (handle (enterWithin nesting) command arguments).IgnoresTyping first.toSurroundings :=
    fun _ _ called => Habit.handle hide.suits
      (fun line _ => Habit.enterWithin hide.suits nesting (Surroundings.HideTyping.allowsLine line))
      (Surroundings.HideTyping.allowsLine line) called
  obtain ⟨rest, further, journal, done, told⟩ := enterStep_outcome_of_tokens alike same
    (fun command arguments called handling => handles command arguments called _ _ handling
      ((Session.apply_toSurroundings _ _).trans (first.replay_toSurroundings _))
      ((alike.opened line other).apply _)) wide
  refine ⟨rest, further, journal, ?_, told⟩
  rw [ends]
  exact wideToo.symm.trans done

end SessionM

/-! ### What a typed line leaves -/

/-- Typing says nothing to the host and leaves the log alone. -/
theorem untold_edits (text : String) :
    hostCalls (edits text) = [] ∧ .logCleared ∉ edits text := by
  constructor
  · simp [edits, hostCalls, Event.hostCall?, List.filterMap_map]
  · simp [edits]

/-- What was entered in a session and what was submitted in one that is alike have left the same but
for what is typed: the sessions are alike again, the host was called in the same way, and behind its
echo each of the lines has shown the same text. -/
structure LeavesAs (first second : Session) (line echo : String) (entered : Outcome Reply)
    (submitted : Outcome Unit) (text : String) : Prop where
  alike : entered.session.IsLike submitted.session
  empty : submitted.session.input = ""
  calls : hostCalls submitted.journal = hostCalls entered.journal
  cleared : .logCleared ∈ submitted.journal ↔ .logCleared ∈ entered.journal
  shown : ∃ rest, entered.journal = first.opening line ++ rest ∧ text = shown rest
  log_of_kept : .logCleared ∉ entered.journal →
    entered.session.log = first.log ++ (first.prompt ++ line ++ "\n") ++ text ∧
      submitted.session.log = second.log ++ (second.prompt ++ echo ++ "\n") ++ text
  log_of_cleared : .logCleared ∈ entered.journal →
    entered.session.log = text ∧ submitted.session.log = text

/-- The log behind a line that was shown. -/
theorem log_replay_opening (session : Session) (line : String) (rest : List Event) :
    (session.replay (session.opening line ++ rest)).log =
      if .logCleared ∈ rest then shown rest
      else session.log ++ (session.prompt ++ line ++ "\n") ++ shown rest := by
  rw [Session.replay_append, log_replay, foldl_writeLog]
  simp [Session.opening, Session.apply, String.append_assoc]

theorem hostCalls_opening (session : Session) (line : String) :
    hostCalls (session.opening line) = [] := rfl

theorem logCleared_mem_opening (session : Session) (line : String) (rest : List Event) :
    .logCleared ∈ session.opening line ++ rest ↔ .logCleared ∈ rest := by
  simp [Session.opening]

/-- A text that is typed on an empty buffer leaves what a line of the same tokens leaves. -/
theorem exists_leavesAs {first second : Session} {line text : String} {entered : Outcome Reply}
    (hide : first.toSurroundings.HideTyping) (alike : first.IsLike second)
    (empty : second.input = "") (same : Line.tokens (withoutControls text) = Line.tokens line)
    (reached : (enter line).outcome first = some entered) :
    ∃ submitted answer, (submit text).outcome second = some submitted ∧
      LeavesAs first second line (withoutControls text) entered submitted answer := by
  have filled := alike.filled text
  obtain ⟨rest, further, journal, done, told⟩ := enter_outcome_of_tokens hide filled same reached
  have left : entered.session = (first.replay (first.opening line)).replay rest := by
    rw [outcome_session reached, journal, Session.replay_append]
  have leftToo : (second.filled text).replay
      ((second.filled text).opening (withoutControls text) ++ further) =
        ((second.filled text).replay
          ((second.filled text).opening (withoutControls text))).replay rest := by
    rw [Session.replay_append, ← Session.replay_unlabelled _ further, told,
      Session.replay_unlabelled]
  have calls : hostCalls further = hostCalls rest := by
    rw [← hostCalls_unlabelled further, told, hostCalls_unlabelled]
  have cleared : .logCleared ∈ entered.journal ↔ .logCleared ∈ rest := by
    rw [journal, logCleared_mem_opening]
  have clearedToo : .logCleared ∈ further ↔ .logCleared ∈ rest := by
    rw [← logCleared_mem_unlabelled further, told, logCleared_mem_unlabelled]
  have log := log_replay_opening first line rest
  have logToo := log_replay_opening (second.filled text) (withoutControls text) rest
  rw [Session.replay_append, ← left] at log
  rw [Session.replay_append, ← leftToo] at logToo
  obtain ⟨silent, untouched⟩ := untold_edits text
  refine ⟨_, shown rest, by rw [submit_outcome_of_empty empty, done, Option.map_some], ?_⟩
  exact {
    alike := by
      rw [left, leftToo]
      exact ((filled.opened line (withoutControls text)).replay rest).emptied
    empty := rfl
    calls := by
      have emptied : hostCalls [.inputChanged ""] = [] := rfl
      simp only [journal, hostCalls_append, silent, calls, hostCalls_opening, emptied,
        List.nil_append, List.append_nil]
    cleared := by
      rw [cleared, ← clearedToo]
      simp [untouched, Session.opening]
    shown := ⟨rest, journal, rfl⟩
    log_of_kept := by
      intro kept
      rw [if_neg (mt cleared.mpr kept)] at log logToo
      exact ⟨log, logToo⟩
    log_of_cleared := by
      intro happened
      rw [if_pos (cleared.mp happened)] at log logToo
      exact ⟨log, logToo⟩ }

end VirtualTerminal
