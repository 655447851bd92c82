import VirtualTerminal.Proofs.Session.Depth
import VirtualTerminal.Proofs.Session.Refusal
import VirtualTerminal.Proofs.Session.Termination

/-!
# Lines that fail

Where a builtin fails it has done nothing, so the line that called it has changed no more than the
log and the meter.
-/

namespace VirtualTerminal

/-- Whether a command is one of the builtins. -/
def Command.isBuiltin (command : Command) : Bool :=
  match command.handler with
  | .builtin _ => true
  | .directives _ => false

theorem Command.entersLines_eq_false {command : Command} (builtin : command.isBuiltin = true) :
    command.entersLines = false := by
  unfold Command.isBuiltin at builtin
  unfold Command.entersLines
  cases shape : command.handler with
  | builtin which => rfl
  | directives directives =>
      rw [shape] at builtin
      cases builtin

/-- A command that is one of the builtins does what that builtin does. -/
theorem SessionM.handle_eq_runBuiltin {command : Command} (builtin : command.isBuiltin = true) :
    ∃ which, command.handler = .builtin which ∧ ∀ enter arguments,
      handle enter command arguments = runBuiltin enter command arguments which := by
  unfold Command.isBuiltin at builtin
  cases shape : command.handler with
  | builtin which => exact ⟨which, rfl, fun enter arguments => by rw [handle, shape]⟩
  | directives directives =>
      rw [shape] at builtin
      cases builtin

/-- A reason why a builtin may fail. -/
def Error.IsOfBuiltin : Error → Prop
  | .commandNotFound _ => False
  | .path error => error.IsOfLookup
  | _ => True

theorem Builtin.Refusal.isOfBuiltin {limits : Limits} {builtin : Builtin} {error : Error}
    {journal : List Event} (refusal : builtin.Refusal limits error journal) :
    error.IsOfBuiltin := by
  cases refusal with
  | lost lookup => exact lookup
  | _ => trivial

/-- What the journal tells of counting commands and reaching limits. -/
def Event.IsMetering : Event → Prop
  | .commandCounted | .commandDispatched .. | .limitReached _ => True
  | _ => False

theorem Session.replay_of_metering (session : Session) {journal : List Event}
    (metering : ∀ event ∈ journal, event.IsMetering) :
    ∃ commands, session.replay journal =
      { session with meter := { session.meter with commands := commands } } := by
  induction journal generalizing session with
  | nil => exact ⟨session.meter.commands, rfl⟩
  | cons event journal inductionHypothesis =>
      have now := metering event (List.mem_cons_self ..)
      obtain ⟨commands, later⟩ := inductionHypothesis (session.apply event)
        fun other member => metering other (List.mem_cons_of_mem _ member)
      refine ⟨commands, ?_⟩
      rw [Session.replay_cons, later]
      cases event with
      | commandCounted => rfl
      | commandDispatched keyword arguments line => rfl
      | limitReached limit => rfl
      | _ => exact now.elim

/-- A line that fails with nothing but metering behind its echo changes the log and the meter. -/
theorem Session.replay_of_failed (session : Session) {metering : List Event}
    (quiet : ∀ event ∈ metering, event.IsMetering) (line : String) (error : Error) :
    ∃ commands,
      session.replay (session.opening line ++ metering ++ closing line (.error error)) =
        { session with
          log := session.log ++ (session.prompt ++ line) ++ "\n" ++ error.message ++ "\n"
          meter := { session.meter with commands := commands } } := by
  obtain ⟨commands, metered⟩ :=
    Session.replay_of_metering (session.replay (session.opening line)) quiet
  have depth : { session.meter.atLine with commands := commands } =
      { session.meter with commands := commands } := by
    unfold Meter.atLine
    split <;> rfl
  refine ⟨commands, ?_⟩
  rw [Session.replay_append, Session.replay_append, metered, ← depth]
  rfl

open SessionM

/-- Why a line fails that calls a builtin if it calls anything, and what happens between its echo
and the reason. -/
inductive Failing (session : Session) (line : String) : Error → List Event → Prop
  | unread (unread : Line.tokens? line = none) : Failing session line .unterminatedQuote []
  | spent {command : Command} {arguments : List String}
      (called : session.registry.called? line = some (command, arguments))
      (spent : session.limits.commands ≤ session.meter.atLine.commands) :
      Failing session line session.spent
        [.commandCounted, .limitReached (.commands session.limits.commands)]
  | refused {command : Command} {arguments : List String} {builtin : Builtin} {error : Error}
      {handling : List Event}
      (called : session.registry.called? line = some (command, arguments))
      (left : session.meter.atLine.commands < session.limits.commands)
      (shape : command.handler = .builtin builtin)
      (refusal : builtin.Refusal session.limits error handling) :
      Failing session line error (calling line command arguments ++ handling)

theorem failing_of_entered {enter : String → SessionM Reply} {session : Session} {line : String}
    {reply : Reply} {journal : List Event} {error : Error}
    (builtins : ∀ command ∈ session.registry.toList, command.isBuiltin = true)
    (entered : Entered enter session line reply journal) (failed : reply = .error error) :
    ∃ between, Failing session line error between ∧
      journal = session.opening line ++ between ++ closing line reply := by
  cases entered with
  | @uncalled reply remarks _ remarked =>
      cases remarked with
      | unread unread =>
          cases failed
          unfold Line.tokens at unread
          split at unread
          next => cases unread
          next unclosed =>
            cases unread
            exact ⟨[], .unread unclosed, by simp⟩
      | blank => cases failed
      | unknown => cases failed
  | refused called spent =>
      cases failed
      exact ⟨_, .spent called spent, rfl⟩
  | @handled command arguments handling called left handled =>
      have builtin := builtins command (Registry.mem_toList_of_called? called)
      obtain ⟨which, shape, same⟩ := handle_eq_runBuiltin builtin
      rw [same] at handled
      have refusal := failsAs_runBuiltin enter command arguments which handling error handled failed
      rw [Session.replay_toSurroundings] at refusal
      refine ⟨_, .refused called left shape refusal, ?_⟩
      simp only [List.append_assoc]

namespace Failing

variable {session : Session} {line : String} {error : Error} {between : List Event}

theorem isOfBuiltin (failing : Failing session line error between) : error.IsOfBuiltin := by
  cases failing with
  | refused _ _ _ refusal => exact refusal.isOfBuiltin
  | _ => trivial

theorem isMetering (failing : Failing session line error between) :
    ∀ event ∈ between, event.IsMetering := by
  cases failing with
  | refused _ _ _ refusal => cases refusal <;> simp [calling, Event.IsMetering]
  | _ => simp [Event.IsMetering]

end Failing

/-- Between the echo of a line that fails and the reason there is nothing but metering. -/
theorem failed_of_entered {enter : String → SessionM Reply} {session : Session} {line : String}
    {reply : Reply} {journal : List Event} {error : Error}
    (builtins : ∀ command ∈ session.registry.toList, command.isBuiltin = true)
    (entered : Entered enter session line reply journal) (failed : reply = .error error) :
    error.IsOfBuiltin ∧ ∃ metering, (∀ event ∈ metering, event.IsMetering) ∧
      journal = session.opening line ++ metering ++ closing line reply := by
  obtain ⟨between, failing, whole⟩ := failing_of_entered builtins entered failed
  exact ⟨failing.isOfBuiltin, between, failing.isMetering, whole⟩

/-- Where all commands are builtins a line comes to an end, at whatever depth it is entered.  If it
fails, its echo and the reason are logged, the count of commands may have moved, and nothing else
has changed; no handler of the host and no executable was called; and the reason is neither an
unknown keyword nor a file of the wrong kind. -/
theorem failure_changes_log_only {session : Session}
    (builtins : ∀ command ∈ session.registry.toList, command.isBuiltin = true) (line : String) :
    (∃ outcome, (enter line).outcome session = some outcome) ∧
    ∀ outcome error,
      ((enter line).outcome session = some outcome ∨
        ∃ nesting, (enterWithin nesting line).outcome session = some outcome) →
      outcome.value = .error error →
      outcome.session = { session with
        log := session.log ++ (session.prompt ++ line) ++ "\n" ++ error.message ++ "\n"
        meter := { session.meter with commands := outcome.session.meter.commands } } ∧
      (∀ call, .hostCalled call ∉ outcome.journal) ∧
      (∀ path, .executableRun path ∉ outcome.journal) ∧
      (∀ keyword, error ≠ .commandNotFound keyword) ∧
      (∀ path, error ≠ .path (.notText path)) ∧
      (∀ path, error ≠ .path (.notExecutable path)) := by
  have nests : ∀ command ∈ session.registry.toList, command.entersLines = false :=
    fun command member => Command.entersLines_eq_false (builtins command member)
  refine ⟨enter_ends nests line, ?_⟩
  intro outcome error reached failed
  obtain ⟨nesting, reached⟩ :
      ∃ nesting, (enterWithin nesting line).outcome session = some outcome := by
    rcases reached with typed | nested
    · rw [enter_outcome] at typed
      exact ⟨_, typed⟩
    · exact nested
  cases nesting with
  | zero => cases reached
  | succ nesting =>
      obtain ⟨plain, metering, quiet, journal⟩ :=
        failed_of_entered builtins (entered_of_outcome reached) failed
      rw [failed] at journal
      obtain ⟨commands, whole⟩ := session.replay_of_failed quiet line error
      refine ⟨?_, ?_, ?_, ?_, ?_, ?_⟩
      · rw [outcome_session reached, journal, whole]
      · intro call member
        have inside : .hostCalled call ∈ metering := by
          simpa [journal, Session.opening, closing, failure] using member
        exact quiet _ inside
      · intro path member
        have inside : .executableRun path ∈ metering := by
          simpa [journal, Session.opening, closing, failure] using member
        exact quiet _ inside
      · rintro keyword rfl
        exact plain
      · rintro path rfl
        exact plain
      · rintro path rfl
        exact plain

/-- The session whose only script runs itself, three scripts deep. -/
def deepSession : Session :=
  { loopingSession with meter := { depth := 3, commands := 3 } }

/-- Three scripts deep the script cannot be run again. -/
theorem failure_changes_log_only_deep :
    (∀ command ∈ deepSession.registry.toList, command.isBuiltin = true) ∧
    ∃ outcome, (enter "run loop").outcome deepSession = some outcome ∧
      outcome.value = .error (.limit (.depth 3)) ∧
      outcome.session = { deepSession with
        log := deepSession.log ++ (deepSession.prompt ++ "run loop") ++ "\n" ++
          "resource limit exceeded: maximum script depth exceeded (3)" ++ "\n"
        meter := { depth := 3, commands := 4 } } := by
  have builtins : ∀ command ∈ deepSession.registry.toList, command.isBuiltin = true := by
    decide +kernel
  have ends : ((enter "run loop").outcome deepSession).any (fun outcome =>
      outcome.value = .error (.limit (.depth 3)) ∧
        outcome.session.meter.commands = 4) = true := by decide +kernel
  obtain ⟨outcome, reached, failed⟩ := (Option.any_eq_true _ _).mp ends
  obtain ⟨failed, counted⟩ := of_decide_eq_true failed
  refine ⟨builtins, outcome, reached, failed, ?_⟩
  have changed :=
    ((failure_changes_log_only builtins "run loop").2 outcome _ (.inl reached) failed).1
  rw [counted] at changed
  exact changed

end VirtualTerminal
