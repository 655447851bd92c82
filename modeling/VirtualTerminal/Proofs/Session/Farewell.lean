import VirtualTerminal.Proofs.Session.Failure

/-!
# Farewells

Of the builtins only those that call the host come back with a message, and it says goodbye.  So
where all commands are builtins, that is what every message of a line says.
-/

namespace VirtualTerminal

/-- A reply has no message but a farewell. -/
def IsFarewell (reply : Reply) : Prop :=
  ∀ message, reply = .ok (some message) → message = "Goodbye."

theorem isFarewell_nothing : IsFarewell .nothing := nofun

theorem isFarewell_goodbye : IsFarewell .goodbye := by
  rintro _ ⟨⟩
  rfl

theorem isFarewell_error (error : Error) : IsFarewell (.error error) := nofun

namespace SessionM

variable {α β : Type} {enter : String → SessionM Reply}

/-- Every value that a step comes back with is a good one. -/
def Gives (step : SessionM α) (good : α → Prop) : Prop :=
  ∀ session outcome, step.outcome session = some outcome → good outcome.value

theorem gives_pure {good : α → Prop} {value : α} (suits : good value) :
    (pure value : SessionM α).Gives good := by
  rintro _ _ ⟨⟩
  exact suits

/-- Only the last of two steps gives the value. -/
theorem gives_bind {good : β → Prop} {first : SessionM α} {next : α → SessionM β}
    (after : ∀ value, (next value).Gives good) : (first >>= next).Gives good := by
  intro session outcome reached
  obtain ⟨before, last, -, found, rfl⟩ := bind_outcome_eq_some_iff.mp reached
  exact after before.value before.session last found

theorem gives_nothing {first : SessionM α} : (first >>= fun _ => pure .nothing).Gives IsFarewell :=
  gives_bind fun _ => gives_pure isFarewell_nothing

theorem gives_goodbye {first : SessionM α} : (first >>= fun _ => pure .goodbye).Gives IsFarewell :=
  gives_bind fun _ => gives_pure isFarewell_goodbye

theorem gives_error {error : Error} : SessionM.Gives (pure (.error error)) IsFarewell :=
  gives_pure (isFarewell_error error)

theorem gives_runChangeDirectory (arguments : List String) :
    (runChangeDirectory arguments).Gives IsFarewell := by
  unfold runChangeDirectory
  split
  next path =>
    split
    next => exact gives_error
    next =>
      apply gives_bind
      intro result
      cases result with
      | ok => exact gives_pure isFarewell_nothing
      | error error => exact gives_error
  next => exact gives_error

theorem gives_runExit : runExit.Gives IsFarewell := by
  apply gives_bind
  intro handler
  cases handler with
  | none => exact gives_error
  | some effects => exact gives_goodbye

theorem gives_runRedirect (arguments : List String) :
    (runRedirect arguments).Gives IsFarewell := by
  unfold runRedirect
  split
  next path =>
    apply gives_bind
    intro handler
    cases handler with
    | none => exact gives_error
    | some effects => exact gives_goodbye
  next => exact gives_error

theorem gives_runConcatenate (arguments : List String) :
    (runConcatenate arguments).Gives IsFarewell := by
  unfold runConcatenate
  split
  next path => exact gives_bind fun _ => gives_nothing
  next => exact gives_error

/-- What the lines of a script come back with is dropped. -/
theorem gives_runFile (arguments : List String) : (runFile enter arguments).Gives IsFarewell := by
  unfold runFile
  split
  next => exact gives_error
  next path arguments =>
    apply gives_bind
    intro found
    rcases found with error | ⟨name, script | executable⟩
    · exact gives_error
    · apply gives_bind
      intro played
      cases played with
      | ok => exact gives_pure isFarewell_nothing
      | error error => exact gives_error
    · exact gives_bind fun _ => gives_nothing

theorem gives_runBuiltin (command : Command) (arguments : List String) (builtin : Builtin) :
    (runBuiltin enter command arguments builtin).Gives IsFarewell := by
  cases builtin with
  | changeDirectory => exact gives_runChangeDirectory arguments
  | help => exact gives_bind fun _ => gives_nothing
  | clear => exact gives_nothing
  | printDirectory => exact gives_bind fun _ => gives_nothing
  | list => exact gives_bind fun _ => gives_nothing
  | exit => exact gives_runExit
  | redirect => exact gives_runRedirect arguments
  | run => exact gives_runFile arguments
  | comment => exact gives_pure isFarewell_nothing
  | concatenate => exact gives_runConcatenate arguments

/-- Where all commands are builtins, every message of a line says goodbye. -/
theorem isFarewell_of_enter {session : Session} {line : String} {outcome : Outcome Reply}
    (builtins : ∀ command ∈ session.registry.toList, command.isBuiltin = true)
    (reached : (SessionM.enter line).outcome session = some outcome) :
    IsFarewell outcome.value := by
  obtain ⟨nesting, entered⟩ := entered_of_enter reached
  generalize outcome.value = reply at entered ⊢
  generalize outcome.journal = journal at entered
  cases entered with
  | uncalled _ remarked =>
      cases remarked with
      | unread => exact isFarewell_error _
      | blank => exact isFarewell_nothing
      | unknown => exact isFarewell_nothing
  | refused => exact isFarewell_error _
  | @handled command arguments handling called left handled =>
      have builtin := builtins command (Registry.mem_toList_of_called? called)
      obtain ⟨which, -, same⟩ := handle_eq_runBuiltin builtin
      rw [same] at handled
      exact gives_runBuiltin command arguments which _ handling handled

end SessionM

end VirtualTerminal
