import VirtualTerminal.Proofs.FileTree.Lookup
import VirtualTerminal.Proofs.Session.Outcome

/-!
# Why builtins fail

A builtin checks all that it needs before it acts.  Where it fails it cannot take its arguments, the
host has set no handler for it, a path leads nowhere or one script too many would be open; and it
has done nothing yet but reach a limit.
-/

namespace VirtualTerminal

namespace Builtin

/-- What a builtin says of arguments that it cannot take. -/
def usage? : Builtin → Option String
  | .changeDirectory | .concatenate => some "Exactly 1 parameter required."
  | .redirect => some "1 parameter required. ($ help redirect)"
  | .run => some "At least 1 parameter required. ($ help run)"
  | _ => none

/-- What a builtin says where the host has set no handler for it. -/
def unset? : Builtin → Option String
  | .exit => some "No onExit function provided."
  | .redirect => some "No redirect handler available on page."
  | _ => none

/-- Why a builtin fails, and what it leaves in the journal. -/
inductive Refusal (limits : Limits) (builtin : Builtin) : Error → List Event → Prop
  | usage {reason : String} (usage : builtin.usage? = some reason) :
      Refusal limits builtin (.usage reason) []
  | unset {reason : String} (unset : builtin.unset? = some reason) :
      Refusal limits builtin (.configuration reason) []
  | lost {reason : PathError} (lookup : reason.IsOfLookup) :
      Refusal limits builtin (.path reason) []
  | full :
      Refusal limits builtin (.limit (.depth limits.depth)) [.limitReached (.depth limits.depth)]

theorem Refusal.of_mapError {limits : Limits} {builtin : Builtin} {α : Type}
    {result : Except PathError α} {error : Error}
    (lookup : ∀ reason, result = .error reason → reason.IsOfLookup)
    (failed : result.mapError .path = .error error) : builtin.Refusal limits error [] := by
  cases result with
  | ok value => cases failed
  | error reason =>
      cases failed
      exact .lost (lookup reason rfl)

end Builtin

namespace SessionM

/-- Where a step fails in a session, it fails as a builtin does. -/
def FailsAs (step : SessionM Reply) (builtin : Builtin) (session : Session) : Prop :=
  ∀ outcome error, step.outcome session = some outcome → outcome.value = .error error →
    builtin.Refusal session.limits error outcome.journal

variable {builtin : Builtin} {session : Session}

theorem failsAs_error {error : Error} (refusal : builtin.Refusal session.limits error []) :
    FailsAs (pure (.error error)) builtin session := by
  rintro _ _ ⟨⟩ ⟨⟩
  exact refusal

/-- A step that ends well does not fail, whatever it has done before. -/
theorem failsAs_bind_ok {α : Type} (step : SessionM α) (message : Option String) :
    FailsAs (step >>= fun _ => pure (.ok message)) builtin session := by
  intro outcome error reached failed
  rw [bind_outcome] at reached
  obtain ⟨before, _, ending⟩ := Option.bind_eq_some_iff.mp reached
  cases ending
  cases failed

theorem failsAs_runChangeDirectory (arguments : List String) :
    (runChangeDirectory arguments).FailsAs .changeDirectory session := by
  unfold runChangeDirectory
  split
  next path =>
    split
    next => exact failsAs_error (.usage rfl)
    next =>
      intro outcome error reached failed
      cases found : session.findDirectory path with
      | ok id =>
          rw [bind_outcome, changeDirectory_outcome_of_found found] at reached
          cases reached
          cases failed
      | error reason =>
          rw [bind_outcome, changeDirectory_outcome_of_missing found] at reached
          cases reached
          cases failed
          exact .of_mapError (fun _ => FileTree.findDirectory_isOfLookup) found
  next => exact failsAs_error (.usage rfl)

theorem failsAs_runExit : runExit.FailsAs .exit session := by
  unfold runExit FailsAs
  rw [read_bind]
  cases session.host.exit with
  | none => exact failsAs_error (.unset rfl)
  | some effects => exact failsAs_bind_ok (callHost .exit effects) _

theorem failsAs_runRedirect (arguments : List String) :
    (runRedirect arguments).FailsAs .redirect session := by
  unfold runRedirect
  split
  next path =>
    unfold FailsAs
    rw [read_bind]
    cases session.host.redirect with
    | none => exact failsAs_error (.unset rfl)
    | some effects => exact failsAs_bind_ok (callHost (.redirect path) effects) _
  next => exact failsAs_error (.usage rfl)

theorem failsAs_runConcatenate (arguments : List String) :
    (runConcatenate arguments).FailsAs .concatenate session := by
  unfold runConcatenate
  split
  next path => exact failsAs_bind_ok (read (·.findText path) >>= fun text => log _) _
  next => exact failsAs_error (.usage rfl)

/-- A script that is played at all is played to its end; what its lines come to is no failure. -/
theorem failsAs_runFile (enter : String → SessionM Reply) (arguments : List String) :
    (runFile enter arguments).FailsAs .run session := by
  unfold runFile
  split
  next => exact failsAs_error (.usage rfl)
  next path arguments =>
    unfold FailsAs
    rw [read_bind]
    rcases found : session.findFile path with reason | ⟨name, script | executable⟩
    · exact failsAs_error (.of_mapError (fun _ => FileTree.findFile_isOfLookup) found)
    · intro outcome error reached failed
      rw [bind_outcome] at reached
      rcases Nat.lt_or_ge session.meter.depth session.limits.depth with room | full
      · rw [playNested_outcome_of_room room, Option.bind_map] at reached
        obtain ⟨played, _, ending⟩ := Option.bind_eq_some_iff.mp reached
        cases ending
        cases failed
      · rw [playNested_outcome_of_full full] at reached
        cases reached
        cases failed
        exact .full
    · exact failsAs_bind_ok (note (.executableRun path) >>= fun _ =>
        act arguments executable.action) none

theorem failsAs_runBuiltin (enter : String → SessionM Reply) (command : Command)
    (arguments : List String) (builtin : Builtin) :
    (runBuiltin enter command arguments builtin).FailsAs builtin session := by
  cases builtin with
  | changeDirectory => exact failsAs_runChangeDirectory arguments
  | help => exact failsAs_bind_ok (read (·.registry) >>= fun registry => logAll _) none
  | clear => exact failsAs_bind_ok clear none
  | printDirectory => exact failsAs_bind_ok (read (·.directoryPath) >>= fun path => log path) none
  | list => exact failsAs_bind_ok (read _ >>= fun names => logAll _) none
  | exit => exact failsAs_runExit
  | redirect => exact failsAs_runRedirect arguments
  | run => exact failsAs_runFile enter arguments
  | comment => exact failsAs_bind_ok (pure ()) none
  | concatenate => exact failsAs_runConcatenate arguments

end SessionM

end VirtualTerminal
