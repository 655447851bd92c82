import VirtualTerminal.Proofs.Session.Allowance
import VirtualTerminal.Proofs.Session.Coupling

/-!
# What earlier requests leave over

Only a line outside nested scripts gives the commands back.  A script that the host starts as a
nested one has no such line in front of it, so its commands are counted behind those of the request
before, and it can spend what is left over.  It does not see more of the count than that: as long as
it reaches no limit of commands, it does the same in a session that has counted fewer.
-/

namespace VirtualTerminal

open SessionM

/-- A session with another count of commands. -/
def Session.counting (session : Session) (commands : Nat) : Session :=
  { session with meter := { session.meter with commands := commands } }

/-- What the host may ask for that plays a text as a nested script: to play it, or to call the
builtin that runs files on a file with that text. -/
inductive Request.PlaysNested (session : Session) (script : String) : Request → Prop
  | nestedScript : PlaysNested session script (.nestedScript script)
  | call {keyword path : String} {further : List String} {command : Command}
      (registered : session.registry.get? keyword = some command)
      (builtin : command.handler = .builtin .run) (found : session.findText path = .ok script) :
      PlaysNested session script (.call keyword (path :: further))

/-- A session beside one that has counted no more commands, where the first reaches no limit of
commands. -/
def Coupling.spared : Coupling where
  Alike first second := ∃ commands ≤ first.meter.commands, second = first.counting commands
  Admits event := ∀ max, event ≠ .limitReached (.commands max)
  depth := id
  same := by rintro first _ ⟨commands, -, rfl⟩; exact ⟨_, _, _, rfl⟩
  depth_eq := by rintro first _ ⟨commands, -, rfl⟩; rfl
  room := by rintro first _ ⟨commands, -, rfl⟩ room; exact room
  left := by
    rintro first _ ⟨commands, fewer, rfl⟩ left
    exact Nat.lt_of_le_of_lt fewer left
  full := by rintro first _ ⟨commands, -, rfl⟩ - full; exact ⟨rfl, full⟩
  spent _ unspent := absurd rfl (unspent _)
  apply := by
    rintro first _ event ⟨commands, fewer, rfl⟩ -
    cases event with
    | commandCounted => exact ⟨commands + 1, Nat.succ_le_succ fewer, rfl⟩
    | lineEntered line =>
        by_cases outside : first.meter.depth = 0
        · refine ⟨0, Nat.zero_le _, ?_⟩
          simp [Session.apply, Session.counting, Meter.atLine, Meter.reset, outside]
        · refine ⟨commands, ?_, ?_⟩ <;>
            simp [Session.apply, Session.counting, Meter.atLine, outside, fewer]
    | _ => exact ⟨commands, fewer, rfl⟩

namespace SessionM

theorem couples_enter_spared (line : String) : (enter line).Couples .spared (enter line) := by
  apply couples_enter_of_le
  rintro first _ ⟨commands, -, rfl⟩
  exact Nat.le_refl _

/-- Whatever the commands of a session do, a nested script comes to an end. -/
theorem playNested_ends (session : Session) (script : String) :
    ∃ outcome, (playNested enter script).outcome session = some outcome := by
  have lines := Course.follows_enter_returning session.toSurroundings
  obtain ⟨journal, found, -⟩ := Course.follows_playNested_returning lines script session rfl
    (Nat.zero_le _) (Nat.zero_le _)
  obtain ⟨outcome, reached, -⟩ := journal?_eq_some_iff.mp found
  exact ⟨outcome, reached⟩

/-- Running a text file is playing its text, and that it was played is no message. -/
theorem runFile_outcome_of_text {enter : String → SessionM Reply} {session : Session}
    {path script : String} (found : session.findText path = .ok script) (further : List String) :
    (runFile enter (path :: further)).outcome session =
      ((playNested enter script).outcome session).map fun played => {
        value := played.value.map fun _ => none
        session := played.session
        journal := played.journal } := by
  obtain ⟨name, file⟩ := Session.findFile_of_findText found
  simp only [runFile, read_bind, file, ← bind_pure_outcome]
  congr 2
  funext played
  cases played <;> rfl

end SessionM

/-- A request that plays a nested script does so and no more, and the report is all that its answer
depends on. -/
theorem Request.PlaysNested.perform_outcome {session : Session} {script : String}
    {request : Request} (plays : request.PlaysNested session script) :
    ∃ answer : Except Error Report → Answer, ∀ commands,
      request.perform.outcome (session.counting commands) =
        ((playNested enter script).outcome (session.counting commands)).map fun played => {
          value := answer played.value
          session := played.session
          journal := played.journal } := by
  cases plays with
  | nestedScript =>
      refine ⟨.nestedReport, fun commands => ?_⟩
      rw [perform, map_eq_pure_bind, bind_pure_outcome]
  | @call keyword path further command registered builtin found =>
      refine ⟨fun played => .reply (played.map fun _ => none), fun commands => ?_⟩
      have here : (session.counting commands).registry.get? keyword = some command := registered
      have readable : (session.counting commands).findText path = .ok script := found
      have handled : handle enter command (path :: further) = runFile enter (path :: further) := by
        rw [handle, builtin]
        rfl
      rw [perform, read_bind, here]
      simp only [handled, map_eq_pure_bind, bind_pure_outcome, runFile_outcome_of_text readable,
        Option.map_map]
      rfl

/-- Each command of a nested script is counted behind those before it, and what is counted decides
whether it is handled. -/
theorem decided_of_playNested {session : Session} {script : String}
    {played : Outcome (Except Error Report)}
    (reached : (playNested enter script).outcome session = some played)
    {past rest : List Event} {line : String} {command : Command} {arguments : List String}
    (split : played.journal = past ++ .lineEntered line :: rest)
    (called : session.registry.called? line = some (command, arguments)) :
    if session.meter.commands + session.registry.attempts past < session.limits.commands then
      Handled (session.replay past) line command arguments rest
    else Refused (session.replay past) line rest := by
  have lines : ∀ line, (enter line).Follows .metered := by
    intro line now
    rw [journal?, enter_outcome]
    exact Course.follows_enterWithin_metered _ line now
  have metered : Metered session played.journal :=
    Course.admits_of_outcome (Course.metered_admitsScripts.follows_playNested lines script) reached
  have balanced := Course.balanced_isLocal.follows_enter
  have inside : Inside session played.journal :=
    Course.admits_of_outcome (Course.follows_playNested_inside balanced script) reached
  have deep := Throughout.iff_forall_split.mp inside past _ rest split line rfl
  have decided := Throughout.iff_forall_split.mp metered.decided past _ rest split line command
    arguments rfl (by rw [Session.replay_toSurroundings, called])
  rw [split] at inside
  have counted := commands_replay (inside.left fun _ _ _ _ holds => holds)
  rwa [Meter.atLine, if_neg (Nat.ne_of_gt deep), counted, ← metered.tallied.attempts_eq split,
    Session.replay_toSurroundings] at decided

/-- A script that the host starts as a nested one, be it by calling the builtin that runs files, comes
to an end whatever was counted before.  Of the lines that call a command just those are handled whose
number, counted on from there, is within the limit.  If no limit of commands is reached, the same
comes of it after fewer commands: it is answered in the same way, its journal is the same, and so is
the session but for the count. -/
theorem nested_scripts_share_allowance {session : Session} {script : String} {request : Request}
    (plays : request.PlaysNested session script) (commands : Nat) :
    ∃ outcome, request.perform.outcome (session.counting commands) = some outcome ∧
      (∀ past line rest command arguments,
        outcome.journal = past ++ .lineEntered line :: rest →
        session.registry.called? line = some (command, arguments) →
        let now := (session.counting commands).replay past
        let number := commands + session.registry.attempts past + 1
        (Handled now line command arguments rest ↔ number ≤ session.limits.commands) ∧
        (Refused now line rest ↔ session.limits.commands < number)) ∧
      ((∀ max, .limitReached (.commands max) ∉ outcome.journal) →
        ∀ fewer ≤ commands, ∃ count,
          request.perform.outcome (session.counting fewer) = some {
            value := outcome.value
            session := outcome.session.counting count
            journal := outcome.journal }) := by
  obtain ⟨answer, performs⟩ := plays.perform_outcome
  obtain ⟨played, reached⟩ := playNested_ends (session.counting commands) script
  refine ⟨_, by rw [performs, reached, Option.map_some], ?_, ?_⟩
  · intro past line rest command arguments split called now number
    have decided : if commands + session.registry.attempts past < session.limits.commands then
        Handled now line command arguments rest else Refused now line rest :=
      decided_of_playNested reached split called
    rcases Nat.lt_or_ge (commands + session.registry.attempts past) session.limits.commands with
      left | spent
    · have handled : Handled now line command arguments rest := by rwa [if_pos left] at decided
      refine ⟨⟨fun _ => left, fun _ => handled⟩, fun refused => ?_, fun exceeded => ?_⟩
      · exact absurd handled (not_handled_of_refused refused)
      · exact absurd left (Nat.not_lt_of_le (Nat.le_of_lt_succ exceeded))
    · have refused : Refused now line rest := by rwa [if_neg (Nat.not_lt_of_le spent)] at decided
      refine ⟨⟨fun handled => ?_, fun within => ?_⟩, fun _ => Nat.lt_succ_of_le spent,
        fun _ => refused⟩
      · exact absurd handled (not_handled_of_refused refused)
      · exact absurd within (Nat.not_lt_of_le spent)
  · intro unspent fewer less
    have alike : Coupling.spared.Alike (session.counting commands) (session.counting fewer) :=
      ⟨fewer, less, rfl⟩
    have balanced := Course.balanced_isLocal.follows_enter
    obtain ⟨result, done, value, journal, count, -, same⟩ :=
      couples_playNested couples_enter_spared balanced script _ _ alike played reached
        fun event member max limit => unspent max (limit ▸ member)
    refine ⟨count, ?_⟩
    rw [performs, done, Option.map_some, value, journal.trans (map_mapDepth_id _), same]

/-- After one command two of the three that the file calls are left, and the last is refused. -/
theorem nested_scripts_share_allowance_called :
    Request.PlaysNested scantySession "pwd\n\npwd\npwd" (.call "run" ["three"]) ∧
    ∃ outcome,
      (Request.call "run" ["three"]).perform.outcome (scantySession.counting 1) = some outcome ∧
      scantySession.registry.attempts outcome.journal = 3 ∧
      .limitReached (.commands 3) ∈ outcome.journal ∧
      ∀ past line rest command arguments, outcome.journal = past ++ .lineEntered line :: rest →
        scantySession.registry.called? line = some (command, arguments) →
        (Handled ((scantySession.counting 1).replay past) line command arguments rest ↔
          1 + scantySession.registry.attempts past + 1 ≤ 3) := by
  have registered : scantySession.registry.get? "run" = some Builtin.run.command := by
    decide +kernel
  have found : scantySession.findText "three" = .ok "pwd\n\npwd\npwd" := by decide +kernel
  have plays : Request.PlaysNested scantySession "pwd\n\npwd\npwd" (.call "run" ["three"]) :=
    .call registered rfl found
  obtain ⟨outcome, reached, numbered, -⟩ := nested_scripts_share_allowance plays 1
  have three : ((Request.call "run" ["three"]).perform.outcome (scantySession.counting 1)).any
      (fun outcome => scantySession.registry.attempts outcome.journal = 3 ∧
        .limitReached (.commands 3) ∈ outcome.journal) = true := by decide +kernel
  obtain ⟨other, same, counted⟩ := (Option.any_eq_true _ _).mp three
  obtain rfl := Option.some.inj (reached.symm.trans same)
  obtain ⟨attempts, limited⟩ := of_decide_eq_true counted
  refine ⟨plays, outcome, reached, attempts, limited, ?_⟩
  intro past line rest command arguments split called
  exact (numbered past line rest command arguments split called).1

/-- A session in which a line may start one command. -/
def frugalSession : Session :=
  Config.session { limits := { commands := 1 } }

/-- Where a comment was entered before and the log cleared, only the count tells the session from the
one at the start; and the script that can be played there is refused its command here. -/
theorem nested_script_sees_count :
    frugalSession.meter.depth = 0 ∧
    (∃ earlier, (Request.performAll [.line "#", .clear]).outcome frugalSession = some earlier ∧
      earlier.session = frugalSession.counting 1) ∧
    ∃ first second,
      (Request.nestedScript "pwd").perform.outcome frugalSession = some first ∧
      (Request.nestedScript "pwd").perform.outcome (frugalSession.counting 1) = some second ∧
      first.value ≠ second.value ∧ first.session.log ≠ second.session.log := by
  have before : ((Request.performAll [.line "#", .clear]).outcome frugalSession).any
      (·.session = frugalSession.counting 1) = true := by decide +kernel
  have fresh : ((Request.nestedScript "pwd").perform.outcome frugalSession).any (fun outcome =>
      outcome.value = .nestedReport (.ok { lines := 1, failures := 0 }) ∧
        outcome.session.log = "/ $ pwd\n/\n") = true := by decide +kernel
  have spent : ((Request.nestedScript "pwd").perform.outcome (frugalSession.counting 1)).any
      (fun outcome => outcome.value = .nestedReport (.ok { lines := 1, failures := 1 }) ∧
        outcome.session.log = "/ $ pwd\n" ++
          "resource limit exceeded: maximum command count exceeded (1)\n") = true := by
    decide +kernel
  obtain ⟨earlier, begun, counted⟩ := (Option.any_eq_true _ _).mp before
  obtain ⟨first, reached, shown⟩ := (Option.any_eq_true _ _).mp fresh
  obtain ⟨second, done, refused⟩ := (Option.any_eq_true _ _).mp spent
  obtain ⟨report, log⟩ := of_decide_eq_true shown
  obtain ⟨otherReport, otherLog⟩ := of_decide_eq_true refused
  refine ⟨rfl, ⟨earlier, begun, of_decide_eq_true counted⟩, first, second, reached, done, ?_, ?_⟩
  · rw [report, otherReport]
    decide
  · rw [log, otherLog]
    decide +kernel

end VirtualTerminal
