import VirtualTerminal.Proofs.Command.Registration
import VirtualTerminal.Proofs.Console.Batch
import VirtualTerminal.Proofs.Console.Conversation

/-!
# Behind the line that exits

The host is asked to end the session by a line whose first token is `exit` and by no other, since no
file of the console's tree exits.  The lines given as arguments and those that are typed go on to the
first such line.  The lines of a script all go on.
-/

namespace VirtualTerminal.Console

/-- How many lines are entered behind the first call of the handler that exits. -/
def linesBehindExit : List Event → Nat
  | [] => 0
  | event :: rest =>
      if event = .hostCalled .exit then enteredLines rest else linesBehindExit rest

/-- The first token of a line is the keyword of the builtin that exits. -/
def callsExit (line : String) : Bool :=
  match Line.tokens line with
  | .ok (keyword :: _) => keyword = "exit"
  | _ => false

theorem exit_mem_hostCalls {journal : List Event} :
    .exit ∈ hostCalls journal ↔ .hostCalled .exit ∈ journal := by
  rw [hostCalls, List.mem_filterMap]
  constructor
  · rintro ⟨event, member, called⟩
    cases event with
    | hostCalled call => exact Option.some.inj called ▸ member
    | _ => cases called
  · exact fun member => ⟨_, member, rfl⟩

theorem linesBehindExit_append (first second : List Event) :
    linesBehindExit (first ++ second) =
      if .hostCalled .exit ∈ first then linesBehindExit first + enteredLines second
      else linesBehindExit second := by
  induction first with
  | nil => simp
  | cons event first inductionHypothesis =>
      by_cases exits : event = .hostCalled .exit
      · simp [linesBehindExit, exits]
      · simp [linesBehindExit, exits, Ne.symm exits, inductionHypothesis]

theorem linesBehindExit_of_not_mem {journal : List Event} (stays : .hostCalled .exit ∉ journal) :
    linesBehindExit journal = 0 := by
  have whole := linesBehindExit_append journal []
  rw [if_neg stays, List.append_nil] at whole
  exact whole

/-- That a script is played enters nothing but its lines do. -/
theorem linesBehindExit_script (depth : Nat) (journal : List Event) (report : Report) :
    linesBehindExit (.scriptStarted depth :: (journal ++ [.scriptFinished report])) =
      linesBehindExit journal := by
  have finish : enteredLines [.scriptFinished report] = 0 := rfl
  rw [linesBehindExit, if_neg nofun, linesBehindExit_append, finish]
  split
  next => rfl
  next stays => rw [linesBehindExit_of_not_mem stays, linesBehindExit, if_neg nofun, linesBehindExit]

/-! ### The line that exits -/

theorem tokens_of_called {line : String} {command : Command} {arguments : List String}
    (called : surroundings.registry.called? line = some (command, arguments)) :
    Line.tokens line = .ok (command.keyword :: arguments) := by
  obtain ⟨keyword, tokens, registered⟩ := Registry.exists_keyword_of_called? called
  obtain ⟨builtin, rfl, rfl⟩ := Registry.exists_builtin_of_get? registered
  exact tokens

theorem keyword_of_exit :
    ∀ command ∈ surroundings.registry.toList, command.handler = .builtin .exit →
      command.keyword = "exit" := by
  decide +kernel

/-- The habit of not exiting. -/
def staying : Habit surroundings :=
  .avoiding surroundings (.hostCalled .exit) rfl

theorem staying_allowsBuiltin {builtin : Builtin} (other : builtin ≠ .exit) :
    staying.AllowsBuiltin builtin := by
  cases builtin with
  | exit => exact absurd rfl other
  | clear => exact nofun
  | redirect => exact fun _ => nofun
  | _ => trivial

theorem staying_allowsLine {line : String} (other : callsExit line = false) :
    staying.AllowsLine line := by
  intro command arguments builtin called shape
  apply staying_allowsBuiltin
  rintro rfl
  have keyword := keyword_of_exit command (Registry.mem_toList_of_called? called) shape
  simp [callsExit, tokens_of_called called, keyword] at other

theorem staying_suits : staying.Suits where
  builtins := isBuiltin_of_mem
  exit := by rintro _ ⟨⟩ effect ⟨⟩
  redirect := by rintro _ ⟨⟩ effect ⟨⟩
  executables := by
    intro executable among
    have greets : ∀ executable ∈ surroundings.tree.executables, executable.action = .greet := by
      decide +kernel
    rw [greets executable among]
    trivial
  texts := by
    apply forall_mem_texts
    · have others : ∀ line ∈ introductionLines, callsExit line = false := by decide +kernel
      exact fun line member => staying_allowsLine (others line member)
    · have others : ∀ line ∈ Text.lines "redirect /games/minesweeper", callsExit line = false := by
        decide +kernel
      exact fun line member => staying_allowsLine (others line member)

variable {session : Session} {line : String} {outcome : Outcome Reply}

theorem not_mem_of_stay (home : session.toSurroundings = surroundings)
    (other : callsExit line = false)
    (reached : (SessionM.enter line).outcome session = some outcome) :
    .hostCalled .exit ∉ outcome.journal := by
  rw [SessionM.enter_outcome] at reached
  exact Habit.enterWithin staying_suits _ (staying_allowsLine other) session outcome home reached

theorem called_of_callsExit (calls : callsExit line = true) :
    ∃ arguments, surroundings.registry.called? line = some (Builtin.exit.command, arguments) := by
  have registered : surroundings.registry.get? "exit" = some Builtin.exit.command := by
    decide +kernel
  unfold callsExit at calls
  split at calls
  next keyword arguments tokens =>
    obtain rfl := of_decide_eq_true calls
    exact ⟨arguments, by simp only [Registry.called?, tokens, registered, Option.map_some]⟩
  next => cases calls

/-- Outside nested scripts a line that calls the builtin has a command left, asks the host to end the
session and is left at once. -/
theorem journal_of_exit {enter : String → SessionM Reply} {reply : Reply} {journal : List Event}
    (home : session.toSurroundings = surroundings) (idle : session.meter.depth = 0)
    (calls : callsExit line = true) (entered : SessionM.Entered enter session line reply journal) :
    ∃ arguments, journal =
      session.opening line ++ calling line Builtin.exit.command arguments ++
        [.hostCalled .exit, .lineLeft line .goodbye] := by
  obtain ⟨arguments, called⟩ := called_of_callsExit calls
  rw [← home] at called
  cases entered with
  | uncalled none _ => cases called.symm.trans none
  | refused _ spent =>
      have reset : session.meter.atLine.commands = 0 := by
        rw [Meter.atLine, if_pos idle]
        rfl
      have allowance : 0 < session.limits.commands := by
        rw [home]
        decide
      rw [reset] at spent
      exact absurd allowance (Nat.not_lt_of_le spent)
  | @handled command further handling calledToo left handled =>
      cases called.symm.trans calledToo
      have handler : (session.replay
          (session.opening line ++ calling line Builtin.exit.command arguments)).host.exit =
            some [] := by
        rw [Session.replay_toSurroundings, home]
        rfl
      have exits : SessionM.handle enter Builtin.exit.command arguments = SessionM.runExit := rfl
      rw [exits, SessionM.runExit, SessionM.read_bind, handler] at handled
      cases handled
      exact ⟨arguments, rfl⟩

/-- A line that is entered outside nested scripts exits if it calls the builtin for that, and not
otherwise.  It enters no line behind that. -/
theorem exits_iff_callsExit (home : session.toSurroundings = surroundings)
    (idle : session.meter.depth = 0)
    (reached : (SessionM.enter line).outcome session = some outcome) :
    (.hostCalled .exit ∈ outcome.journal ↔ callsExit line = true) ∧
      linesBehindExit outcome.journal = 0 := by
  cases calls : callsExit line with
  | false =>
      have stays := not_mem_of_stay home calls reached
      exact ⟨⟨fun exits => absurd exits stays, nofun⟩, linesBehindExit_of_not_mem stays⟩
  | true =>
      obtain ⟨nesting, entered⟩ := SessionM.entered_of_enter reached
      obtain ⟨arguments, journal⟩ := journal_of_exit home idle calls entered
      rw [journal]
      exact ⟨by simp, rfl⟩

/-! ### Lines one after the other -/

/-- A session of the console outside nested scripts. -/
structure AtRest (session : Session) : Prop where
  home : session.toSurroundings = surroundings
  idle : session.meter.depth = 0

theorem AtRest.of_balanced {α : Type} {step : SessionM α} {outcome : Outcome α}
    (rests : AtRest session) (balanced : step.Follows .balanced)
    (reached : step.outcome session = some outcome) : AtRest outcome.session where
  home := home_of_outcome rests.home reached
  idle := by rw [SessionM.keepsDepth_of_balanced balanced session outcome reached, rests.idle]

theorem AtRest.of_entered (rests : AtRest session)
    (reached : (SessionM.enter line).outcome session = some outcome) : AtRest outcome.session :=
  rests.of_balanced (Course.balanced_isLocal.follows_enter line) reached

theorem enteredLines_pos (reached : (SessionM.enter line).outcome session = some outcome) :
    0 < enteredLines outcome.journal := by
  obtain ⟨nesting, entered⟩ := SessionM.entered_of_enter reached
  obtain ⟨rest, journal⟩ := entered.exists_journal_eq
  have first : enteredLines (session.opening line) = 1 := rfl
  rw [journal, enteredLines_append, first]
  omega

namespace Enters

variable {stops : Outcome Reply → Prop} {last : Session} {lines : List String}
  {outcomes : List (Outcome Reply)}

theorem enteredLines_eq_zero_iff (enters : Enters stops session lines outcomes last) :
    enteredLines (outcomes.flatMap Outcome.journal) = 0 ↔ lines = [] := by
  cases enters with
  | done => simp [enteredLines]
  | stopped entered _ =>
      have entersOne := enteredLines_pos entered
      simp
      omega
  | goesOn entered _ _ =>
      have entersOne := enteredLines_pos entered
      simp
      omega

theorem rests (enters : Enters stops session lines outcomes last) (rests : AtRest session) :
    AtRest last := by
  induction enters with
  | done session => exact rests
  | stopped entered _ => exact rests.of_entered entered
  | goesOn entered _ _ inductionHypothesis => exact inductionHypothesis (rests.of_entered entered)

/-- Lines that go on to the first that exits enter nothing behind it. -/
theorem stops_at_exit (enters : Enters Exits session lines outcomes last)
    (rests : AtRest session) :
    linesBehindExit (outcomes.flatMap Outcome.journal) = 0 ∧
      ((∃ outcome ∈ outcomes, Exits outcome) ↔ ∃ line ∈ lines, callsExit line = true) := by
  induction enters with
  | done session => exact ⟨rfl, by simp⟩
  | stopped entered stop =>
      obtain ⟨exits, silent⟩ := exits_iff_callsExit rests.home rests.idle entered
      have calls := exits.mp (exit_mem_hostCalls.mp stop)
      exact ⟨by simpa using silent, by simp [stop, calls]⟩
  | goesOn entered on _ inductionHypothesis =>
      obtain ⟨exits, -⟩ := exits_iff_callsExit rests.home rests.idle entered
      have stays := mt exit_mem_hostCalls.mpr on
      have calls := Bool.eq_false_iff.mpr (mt exits.mpr stays)
      obtain ⟨silent, same⟩ := inductionHypothesis (rests.of_entered entered)
      refine ⟨?_, ?_⟩
      · rw [List.flatMap_cons, linesBehindExit_append, if_neg stays, silent]
      · simp [on, calls, same]

/-- Lines that all go on enter nothing behind an exit just if no line but the last exits. -/
theorem silent_iff (enters : Enters (fun _ => False) session lines outcomes last)
    (rests : AtRest session) :
    linesBehindExit (outcomes.flatMap Outcome.journal) = 0 ↔
      ∀ line ∈ lines.dropLast, callsExit line = false := by
  induction enters with
  | done session => simp [linesBehindExit]
  | stopped _ stop => exact stop.elim
  | @goesOn session last line lines outcome outcomes entered _ rest inductionHypothesis =>
      obtain ⟨exits, silent⟩ := exits_iff_callsExit rests.home rests.idle entered
      rw [List.flatMap_cons, linesBehindExit_append]
      cases calls : callsExit line with
      | true =>
          rw [if_pos (exits.mpr calls), silent, Nat.zero_add, rest.enteredLines_eq_zero_iff]
          cases lines <;> simp [calls]
      | false =>
          have stays : .hostCalled .exit ∉ outcome.journal := by simp [exits, calls]
          rw [if_neg stays, inductionHypothesis (rests.of_entered entered)]
          cases lines <;> simp [calls]

end Enters

/-- A typed line enters nothing behind an exit. -/
theorem silent_of_submitted {submitted : Outcome Unit} (rests : AtRest session)
    (empty : session.input = "")
    (reached : (SessionM.submit line).outcome session = some submitted) :
    linesBehindExit submitted.journal = 0 := by
  rw [SessionM.submit_outcome_of_empty empty] at reached
  obtain ⟨entered, entering, rfl⟩ := Option.map_eq_some_iff.mp reached
  have filled : AtRest (session.filled line) := ⟨rests.home, rests.idle⟩
  obtain ⟨-, silent⟩ := exits_iff_callsExit filled.home filled.idle entering
  have typing : .hostCalled .exit ∉ edits line := by simp [edits]
  have last : enteredLines [.inputChanged ""] = 0 := rfl
  rw [linesBehindExit_append, if_neg typing, linesBehindExit_append, silent, last]
  split <;> rfl

/-- A conversation enters nothing behind an exit. -/
theorem silent_of_converse (waits : AtPrompt session) (rests : AtRest session)
    (lines : List String) :
    ∃ responses, converse session lines = some responses ∧
      linesBehindExit (responses.flatMap Response.journal) = 0 := by
  induction lines generalizing session with
  | nil => exact ⟨[], rfl, rfl⟩
  | cons line lines inductionHypothesis =>
      obtain ⟨submitted, reached⟩ := waits.submit_ends line
      have silent : linesBehindExit (Response.ofOutcome session submitted).journal = 0 :=
        silent_of_submitted rests waits.input_eq reached
      by_cases exits : .exit ∈ hostCalls submitted.journal
      · exact ⟨_, converse_of_exit reached exits lines, by simpa using silent⟩
      · have balanced : (SessionM.submit line).Follows .balanced :=
          Course.follows_submit Course.balanced_isLocal.follows_enter Course.balanced_keystroke line
        obtain ⟨responses, conversed, rest⟩ :=
          inductionHypothesis (waits.of_submitted reached) (rests.of_balanced balanced reached)
        have stays : .hostCalled .exit ∉ (Response.ofOutcome session submitted).journal :=
          mt exit_mem_hostCalls.mpr exits
        refine ⟨_, converse_of_stay reached exits conversed, ?_⟩
        rw [List.flatMap_cons, linesBehindExit_append, if_neg stays, rest]

/-- Which lines are entered behind one that exits.

* The lines given as arguments go on to the first that exits, that is, whose first token is `exit`,
  and nothing is entered behind that.  If there is one the run ends there, without the script.
* Otherwise the script is played, and something is entered behind an exit just if a line of the
  script exits that is not its last.
* The lines that are typed go on to the first that exits, and nothing is entered behind that.  What
  a run prints in which they are typed are the responses to those lines.
-/
theorem lines_behind_exit (lines : List String) (input : String) :
    (∃ progress, Progress.start.enterLines lines = some progress ∧
      linesBehindExit progress.journal = 0 ∧
      (progress.exited = true ↔ ∃ line ∈ lines, callsExit line = true) ∧
      if progress.exited then
        ∀ script json, Batch.run { lines, script, json } = some (progress.finish json)
      else
        ∀ text, ∃ later, progress.playScript text = some later ∧
          (∀ json, Batch.run { lines, script := some (.text text), json } =
            some (later.finish json)) ∧
          (linesBehindExit later.journal = 0 ↔
            ∀ line ∈ (Text.lines text).dropLast, callsExit line = false)) ∧
    ∃ responses, converse openingSession (typedLines input) = some responses ∧
      linesBehindExit (responses.flatMap Response.journal) = 0 ∧
      ∀ json, run { json } input = some { output := opening ++ printed responses } := by
  have rests : AtRest Progress.start.session := ⟨rfl, rfl⟩
  constructor
  · obtain ⟨outcomes, between, entering⟩ := Enters.total Exits lines rests.home
    have reached := Progress.enterLines_eq entering rfl rfl
    obtain ⟨silent, exits⟩ := entering.stops_at_exit rests
    have exited : (Progress.start.through outcomes between).exited =
        decide (∃ outcome ∈ outcomes, Exits outcome) :=
      Progress.exited_through rfl outcomes between
    refine ⟨_, reached, by simpa [Progress.through, Progress.start] using silent, ?_, ?_⟩
    · rw [exited, decide_eq_true_iff, exits]
    · split
      next stop =>
        intro script json
        rw [Batch.run, reached]
        cases script <;> simp [stop]
      next stays =>
        intro text
        obtain ⟨played, last, playing⟩ := Enters.total (fun _ => False) (Text.lines text)
          (entering.home rests.home)
        have play : (Progress.start.through outcomes between).playScript text = _ :=
          Progress.playScript_eq playing
        refine ⟨_, play, fun json => ?_, ?_⟩
        · rw [Batch.run, reached]
          simp [stays, play]
        · have quiet : .hostCalled .exit ∉ (Progress.start.through outcomes between).journal := by
            rw [← exit_mem_hostCalls]
            exact fun called => stays (decide_eq_true called)
          rw [linesBehindExit_append, if_neg quiet, linesBehindExit_script]
          exact playing.silent_iff (entering.rests rests)
  · obtain ⟨responses, conversed, silent⟩ :=
      silent_of_converse atPrompt_openingSession ⟨rfl, rfl⟩ (typedLines input)
    exact ⟨responses, conversed, silent, run_eq_of_typedAs (typedAs_iff.mpr rfl) conversed⟩

/-- The first line of a script exits, and the second is entered all the same. -/
theorem script_goes_on_behind_exit :
    Text.lines "exit\npwd" = ["exit", "pwd"] ∧ callsExit "exit" = true ∧
    (∃ later, Progress.start.playScript "exit\npwd" = some later ∧
      linesBehindExit later.journal = 1) ∧
    Batch.run { script := some (.text "exit\npwd") } = some {
      output := "/ $ exit\n/ $ pwd\n/\n"
      errors := ""
      code := 0 } := by
  have ends : (Progress.start.playScript "exit\npwd").any
      (fun later => linesBehindExit later.journal = 1) = true := by decide +kernel
  obtain ⟨later, played, entered⟩ := (Option.any_eq_true _ _).mp ends
  exact ⟨by decide +kernel, by decide +kernel, ⟨later, played, of_decide_eq_true entered⟩,
    by decide +kernel⟩

end VirtualTerminal.Console
