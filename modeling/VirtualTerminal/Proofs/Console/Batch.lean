import VirtualTerminal.Console.Run
import VirtualTerminal.Proofs.Console.Basic
import VirtualTerminal.Proofs.Session.Farewell
import VirtualTerminal.Proofs.View.Json

/-!
# Batches

What a batch prints and how it ends is told by the lines that it enters: those given, up to the
first that exits, and those of the script if none has.
-/

namespace VirtualTerminal.Console

/-- The line has called the host to end the session. -/
def Exits (outcome : Outcome Reply) : Prop :=
  .exit ∈ hostCalls outcome.journal

instance (outcome : Outcome Reply) : Decidable (Exits outcome) :=
  inferInstanceAs (Decidable (.exit ∈ hostCalls outcome.journal))

/-- Lines are entered one after the other, none behind one that stops them.  Listed is what came of
each line that was entered; the session is the one behind the last of them. -/
inductive Enters (stops : Outcome Reply → Prop) :
    Session → List String → List (Outcome Reply) → Session → Prop
  | done (session : Session) : Enters stops session [] [] session
  | stopped {session : Session} {line : String} {lines : List String} {outcome : Outcome Reply}
      (entered : (SessionM.enter line).outcome session = some outcome) (stop : stops outcome) :
      Enters stops session (line :: lines) [outcome] outcome.session
  | goesOn {session last : Session} {line : String} {lines : List String}
      {outcome : Outcome Reply} {outcomes : List (Outcome Reply)}
      (entered : (SessionM.enter line).outcome session = some outcome) (on : ¬ stops outcome)
      (rest : Enters stops outcome.session lines outcomes last) :
      Enters stops session (line :: lines) (outcome :: outcomes) last

/-- What comes of the lines of a batch and of the lines of its script, and the session at its end.
The script is played only if no line exits; in it, no line stops the others. -/
inductive Batch.ComesTo (lines : List String) (script : Option String) :
    List (Outcome Reply) → List (Outcome Reply) → Session → Prop
  | exited {entered : List (Outcome Reply)} {last : Session}
      (entering : Enters Exits (Config.session { host := host }) lines entered last)
      (exits : ∃ outcome ∈ entered, Exits outcome) : ComesTo lines script entered [] last
  | stayed {entered played : List (Outcome Reply)} {between last : Session}
      (entering : Enters Exits (Config.session { host := host }) lines entered between)
      (stays : ∀ outcome ∈ entered, ¬ Exits outcome)
      (playing : Enters (fun _ => False) between (script.elim [] Text.lines) played last) :
      ComesTo lines script entered played last

/-- The message that a line came back with. -/
def message? : Reply → Option String
  | .ok message => message
  | .error _ => none

/-- The line came back with a message. -/
def speaks (reply : Reply) : Bool :=
  (message? reply).isSome

/-- What is printed of a batch in which the lines given and those of its script have come to this.
Where the last session is printed as JSON, its log, its prompt and its input are the members of an
object, each on a line of its own, and a line break ends the last line. -/
def Batch.transcript (entered played : List (Outcome Reply)) (last : Session) (json : Bool) :
    Transcript where
  output := appendLines "" (redirections ((entered ++ played).flatMap Outcome.journal)) ++
    if json then
      String.ofList (View.write View.prettySpacing
        { lines := last.log, prompt := last.prompt, input := last.input } ['\n'])
    else last.log
  errors := appendLines "" (List.replicate (entered.countP (speaks ·.value)) "Goodbye.")
  code := if (entered ++ played).all (·.value.isOk) then 0 else 1

theorem reply_of_message? {reply : Reply} {message : String}
    (said : message? reply = some message) : reply = .ok (some message) := by
  cases reply with
  | ok other => exact congrArg _ said
  | error error => cases said

namespace Enters

variable {stops : Outcome Reply → Prop} {session last : Session} {lines : List String}
  {outcomes : List (Outcome Reply)}

/-- Lines that are entered at the console always come to an end. -/
theorem total (stops : Outcome Reply → Prop) (lines : List String)
    (home : session.toSurroundings = surroundings) :
    ∃ outcomes last, Enters stops session lines outcomes last := by
  induction lines generalizing session with
  | nil => exact ⟨[], session, .done session⟩
  | cons line lines inductionHypothesis =>
      obtain ⟨outcome, entered⟩ := enter_ends home line
      by_cases stop : stops outcome
      · exact ⟨[outcome], outcome.session, .stopped entered stop⟩
      · obtain ⟨outcomes, last, rest⟩ := inductionHypothesis (home_of_outcome home entered)
        exact ⟨outcome :: outcomes, last, .goesOn entered stop rest⟩

theorem home (enters : Enters stops session lines outcomes last)
    (home : session.toSurroundings = surroundings) : last.toSurroundings = surroundings := by
  induction enters with
  | done session => exact home
  | stopped entered _ => exact home_of_outcome home entered
  | goesOn entered _ _ inductionHypothesis =>
      exact inductionHypothesis (home_of_outcome home entered)

theorem isFarewell (enters : Enters stops session lines outcomes last)
    (home : session.toSurroundings = surroundings) :
    ∀ outcome ∈ outcomes, IsFarewell outcome.value := by
  have line : ∀ {session line outcome}, session.toSurroundings = surroundings →
      (SessionM.enter line).outcome session = some outcome → IsFarewell outcome.value := by
    intro session line outcome home entered
    exact SessionM.isFarewell_of_enter (by rw [home]; exact isBuiltin_of_mem) entered
  induction enters with
  | done session => simp
  | stopped entered _ => simpa using line home entered
  | goesOn entered _ _ inductionHypothesis =>
      rw [List.forall_mem_cons]
      exact ⟨line home entered, inductionHypothesis (home_of_outcome home entered)⟩

/-- At the console lines have nothing to say but farewells. -/
theorem messages_eq (enters : Enters stops session lines outcomes last)
    (home : session.toSurroundings = surroundings) :
    outcomes.filterMap (message? ·.value) =
      List.replicate (outcomes.countP (speaks ·.value)) "Goodbye." := by
  have farewells : ∀ message ∈ outcomes.filterMap (message? ·.value), message = "Goodbye." := by
    intro message member
    obtain ⟨outcome, among, said⟩ := List.mem_filterMap.mp member
    exact enters.isFarewell home outcome among message (reply_of_message? said)
  rw [List.eq_replicate_of_mem farewells, List.length_filterMap_eq_countP]
  rfl

end Enters

/-- A report to which the replies of lines are added. -/
def tally (report : Report) (outcomes : List (Outcome Reply)) : Report :=
  outcomes.foldl (fun report outcome => report.add outcome.value) report

theorem isSuccess_add (report : Report) (reply : Reply) :
    (report.add reply).isSuccess = (report.isSuccess && reply.isOk) := by
  cases reply with
  | ok message => exact (Bool.and_true _).symm
  | error error => exact (Bool.and_false _).symm

/-- A report is one of success if no line failed. -/
theorem isSuccess_tally (outcomes : List (Outcome Reply)) (report : Report) :
    (tally report outcomes).isSuccess =
      (report.isSuccess && outcomes.all (·.value.isOk)) := by
  induction outcomes generalizing report with
  | nil => exact (Bool.and_true _).symm
  | cons outcome outcomes inductionHypothesis =>
      rw [tally, List.foldl_cons, ← tally, inductionHypothesis, isSuccess_add, List.all_cons,
        Bool.and_assoc]

namespace Enters

variable {session last : Session} {lines : List String} {outcomes : List (Outcome Reply)}

theorem fold_outcome (enters : Enters (fun _ => False) session lines outcomes last)
    (report : Report) :
    (SessionM.fold (fun report line => do return report.add (← SessionM.enter line)) report
      lines).outcome session = some {
        value := tally report outcomes
        session := last
        journal := outcomes.flatMap Outcome.journal } := by
  induction enters generalizing report with
  | done session => rfl
  | stopped _ stop => exact stop.elim
  | goesOn entered _ _ inductionHypothesis =>
      rw [SessionM.fold_cons, SessionM.bind_outcome, SessionM.bind_pure_outcome, entered,
        Option.map_some, Option.bind_some, inductionHypothesis]
      rfl

/-- Lines of which none stops the others are played as a script. -/
theorem playScript_outcome {script : String}
    (enters : Enters (fun _ => False) session (Text.lines script) outcomes last) :
    (SessionM.playScript SessionM.enter script).outcome session = some {
      value := tally {} outcomes
      session := last
      journal := .scriptStarted session.meter.depth ::
        (outcomes.flatMap Outcome.journal ++ [.scriptFinished (tally {} outcomes)]) } := by
  have played : (SessionM.playLines SessionM.enter (Text.lines script)).outcome
      (session.apply (.scriptStarted session.meter.depth)) = _ := enters.fold_outcome {}
  rw [SessionM.playScript, SessionM.read_bind, SessionM.note_bind,
    SessionM.bind_outcome_of_reached played]
  rfl

end Enters

/-- That a script is played calls nobody but its lines do. -/
theorem redirections_script (depth : Nat) (journal : List Event) (report : Report) :
    redirections (.scriptStarted depth :: (journal ++ [.scriptFinished report])) =
      redirections journal := by
  show redirections ([.scriptStarted depth] ++ (journal ++ [.scriptFinished report])) = _
  rw [redirections_append, redirections_append]
  exact List.append_nil (redirections journal)

namespace Progress

/-- A batch further on its way, with lines entered behind those before. -/
def through (progress : Progress) (outcomes : List (Outcome Reply)) (last : Session) :
    Progress where
  session := last
  journal := progress.journal ++ outcomes.flatMap Outcome.journal
  messages := progress.messages ++ outcomes.filterMap (message? ·.value)
  success := progress.success && outcomes.all (·.value.isOk)

theorem enterLine_eq {progress : Progress} {line : String} {outcome : Outcome Reply}
    (entered : (SessionM.enter line).outcome progress.session = some outcome) :
    progress.enterLine line = some (progress.through [outcome] outcome.session) := by
  rw [enterLine, entered]
  rcases outcome with ⟨error | ⟨_ | message⟩, later, journal⟩ <;>
    simp [advance, settle, through, message?, Except.isOk, Except.toBool]

theorem through_through (progress : Progress) (first second : List (Outcome Reply))
    (between last : Session) :
    (progress.through first between).through second last =
      progress.through (first ++ second) last := by
  simp [through, Bool.and_assoc]

/-- A batch has exited if one of the lines entered since has. -/
theorem exited_through {progress : Progress} (fresh : progress.exited = false)
    (outcomes : List (Outcome Reply)) (last : Session) :
    (progress.through outcomes last).exited = decide (∃ outcome ∈ outcomes, Exits outcome) := by
  rw [exited, through, hasExited_append, ← exited, fresh, Bool.false_or, hasExited, hostCalls,
    List.filterMap_flatMap]
  simp only [List.mem_flatMap]
  rfl

theorem enterLines_eq {progress : Progress} {session last : Session} {lines : List String}
    {outcomes : List (Outcome Reply)} (enters : Enters Exits session lines outcomes last)
    (here : progress.session = session) (fresh : progress.exited = false) :
    progress.enterLines lines = some (progress.through outcomes last) := by
  induction enters generalizing progress with
  | done session =>
      cases progress
      simp_all [enterLines, through]
  | stopped entered stop =>
      rw [enterLines, enterLine_eq (here ▸ entered)]
      simp [exited_through fresh, stop]
  | @goesOn _ last _ _ outcome outcomes entered on _ inductionHypothesis =>
      have still : (progress.through [outcome] outcome.session).exited = false := by
        simp [exited_through fresh, on]
      rw [enterLines, enterLine_eq (here ▸ entered)]
      simp [still, inductionHypothesis rfl still, through_through]

theorem playScript_eq {progress : Progress} {script : String} {last : Session}
    {outcomes : List (Outcome Reply)}
    (enters : Enters (fun _ => False) progress.session (Text.lines script) outcomes last) :
    progress.playScript script = some {
      session := last
      journal := progress.journal ++ .scriptStarted progress.session.meter.depth ::
        (outcomes.flatMap Outcome.journal ++ [.scriptFinished (tally {} outcomes)])
      messages := progress.messages
      success := progress.success && outcomes.all (·.value.isOk) } := by
  have success : (tally {} outcomes).isSuccess = outcomes.all (·.value.isOk) :=
    isSuccess_tally outcomes {}
  rw [playScript, enters.playScript_outcome]
  simp [advance, success]

/-- A batch ends with its log, or with the members of its view. -/
theorem finish_output (progress : Progress) (json : Bool) :
    (progress.finish json).output = printCalls progress.journal ++
      if json then
        String.ofList (View.write View.prettySpacing {
          lines := progress.session.log
          prompt := progress.session.prompt
          input := progress.session.input } ['\n'])
      else progress.session.log := by
  have written : progress.session.view.toPrettyJson ++ "\n" =
      String.ofList (View.write View.prettySpacing {
        lines := progress.session.log
        prompt := progress.session.prompt
        input := progress.session.input } ['\n']) := by
    have newline : "\n".toList = ['\n'] := by simp
    rw [← String.toList_inj, View.toList_toPrettyJson_append, newline, String.toList_ofList]
    rfl
  rw [finish, written]

theorem finish_eq {progress : Progress} {entered played : List (Outcome Reply)}
    (redirected : redirections progress.journal =
      redirections ((entered ++ played).flatMap Outcome.journal))
    (said : progress.messages = List.replicate (entered.countP (speaks ·.value)) "Goodbye.")
    (succeeded : progress.success = (entered ++ played).all (·.value.isOk)) (json : Bool) :
    progress.finish json = Batch.transcript entered played progress.session json := by
  have output := finish_output progress json
  rw [printCalls_eq_appendLines, redirected] at output
  rw [Batch.transcript, ← output, ← said, ← succeeded]
  rfl

theorem finish_through {stops : Outcome Reply → Prop} {last : Session} {lines : List String}
    {entered : List (Outcome Reply)} (entering : Enters stops start.session lines entered last)
    (json : Bool) :
    (start.through entered last).finish json = Batch.transcript entered [] last json := by
  apply finish_eq
  · simp [through, start]
  · exact entering.messages_eq rfl
  · simp [through, start]

end Progress

namespace Batch.ComesTo

variable {lines : List String} {script : Option String} {entered played : List (Outcome Reply)}
  {last : Session}

theorem total (lines : List String) (script : Option String) :
    ∃ entered played last, Batch.ComesTo lines script entered played last := by
  have home : (Config.session { host := host }).toSurroundings = surroundings := rfl
  obtain ⟨entered, between, entering⟩ := Enters.total Exits lines home
  by_cases exits : ∃ outcome ∈ entered, Exits outcome
  · exact ⟨entered, [], between, .exited entering exits⟩
  · obtain ⟨played, last, playing⟩ :=
      Enters.total (fun _ => False) (script.elim [] Text.lines) (entering.home home)
    have stays : ∀ outcome ∈ entered, ¬ Exits outcome :=
      fun outcome member stop => exits ⟨outcome, member, stop⟩
    exact ⟨entered, played, last, .stayed entering stays playing⟩

/-- Where there is no script all is done with the lines given. -/
theorem of_enters (entering : Enters Exits (Config.session { host := host }) lines entered last) :
    Batch.ComesTo lines none entered [] last := by
  by_cases exits : ∃ outcome ∈ entered, Exits outcome
  · exact .exited entering exits
  · exact .stayed entering (fun outcome member stop => exits ⟨outcome, member, stop⟩) (.done last)

theorem run_eq (comes : Batch.ComesTo lines script entered played last) (json : Bool) :
    Batch.run { lines, script := script.map .text, json } =
      some (Batch.transcript entered played last json) := by
  have fresh : Progress.start.exited = false := rfl
  cases comes with
  | exited entering exits =>
      have exited := Progress.exited_through fresh entered last
      rw [decide_eq_true exits] at exited
      rw [Batch.run, Progress.enterLines_eq entering rfl fresh]
      cases script with
      | none => exact congrArg some (Progress.finish_through entering json)
      | some text => simp [exited, Progress.finish_through entering]
  | @stayed _ between _ entering stays playing =>
      have exited := Progress.exited_through fresh entered between
      rw [decide_eq_false fun ⟨outcome, member, stop⟩ => stays outcome member stop] at exited
      rw [Batch.run, Progress.enterLines_eq entering rfl fresh]
      cases script with
      | none =>
          cases playing
          exact congrArg some (Progress.finish_through entering json)
      | some text =>
          have play : (Progress.start.through entered between).playScript text = _ :=
            Progress.playScript_eq playing
          simp only [Option.map_some, Option.bind_eq_bind, Option.bind_some, exited, play]
          refine congrArg some (Progress.finish_eq ?_ (entering.messages_eq rfl) ?_ json)
          · rw [redirections_append, redirections_script]
            simp [Progress.through, Progress.start]
          · simp [Progress.through, Progress.start]

end Batch.ComesTo

/-- A run that is given a line or a script prints what its lines come to. -/
theorem run_eq_of_comesTo {lines : List String} {script : Option String}
    {entered played : List (Outcome Reply)} {last : Session}
    (comes : Batch.ComesTo lines script entered played last) (given : lines ≠ [] ∨ script ≠ none)
    (input : String) (json : Bool) :
    run { lines, script := script.map .text, json } input =
      some (Batch.transcript entered played last json) := by
  have filled : Batch.isEmpty { lines, script := script.map .text, json } = false := by
    rcases given with lines | script <;> simp [Batch.isEmpty, *]
  rw [run, filled]
  exact comes.run_eq json

/-- What a batch does and what it prints, whatever lines it is given and whatever script it is given
that can be read, if there is one of either.

The lines are entered in turn up to the first that exits; the script is played if and only if none
has.  The lines for redirections come first, in order, and then the log or the view as JSON.  Each
line given that comes back with a message says goodbye.  The code is zero if and only if no line
given and no line of the script has failed.  With JSON or without, the same lines come to the same,
so errors, code and log are the same too. -/
theorem run_eq_of_batch (lines : List String) (script : Option String)
    (given : lines ≠ [] ∨ script ≠ none) (input : String) :
    (∃ entered played last, Batch.ComesTo lines script entered played last) ∧
      ∀ entered played last, Batch.ComesTo lines script entered played last →
        ∀ json, run { lines, script := script.map .text, json } input =
          some (Batch.transcript entered played last json) := by
  refine ⟨Batch.ComesTo.total lines script, fun entered played last comes json => ?_⟩
  exact run_eq_of_comesTo comes given input json

/-- Behind a line that exits no line is entered and the script is not played.  Where none exits the
script is played, and its first line fails. -/
theorem run_eq_of_batch_exited_or_played :
    let exiting := ["redirect /games", "cd nowhere", "exit", "pwd"]
    let staying := ["redirect /games"]
    let script := some "cd nowhere\npwd"
    (exiting ≠ [] ∨ script ≠ none) ∧ (staying ≠ [] ∨ script ≠ none) ∧
    (∃ entered played last, Batch.ComesTo exiting script entered played last ∧
      Batch.transcript entered played last false = {
        output := "redirect -> /games\n/ $ redirect /games\n/ $ cd nowhere\n" ++
          "Could not find directory \"nowhere\".\n/ $ exit\n"
        errors := "Goodbye.\nGoodbye.\n"
        code := 1 }) ∧
    ∃ entered played last, Batch.ComesTo staying script entered played last ∧
      Batch.transcript entered played last true = {
        output := "redirect -> /games\n\x7b\n  \"lines\": \"/ $ redirect /games\\n" ++
          "/ $ cd nowhere\\nCould not find directory \\\"nowhere\\\".\\n/ $ pwd\\n/\\n\",\n" ++
          "  \"prompt\": \"/ $ \",\n  \"input\": \"\"\n\x7d\n"
        errors := "Goodbye.\n"
        code := 1 } := by
  intro exiting staying script
  have given : exiting ≠ [] ∨ script ≠ none := .inl (by decide)
  have givenToo : staying ≠ [] ∨ script ≠ none := .inl (by decide)
  refine ⟨given, givenToo, ?_, ?_⟩
  · obtain ⟨⟨entered, played, last, comes⟩, runs⟩ := run_eq_of_batch exiting script given ""
    have printed := runs entered played last comes false
    refine ⟨entered, played, last, comes, Option.some.inj (printed.symm.trans ?_)⟩
    decide +kernel
  · obtain ⟨⟨entered, played, last, comes⟩, runs⟩ := run_eq_of_batch staying script givenToo ""
    have printed := runs entered played last comes true
    refine ⟨entered, played, last, comes, Option.some.inj (printed.symm.trans ?_)⟩
    decide +kernel

end VirtualTerminal.Console
