import VirtualTerminal.Console.Run
import VirtualTerminal.Proofs.Console.Basic
import VirtualTerminal.Proofs.Console.TypedText
import VirtualTerminal.Proofs.Session.Clearing
import VirtualTerminal.Proofs.Session.Directory
import VirtualTerminal.Proofs.Session.Typing

/-!
# Conversations

What is printed as the answer to a line is cut out of the log: the text behind as many bytes as the
log had before, less its first line.  That this is what the line has shown behind its echo takes two
things.  The echo must be one line, so no directory may have a line break in its path.  And where the
log was cleared nothing may be shown behind that; in the tree of the console only a typed line clears
the log, and it shows nothing more.
-/

namespace VirtualTerminal.Console

/-- What a submitted line is answered: nothing if it has called the builtin that clears the log, and
otherwise what it has shown behind its echo. -/
inductive Answers (session : Session) (line : String) (outcome : Outcome Unit) : String → Prop
  | cleared (calls : session.registry.clears (withoutControls line) = true)
      (cleared : .logCleared ∈ outcome.journal) : Answers session line outcome ""
  | shown {text : String} (kept : .logCleared ∉ outcome.journal)
      (log_eq : outcome.session.log =
        session.log ++ (session.prompt ++ withoutControls line ++ "\n") ++ text) :
      Answers session line outcome text

/-- What is printed while lines are submitted one after the other: for each line the redirections,
the answer, and then the next prompt or, if it has exited, a farewell. -/
inductive Converses : Session → List String → String → Prop
  | ended (session : Session) : Converses session [] "\n"
  | exited {session : Session} {line answer : String} {lines : List String} {outcome : Outcome Unit}
      (submitted : (SessionM.submit line).outcome session = some outcome)
      (answered : Answers session line outcome answer)
      (exits : .exit ∈ hostCalls outcome.journal) :
      Converses session (line :: lines)
        (appendLines "" (redirections outcome.journal) ++ answer ++ "Goodbye.\n")
  | goesOn {session : Session} {line answer text : String} {lines : List String}
      {outcome : Outcome Unit}
      (submitted : (SessionM.submit line).outcome session = some outcome)
      (answered : Answers session line outcome answer)
      (stays : .exit ∉ hostCalls outcome.journal)
      (rest : Converses outcome.session lines text) :
      Converses session (line :: lines)
        (appendLines "" (redirections outcome.journal) ++ answer ++ outcome.session.prompt ++ text)

theorem dropFirstLine_append {first : List Char} (whole : '\n' ∉ first) (text : List Char) :
    dropFirstLine (first ++ '\n' :: text) = text := by
  have others : ∀ c ∈ first, decide (c ≠ '\n') = true := by
    intro c member
    exact decide_eq_true fun same => whole (same ▸ member)
  rw [dropFirstLine, List.dropWhile_append_of_pos others, List.dropWhile_cons_of_neg (by simp),
    List.drop_one, List.tail_cons]

/-- Where a log has gained a line and more behind it, the gain is what is behind that line. -/
theorem gain_append {line : String} (whole : '\n' ∉ line.toList) (log text : String) :
    gain (Text.byteSize log.toList) (log ++ (line ++ "\n") ++ text) = text := by
  have characters : (log ++ (line ++ "\n") ++ text).toList =
      log.toList ++ (line.toList ++ '\n' :: text.toList) := by simp
  rw [gain, characters, Text.afterBytes?_append]
  show String.ofList (dropFirstLine _) = text
  rw [dropFirstLine_append whole, String.ofList_toList]

theorem gain_empty (bytes : Nat) : gain bytes "" = "" := by
  cases bytes <;> rfl

theorem newline_not_mem_withoutControls (line : String) :
    '\n' ∉ (withoutControls line).toList := by
  have control : Text.isControl '\n' = true := by decide
  simp [withoutControls, control]

/-- A session of the console that waits for the next line. -/
structure AtPrompt (session : Session) : Prop where
  home : session.toSurroundings = surroundings
  placed : session.IsPlaced
  input_eq : session.input = ""

/-- The lines of the introduction. -/
def introductionLines : List String := [
  "# Welcome to the termkit command line!",
  "# A brief overview of the features of this terminal:",
  "# - Simple directory and file structure (root: '/')",
  "# - Full scripting support using terminal commands (just how you ran this script!)",
  "# - Built in scoped executable files (try: $ run /hello_world.exe 10)",
  "# - Simple unix-like directory navigation.",
  "#",
  "# To start you off, I'm now going to run the 'help' command for you:",
  "help"]

theorem forall_mem_introductionLines :
    ∀ line ∈ introductionLines,
      '\n' ∉ line.toList ∧ surroundings.registry.clears line = false := by
  decide +kernel

theorem lines_introduction : Text.lines introduction = introductionLines := by
  have joined : introduction = "\n".intercalate introductionLines := by decide +kernel
  rw [joined]
  exact Text.lines_intercalate (List.cons_ne_nil _ _) fun line member =>
    (forall_mem_introductionLines line member).1

/-- What holds of the lines of the introduction and of the other script holds of all lines that files
of the console hold. -/
theorem forall_mem_texts {holds : String → Prop}
    (introduced : ∀ line ∈ introductionLines, holds line)
    (other : ∀ line ∈ Text.lines "redirect /games/minesweeper", holds line) :
    ∀ text ∈ surroundings.tree.texts, ∀ line ∈ Text.lines text, holds line := by
  have texts : surroundings.tree.texts = [introduction, "redirect /games/minesweeper"] := by
    decide +kernel
  rw [texts, List.forall_mem_cons, List.forall_mem_singleton, lines_introduction]
  exact ⟨introduced, other⟩

theorem leaveLog_surroundings : surroundings.LeaveLog where
  builtins := isBuiltin_of_mem
  exit := by decide
  redirect := by decide
  executables := by decide +kernel
  texts := by
    apply forall_mem_texts
    · exact fun line member => (forall_mem_introductionLines line member).2
    · decide +kernel

theorem newline_not_mem_fullPath :
    ∀ id < surroundings.tree.size, '\n' ∉ (surroundings.tree.fullPath id ++ promptMark).toList := by
  decide +kernel

namespace AtPrompt

variable {session : Session} {line : String} {outcome : Outcome Unit}

theorem newline_not_mem_prompt (waits : AtPrompt session) : '\n' ∉ session.prompt.toList := by
  have valid := waits.placed.valid
  rw [waits.placed.prompt_eq, Session.directoryPath]
  rw [waits.home] at valid ⊢
  exact newline_not_mem_fullPath _ valid

/-- A line that is submitted comes to an end, after which the next one is waited for. -/
theorem submit_ends (waits : AtPrompt session) (line : String) :
    ∃ outcome, (SessionM.submit line).outcome session = some outcome := by
  have home : (session.filled line).toSurroundings = surroundings := waits.home
  obtain ⟨entered, reached⟩ := enter_ends home (withoutControls line)
  rw [SessionM.submit_outcome_of_empty waits.input_eq, reached]
  exact ⟨_, rfl⟩

theorem of_submitted (waits : AtPrompt session)
    (reached : (SessionM.submit line).outcome session = some outcome) :
    AtPrompt outcome.session where
  home := home_of_outcome waits.home reached
  placed := by
    have lines := Course.placed_isLocal.follows_enter
    have follows : (SessionM.submit line).Follows .placed :=
      Course.follows_submit lines Course.placed_keystroke line
    rw [SessionM.outcome_session reached]
    exact waits.placed.replay (Course.admits_of_outcome follows reached waits.placed)
  input_eq := by
    rw [SessionM.submit_outcome_of_empty waits.input_eq] at reached
    obtain ⟨entered, -, rfl⟩ := Option.map_eq_some_iff.mp reached
    rfl

/-- What a submitted line has made of the log and told of. -/
theorem exists_entered (waits : AtPrompt session)
    (reached : (SessionM.submit line).outcome session = some outcome) :
    ∃ entered, (SessionM.enter (withoutControls line)).outcome (session.filled line) =
        some entered ∧
      outcome.session.log = entered.journal.foldl Event.writeLog session.log ∧
      (.logCleared ∈ outcome.journal ↔ .logCleared ∈ entered.journal) := by
  rw [SessionM.submit_outcome_of_empty waits.input_eq] at reached
  obtain ⟨entered, entering, rfl⟩ := Option.map_eq_some_iff.mp reached
  refine ⟨entered, entering, ?_, by simp [edits]⟩
  show entered.session.log = _
  rw [SessionM.outcome_session entering, log_replay]
  rfl

/-- A submitted line that clears the log calls the builtin for that and leaves the log empty. -/
theorem log_of_cleared (waits : AtPrompt session)
    (reached : (SessionM.submit line).outcome session = some outcome)
    (cleared : .logCleared ∈ outcome.journal) :
    session.registry.clears (withoutControls line) = true ∧ outcome.session.log = "" := by
  obtain ⟨entered, entering, log, same⟩ := waits.exists_entered reached
  have leave : (session.filled line).toSurroundings.LeaveLog := waits.home ▸ leaveLog_surroundings
  obtain ⟨calls, front, journal⟩ := clearsAtEnd_of_enter leave entering (same.mp cleared)
  refine ⟨calls, ?_⟩
  rw [log, journal, List.foldl_append]
  rfl

/-- A submitted line that does not clear the log is shown behind what the log holds already. -/
theorem log_of_kept (waits : AtPrompt session)
    (reached : (SessionM.submit line).outcome session = some outcome)
    (kept : .logCleared ∉ outcome.journal) :
    ∃ text, outcome.session.log =
      session.log ++ (session.prompt ++ withoutControls line ++ "\n") ++ text := by
  obtain ⟨entered, entering, log, same⟩ := waits.exists_entered reached
  obtain ⟨nesting, opened⟩ := SessionM.entered_of_enter entering
  obtain ⟨rest, journal⟩ := opened.exists_journal_eq
  have later : .logCleared ∉ rest := fun member => kept (same.mpr (by simp [journal, member]))
  refine ⟨shown rest, ?_⟩
  rw [log, journal, List.foldl_append, foldl_writeLog _ rest, if_neg later]
  simp [Session.opening, Event.writeLog, String.append_assoc, Session.filled, Session.filed]

theorem exists_answer (waits : AtPrompt session)
    (reached : (SessionM.submit line).outcome session = some outcome) :
    ∃ answer, Answers session line outcome answer := by
  by_cases cleared : .logCleared ∈ outcome.journal
  · exact ⟨"", .cleared (waits.log_of_cleared reached cleared).1 cleared⟩
  · obtain ⟨text, log⟩ := waits.log_of_kept reached cleared
    exact ⟨text, .shown cleared log⟩

/-- What is cut out of the log is what the line is answered. -/
theorem gain_eq {answer : String} (waits : AtPrompt session)
    (reached : (SessionM.submit line).outcome session = some outcome)
    (answered : Answers session line outcome answer) :
    gain (Text.byteSize session.log.toList) outcome.session.log = answer := by
  cases answered with
  | cleared _ cleared => rw [(waits.log_of_cleared reached cleared).2, gain_empty]
  | shown kept log =>
      have whole : '\n' ∉ (session.prompt ++ withoutControls line).toList := by
        rw [String.toList_append, List.mem_append, not_or]
        exact ⟨waits.newline_not_mem_prompt, newline_not_mem_withoutControls line⟩
      rw [log, gain_append whole]

end AtPrompt

theorem atPrompt_openingSession : AtPrompt openingSession where
  home := rfl
  placed := Config.session_isPlaced _
  input_eq := rfl

/-! ### Responses -/

/-- The responses to lines, up to the first line that exits. -/
def converse (session : Session) : List String → Option (List Response)
  | [] => some []
  | line :: lines => do
      let response ← respond session line
      if response.exited then return [response]
      else return response :: (← converse response.session lines)

/-- What the responses to some lines print. -/
def printed (responses : List Response) : String :=
  String.join (responses.map Response.output) ++
    if responses.any Response.exited then "" else ending

theorem printed_of_exited {response : Response} (exits : response.exited = true) :
    printed [response] = response.output := by
  simp [printed, exits]

theorem printed_cons {response : Response} (stays : response.exited = false)
    (responses : List Response) :
    printed (response :: responses) = response.output ++ printed responses := by
  simp [printed, stays, String.append_assoc]

/-- The response to a line. -/
def Response.ofOutcome (session : Session) (outcome : Outcome Unit) : Response where
  session := outcome.session
  journal := outcome.journal
  output := printCalls outcome.journal ++
    gain (Text.byteSize session.log.toList) outcome.session.log ++
    if hasExited outcome.journal then farewell else outcome.session.prompt

section

variable {session : Session} {line : String} {outcome : Outcome Unit}

theorem respond_eq (submitted : (SessionM.submit line).outcome session = some outcome) :
    respond session line = some (.ofOutcome session outcome) := by
  rw [respond, submitted]
  rfl

theorem exited_ofOutcome (session : Session) (exits : .exit ∈ hostCalls outcome.journal) :
    (Response.ofOutcome session outcome).exited = true :=
  decide_eq_true exits

theorem not_exited_ofOutcome (session : Session) (stays : .exit ∉ hostCalls outcome.journal) :
    (Response.ofOutcome session outcome).exited = false :=
  decide_eq_false stays

/-- A line that exits is answered, and no line behind it. -/
theorem converse_of_exit (submitted : (SessionM.submit line).outcome session = some outcome)
    (exits : .exit ∈ hostCalls outcome.journal) (lines : List String) :
    converse session (line :: lines) = some [.ofOutcome session outcome] := by
  rw [converse, respond_eq submitted]
  simp [exited_ofOutcome session exits]

/-- Behind a line that does not exit the next ones are answered. -/
theorem converse_of_stay (submitted : (SessionM.submit line).outcome session = some outcome)
    (stays : .exit ∉ hostCalls outcome.journal) {lines : List String}
    {responses : List Response} (further : converse outcome.session lines = some responses) :
    converse session (line :: lines) = some (.ofOutcome session outcome :: responses) := by
  have rest : converse (Response.ofOutcome session outcome).session lines = some responses := further
  rw [converse, respond_eq submitted]
  simp [not_exited_ofOutcome session stays, rest]

theorem output_of_exit (session : Session) (exits : .exit ∈ hostCalls outcome.journal) :
    (Response.ofOutcome session outcome).output =
      appendLines "" (redirections outcome.journal) ++
        gain (Text.byteSize session.log.toList) outcome.session.log ++ "Goodbye.\n" := by
  simp [Response.ofOutcome, hasExited, exits, farewell, printCalls_eq_appendLines]

theorem output_of_stay (session : Session) (stays : .exit ∉ hostCalls outcome.journal) :
    (Response.ofOutcome session outcome).output =
      appendLines "" (redirections outcome.journal) ++
        gain (Text.byteSize session.log.toList) outcome.session.log ++ outcome.session.prompt := by
  simp [Response.ofOutcome, hasExited, stays, printCalls_eq_appendLines]

end

/-- At the console there is a conversation about any lines. -/
theorem Converses.total {session : Session} (waits : AtPrompt session) (lines : List String) :
    ∃ text, Converses session lines text := by
  induction lines generalizing session with
  | nil => exact ⟨"\n", .ended session⟩
  | cons line lines inductionHypothesis =>
      obtain ⟨outcome, submitted⟩ := waits.submit_ends line
      obtain ⟨answer, answered⟩ := waits.exists_answer submitted
      by_cases exits : .exit ∈ hostCalls outcome.journal
      · exact ⟨_, .exited submitted answered exits⟩
      · obtain ⟨text, rest⟩ := inductionHypothesis (waits.of_submitted submitted)
        exact ⟨_, .goesOn submitted answered exits rest⟩

/-- The responses print the conversation about the lines. -/
theorem Converses.printed_eq {session : Session} {lines : List String} {text : String}
    (converses : Converses session lines text) (waits : AtPrompt session) :
    ∃ responses, converse session lines = some responses ∧ printed responses = text := by
  induction converses with
  | ended session => exact ⟨[], rfl, rfl⟩
  | @exited session _ _ _ outcome submitted answered exits =>
      refine ⟨_, converse_of_exit submitted exits _, ?_⟩
      rw [printed_of_exited (exited_ofOutcome session exits), output_of_exit session exits,
        waits.gain_eq submitted answered]
  | @goesOn session _ _ _ _ outcome submitted answered stays _ inductionHypothesis =>
      obtain ⟨responses, conversed, rest⟩ := inductionHypothesis (waits.of_submitted submitted)
      refine ⟨_, converse_of_stay submitted stays conversed, ?_⟩
      rw [printed_cons (not_exited_ofOutcome session stays), output_of_stay session stays,
        waits.gain_eq submitted answered, rest]

/-! ### Runs -/

theorem turn_eq {session : Session} {reading : String} {response : Response} (filled : reading ≠ "")
    (responded : respond session (typedLine reading) = some response) :
    turn session reading = some {
      output := response.output
      next := if response.exited then none else some response.session } := by
  rw [turn, if_neg filled, responded]
  rfl

/-- All that is printed on readings is what the responses to the lines in them print. -/
theorem exchange_eq {session : Session} {readings : List String} {responses : List Response}
    (filled : ∀ reading ∈ readings, reading ≠ "")
    (conversed : converse session (readings.map typedLine) = some responses) :
    exchange session readings = some (printed responses) := by
  induction readings generalizing session responses with
  | nil =>
      cases conversed
      rfl
  | cons reading readings inductionHypothesis =>
      obtain ⟨here, later⟩ := List.forall_mem_cons.mp filled
      rw [List.map_cons, converse] at conversed
      obtain ⟨response, responded, conversed⟩ := Option.bind_eq_some_iff.mp conversed
      rw [exchange, turn_eq here responded]
      cases exits : response.exited with
      | true =>
          rw [if_pos exits] at conversed
          cases conversed
          simp [printed_of_exited exits]
      | false =>
          rw [if_neg (Bool.eq_false_iff.mp exits)] at conversed
          obtain ⟨responses, further, conversed⟩ := Option.bind_eq_some_iff.mp conversed
          cases conversed
          simp [inductionHypothesis later further, printed_cons exits]

/-- Where there is nothing to do but to converse, printed is what the lines that were typed are
answered. -/
theorem run_eq_of_typedAs {input : String} {lines : List String} {responses : List Response}
    (typed : TypedAs input lines) (conversed : converse openingSession lines = some responses)
    (json : Bool) : run { json } input = some { output := opening ++ printed responses } := by
  rw [← typed.typedLines_eq] at conversed
  have exchanged := exchange_eq (fun _ => ne_empty_of_mem_readings) conversed
  rw [run, interact, exchanged]
  rfl

/-- What is printed where there is nothing to do but to converse, whatever is typed: the banner, the
first prompt and then the conversation about the lines that were typed.  There are no errors. -/
theorem run_eq_of_conversation (input : String) :
    (∃ lines text, TypedAs input lines ∧ Converses openingSession lines text) ∧
      ∀ lines text, TypedAs input lines → Converses openingSession lines text →
        ∀ json, run { json } input = some {
          output := "Welcome to termkit. Type `help` to list commands.\n" ++ "/ $ " ++ text
          errors := ""
          code := 0 } := by
  constructor
  · obtain ⟨lines, typed⟩ := TypedAs.total input
    obtain ⟨text, converses⟩ := Converses.total atPrompt_openingSession lines
    exact ⟨lines, text, typed, converses⟩
  · intro lines text typed converses json
    obtain ⟨responses, conversed, same⟩ := converses.printed_eq atPrompt_openingSession
    have start : opening = "Welcome to termkit. Type `help` to list commands.\n" ++ "/ $ " := by
      decide +kernel
    rw [run_eq_of_typedAs typed conversed, start, same]

/-- The first line redirects, the second clears the log, and the fourth exits, so the fifth is not
submitted. -/
theorem run_eq_of_conversation_exited :
    let input := "redirect /games\r\nclear\npwd\nexit\nhelp"
    let lines := ["redirect /games", "clear", "pwd", "exit", "help"]
    let text := "redirect -> /games\n/ $ / $ /\n/ $ Goodbye.\n"
    TypedAs input lines ∧ Converses openingSession lines text ∧
      ∀ json, run { json } input = some {
        output := "Welcome to termkit. Type `help` to list commands.\n" ++ "/ $ " ++ text
        errors := ""
        code := 0 } := by
  intro input lines text
  have typed : TypedAs input lines := by
    rw [typedAs_iff]
    decide +kernel
  have ran : run {} input = some {
      output := "Welcome to termkit. Type `help` to list commands.\n" ++ "/ $ " ++ text } := by
    decide +kernel
  obtain ⟨⟨others, answer, typedToo, converses⟩, runs⟩ := run_eq_of_conversation input
  obtain rfl : others = lines := typedToo.typedLines_eq.symm.trans typed.typedLines_eq
  have same := Option.some.inj ((runs lines answer typed converses false).symm.trans ran)
  obtain rfl : answer = text := by simpa using congrArg Transcript.output same
  exact ⟨typed, converses, runs lines text typed converses⟩

end VirtualTerminal.Console
