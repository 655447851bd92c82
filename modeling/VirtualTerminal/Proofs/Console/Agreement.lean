import VirtualTerminal.Proofs.Console.Batch
import VirtualTerminal.Proofs.Console.Conversation
import VirtualTerminal.Proofs.Session.TypedLine

/-!
# Lines given and lines typed

The console takes lines from the command line, where they are entered, and from its input, where they
are typed.  A line does the same either way unless it loses a control character that separates tokens
or stands in one.
-/

namespace VirtualTerminal.Console

/-- The response to a typed line is what an entered line has done: the sessions are alike, the host
was called in the same way, and printed is what the line has shown behind its echo. -/
structure Response.Matches (response : Response) (outcome : Outcome Reply) : Prop where
  alike : outcome.session.IsLike response.session
  calls : hostCalls response.journal = hostCalls outcome.journal
  output : ∃ session line rest, outcome.journal = Session.opening session line ++ rest ∧
    response.output = printCalls outcome.journal ++ shown rest ++
      if Exits outcome then farewell else outcome.session.prompt

theorem hideTyping_surroundings : surroundings.HideTyping where
  builtins := isBuiltin_of_mem
  exit := by decide
  redirect := by decide
  executables := by decide +kernel

variable {first second : Session} {line : String} {entered : Outcome Reply}
  {submitted : Outcome Unit} {text : String}

/-- What a line shows behind its echo is what its submission is answered. -/
theorem answers_of_leavesAs (waits : AtPrompt second)
    (reached : (SessionM.submit line).outcome second = some submitted)
    (leaves : LeavesAs first second line (withoutControls line) entered submitted text) :
    Answers second line submitted text := by
  by_cases cleared : .logCleared ∈ submitted.journal
  · obtain ⟨calls, empty⟩ := waits.log_of_cleared reached cleared
    have left := (leaves.log_of_cleared (leaves.cleared.mp cleared)).2
    rw [← left, empty]
    exact .cleared calls cleared
  · exact .shown cleared (leaves.log_of_kept (mt leaves.cleared.mpr cleared)).2

theorem matches_of_leavesAs (waits : AtPrompt second)
    (reached : (SessionM.submit line).outcome second = some submitted)
    (leaves : LeavesAs first second line (withoutControls line) entered submitted text) :
    (Response.ofOutcome second submitted).Matches entered := by
  have answer := waits.gain_eq reached (answers_of_leavesAs waits reached leaves)
  have prompt : submitted.session.prompt = entered.session.prompt := by
    obtain ⟨input, history, log, same⟩ := leaves.alike
    rw [same]
  obtain ⟨rest, journal, rfl⟩ := leaves.shown
  refine ⟨leaves.alike, leaves.calls, first, line, rest, journal, ?_⟩
  by_cases exits : Exits entered
  · have exitsToo : hasExited submitted.journal = true := decide_eq_true (leaves.calls ▸ exits)
    simp [Response.ofOutcome, printCalls, leaves.calls, answer, exits, exitsToo]
  · have stays : hasExited submitted.journal = false := decide_eq_false (leaves.calls ▸ exits)
    simp [Response.ofOutcome, printCalls, leaves.calls, answer, exits, stays, prompt]

/-- Lines that are typed one after the other are answered with what they do on the command line. -/
theorem Enters.exists_responses {last : Session} {lines : List String}
    {outcomes : List (Outcome Reply)} (enters : Enters Exits first lines outcomes last)
    (home : first.toSurroundings = surroundings) (alike : first.IsLike second)
    (waits : AtPrompt second)
    (same : ∀ line ∈ lines, Line.tokens (withoutControls line) = Line.tokens line) :
    ∃ responses, converse second lines = some responses ∧
      List.Forall₂ Response.Matches responses outcomes := by
  induction enters generalizing second with
  | done session => exact ⟨[], rfl, .nil⟩
  | @stopped session line lines outcome entered stop =>
      obtain ⟨submitted, text, reached, leaves⟩ := exists_leavesAs
        (home ▸ hideTyping_surroundings) alike waits.input_eq (same line List.mem_cons_self) entered
      have exits : .exit ∈ hostCalls submitted.journal := leaves.calls ▸ stop
      exact ⟨_, converse_of_exit reached exits lines,
        .cons (matches_of_leavesAs waits reached leaves) .nil⟩
  | @goesOn session last line lines outcome outcomes entered on rest inductionHypothesis =>
      obtain ⟨submitted, text, reached, leaves⟩ := exists_leavesAs
        (home ▸ hideTyping_surroundings) alike waits.input_eq (same line List.mem_cons_self) entered
      have stays : .exit ∉ hostCalls submitted.journal := leaves.calls ▸ on
      obtain ⟨responses, conversed, matching⟩ := inductionHypothesis
        (home_of_outcome home entered) leaves.alike (waits.of_submitted reached)
        fun other member => same other (List.mem_cons_of_mem _ member)
      exact ⟨_, converse_of_stay reached stays conversed,
        .cons (matches_of_leavesAs waits reached leaves) matching⟩

/-- Typed lines do what entered lines do.

* Where the buffer is empty, all commands are builtins, and neither the host nor a file shows what is
  typed, submitting a line leaves what entering the line without its control characters leaves.
* So it leaves what entering the line itself leaves, the echo apart, if it splits into the same
  tokens without its control characters.
* Such lines are answered at the console with what they do when they are given as arguments: as many
  of them are entered, and each does the same.  A run in which they are typed prints these answers,
  and a run that they are given to prints what comes of them there.
-/
theorem typed_lines_do_as_entered :
    (∀ session : Session, session.input = "" → session.toSurroundings.HideTyping →
      ∀ line, ∃ submitted, (SessionM.submit line).outcome session = some submitted ∧
        (∃ entered text,
          (SessionM.enter (withoutControls line)).outcome session = some entered ∧
          LeavesAs session session (withoutControls line) (withoutControls line) entered submitted
            text) ∧
        (Line.tokens (withoutControls line) = Line.tokens line → ∃ entered text,
          (SessionM.enter line).outcome session = some entered ∧
          LeavesAs session session line (withoutControls line) entered submitted text)) ∧
    ∀ lines : List String,
      (∀ line ∈ lines, Line.tokens (withoutControls line) = Line.tokens line) →
      ∃ outcomes last responses,
        Progress.start.enterLines lines = some (Progress.start.through outcomes last) ∧
        Enters Exits Progress.start.session lines outcomes last ∧
        converse openingSession lines = some responses ∧
        List.Forall₂ Response.Matches responses outcomes ∧
        (∀ input, TypedAs input lines → ∀ json,
          run { json } input = some { output := opening ++ printed responses }) ∧
        (lines ≠ [] → ∀ input json,
          run { lines, json } input = some (Batch.transcript outcomes [] last json)) := by
  constructor
  · intro session empty hide line
    have alike : session.IsLike session := ⟨_, _, _, rfl⟩
    have nests : ∀ command ∈ session.registry.toList, command.entersLines = false :=
      fun command member => Command.entersLines_eq_false (hide.builtins command member)
    obtain ⟨visible, entering⟩ := VirtualTerminal.enter_ends nests (withoutControls line)
    obtain ⟨submitted, text, reached, leaves⟩ := exists_leavesAs hide alike empty rfl entering
    refine ⟨submitted, reached, ⟨visible, text, entering, leaves⟩, fun same => ?_⟩
    obtain ⟨entered, whole⟩ := VirtualTerminal.enter_ends nests line
    obtain ⟨other, shownText, done, leavesToo⟩ := exists_leavesAs hide alike empty same whole
    cases reached.symm.trans done
    exact ⟨entered, shownText, whole, leavesToo⟩
  · intro lines same
    have home : Progress.start.session.toSurroundings = surroundings := rfl
    have alike : Progress.start.session.IsLike openingSession := ⟨_, _, _, rfl⟩
    obtain ⟨outcomes, last, enters⟩ := Enters.total Exits lines home
    obtain ⟨responses, conversed, matching⟩ :=
      enters.exists_responses home alike atPrompt_openingSession same
    refine ⟨outcomes, last, responses, Progress.enterLines_eq enters rfl rfl, enters, conversed,
      matching, fun input typed json => run_eq_of_typedAs typed conversed json, ?_⟩
    intro given input json
    exact run_eq_of_comesTo (.of_enters enters) (.inl given) input json

/-- A tab beside a blank separates nothing that the blank does not. -/
theorem typed_lines_do_as_entered_tabbed :
    Line.tokens (withoutControls "cd \t games") = Line.tokens "cd \t games" ∧
    openingSession.input = "" ∧ openingSession.toSurroundings.HideTyping ∧
    (∃ submitted entered text,
      (SessionM.submit "cd \t games").outcome openingSession = some submitted ∧
      (SessionM.enter "cd \t games").outcome openingSession = some entered ∧
      LeavesAs openingSession openingSession "cd \t games" "cd  games" entered submitted text ∧
      submitted.session.directory = 1) ∧
    TypedAs "cd \t games\nexit" ["cd \t games", "exit"] ∧
    ∃ outcomes last responses,
      Enters Exits Progress.start.session ["cd \t games", "exit"] outcomes last ∧
      converse openingSession ["cd \t games", "exit"] = some responses ∧
      List.Forall₂ Response.Matches responses outcomes ∧
      run {} "cd \t games\nexit" = some { output := opening ++ printed responses } ∧
      run { lines := ["cd \t games", "exit"] } "" =
        some (Batch.transcript outcomes [] last false) := by
  have same : Line.tokens (withoutControls "cd \t games") = Line.tokens "cd \t games" := by
    decide +kernel
  have echo : withoutControls "cd \t games" = "cd  games" := by decide +kernel
  have changed : ((SessionM.submit "cd \t games").outcome openingSession).any
      (·.session.directory = 1) = true := by decide +kernel
  have sameToo : ∀ line ∈ ["cd \t games", "exit"],
      Line.tokens (withoutControls line) = Line.tokens line := by decide +kernel
  have typed : TypedAs "cd \t games\nexit" ["cd \t games", "exit"] := by
    rw [typedAs_iff]
    decide +kernel
  obtain ⟨alone, together⟩ := typed_lines_do_as_entered
  obtain ⟨submitted, reached, -, leaves⟩ :=
    alone openingSession rfl hideTyping_surroundings "cd \t games"
  obtain ⟨entered, text, entering, leavesAs⟩ := leaves same
  obtain ⟨outcomes, last, responses, -, enters, conversed, matching, prints, printsToo⟩ :=
    together ["cd \t games", "exit"] sameToo
  obtain ⟨other, done, there⟩ := (Option.any_eq_true _ _).mp changed
  cases reached.symm.trans done
  rw [echo] at leavesAs
  exact ⟨same, rfl, hideTyping_surroundings, ⟨submitted, entered, text, reached, entering, leavesAs,
    of_decide_eq_true there⟩, typed, outcomes, last, responses, enters, conversed, matching,
    prints _ typed false, printsToo (List.cons_ne_nil _ _) "" false⟩

/-- A tab between two words separates them where the line is entered.  It is not typed, and then the
words are one. -/
theorem typed_tab_joins_words :
    openingSession.input = "" ∧ openingSession.registry = Registry.builtins ∧
    openingSession.toSurroundings.HideTyping ∧
    '\n' ∉ "cd\tgames".toList ∧ '\r' ∉ "cd\tgames".toList ∧
    ∃ entered submitted, (SessionM.enter "cd\tgames").outcome openingSession = some entered ∧
      (SessionM.submit "cd\tgames").outcome openingSession = some submitted ∧
      submitted.session.directory ≠ entered.session.directory ∧
      submitted.session.prompt ≠ entered.session.prompt := by
  have enters : ((SessionM.enter "cd\tgames").outcome openingSession).any (fun entered =>
      entered.session.directory = 1 ∧ entered.session.prompt = "/games/ $ ") = true := by
    decide +kernel
  have submits : ((SessionM.submit "cd\tgames").outcome openingSession).any (fun submitted =>
      submitted.session.directory = 0 ∧ submitted.session.prompt = "/ $ ") = true := by
    decide +kernel
  obtain ⟨entered, entering, left⟩ := (Option.any_eq_true _ _).mp enters
  obtain ⟨submitted, reached, stayed⟩ := (Option.any_eq_true _ _).mp submits
  obtain ⟨games, gamesPrompt⟩ := of_decide_eq_true left
  obtain ⟨root, rootPrompt⟩ := of_decide_eq_true stayed
  refine ⟨rfl, rfl, hideTyping_surroundings, by decide +kernel, by decide +kernel, entered, submitted,
    entering, reached, ?_, ?_⟩
  · rw [games, root]
    decide
  · rw [gamesPrompt, rootPrompt]
    decide +kernel

end VirtualTerminal.Console
