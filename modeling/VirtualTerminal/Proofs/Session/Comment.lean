import VirtualTerminal.Proofs.Line.Comment
import VirtualTerminal.Proofs.Session.Leftover
import VirtualTerminal.Proofs.Session.Log
import VirtualTerminal.Proofs.Session.ScriptFile

/-!
# Comments in scripts

A comment that can be read is counted like any other command and does nothing else but show itself.
So comments between the lines of a script leave their traces in the log and in the count alone:
outside nested scripts each line has all its commands again, inside them those that the comments
spend may be missing further on.
-/

namespace VirtualTerminal

open SessionM

namespace Report

/-- The report of a script that has further lines, of which none fails. -/
def withLines (report : Report) (more : Nat) : Report :=
  { report with lines := report.lines + more }

variable (report : Report) (more : Nat)

theorem withLines_add (reply : Reply) :
    (report.withLines more).add reply = (report.add reply).withLines more := by
  cases reply <;> simp [add, withLines, Nat.add_right_comm]

theorem withLines_add_nothing :
    (report.withLines more).add .nothing = report.withLines (more + 1) := rfl

end Report

/-- The second session differs from the first in the log and the count of commands at most. -/
def Session.IsAnnotated (plain annotated : Session) : Prop :=
  ∃ log commands, annotated = { plain.counting commands with log := log }

namespace Session.IsAnnotated

variable {plain annotated : Session}

theorem refl (session : Session) : session.IsAnnotated session :=
  ⟨session.log, session.meter.commands, rfl⟩

theorem toSurroundings_eq (noted : plain.IsAnnotated annotated) :
    annotated.toSurroundings = plain.toSurroundings := by
  obtain ⟨log, commands, rfl⟩ := noted
  rfl

theorem depth_eq (noted : plain.IsAnnotated annotated) :
    annotated.meter.depth = plain.meter.depth := by
  obtain ⟨log, commands, rfl⟩ := noted
  rfl

/-- One more command that does nothing but show itself. -/
theorem shown (noted : plain.IsAnnotated annotated) (log : String) :
    plain.IsAnnotated { annotated with log := log, meter := annotated.meter.atLine.count } := by
  obtain ⟨_, commands, rfl⟩ := noted
  refine ⟨log, ({ plain.meter with commands := commands } : Meter).atLine.count.commands, ?_⟩
  unfold Session.counting Meter.atLine Meter.reset
  split <;> rfl

end Session.IsAnnotated

/-- The second outcome has the value of the first with a change, calls the host in the same way and
leaves a session that differs in the log and the count of commands at most. -/
structure Outcome.IsAnnotated {α : Type} (change : α → α) (plain annotated : Outcome α) : Prop where
  value : annotated.value = change plain.value
  calls : hostCalls annotated.journal = hostCalls plain.journal
  session : plain.session.IsAnnotated annotated.session

theorem Outcome.map_after_nil {α : Type} (outcome : Option (Outcome α)) :
    outcome.map (.after []) = outcome := by
  cases outcome <;> rfl

theorem Outcome.rel_after {α : Type} {change : α → α} {plain annotated : Option (Outcome α)}
    {before beforeToo : List Event} (calls : hostCalls beforeToo = hostCalls before)
    (rest : Option.Rel (IsAnnotated change) plain annotated) :
    Option.Rel (IsAnnotated change) (plain.map (.after before))
      (annotated.map (.after beforeToo)) := by
  cases rest with
  | none => exact .none
  | some noted =>
      refine .some ⟨noted.value, ?_, noted.session⟩
      simp only [Outcome.after, hostCalls_append, calls, noted.calls]

namespace SessionM

/-! ### One comment -/

section

variable {session : Session} {command : Command} {text : String}

theorem called?_comment {registry : Registry} {ts : List String}
    (registered : registry.get? "#" = some command) (read : Line.tokens text = .ok ts) :
    registry.called? (Line.comment text) = some (command, ts) := by
  simp [Registry.called?, Line.tokens_comment, read, Except.map, registered]

/-- A comment that can be read is shown and counted. -/
theorem enter_comment_outcome {ts : List String}
    (registered : session.registry.get? "#" = some command)
    (builtin : command.handler = .builtin .comment) (read : Line.tokens text = .ok ts)
    (left : session.meter.atLine.commands < session.limits.commands) :
    (enter (Line.comment text)).outcome session = some {
      value := .nothing
      session := { session with
        log := session.log ++ (session.prompt ++ Line.comment text) ++ "\n"
        meter := session.meter.atLine.count }
      journal := session.opening (Line.comment text) ++ calling (Line.comment text) command ts ++
        closing (Line.comment text) .nothing } := by
  obtain ⟨nesting, bound⟩ : ∃ nesting, session.nestingBound (Line.comment text) = nesting + 1 :=
    ⟨_, rfl⟩
  have called := called?_comment registered read
  have handled : (handle (enterWithin nesting) command ts).outcome
      (session.replay (session.opening (Line.comment text) ++
        calling (Line.comment text) command ts)) = some {
          value := .nothing
          session := session.replay (session.opening (Line.comment text) ++
            calling (Line.comment text) command ts) } := by
    rw [handle, builtin]
    rfl
  rw [enter_outcome, bound, enterWithin, enterStep_outcome_of_handled called left handled]
  rfl

/-- One that cannot be read fails before it is known that it is a comment. -/
theorem enter_comment_outcome_of_unread {error : Error} (unread : Line.tokens text = .error error) :
    (enter (Line.comment text)).outcome session = some {
      value := .error error
      session := { session with
        log := session.log ++ (session.prompt ++ Line.comment text) ++ "\n" ++ error.message ++ "\n"
        meter := session.meter.atLine }
      journal := session.opening (Line.comment text) ++
        closing (Line.comment text) (.error error) } := by
  obtain ⟨nesting, bound⟩ : ∃ nesting, session.nestingBound (Line.comment text) = nesting + 1 :=
    ⟨_, rfl⟩
  have reading : Line.tokens (Line.comment text) = .error error := by
    rw [Line.tokens_comment, unread, Except.map]
  rw [enter_outcome, bound, enterWithin, enterStep_outcome, interpret, reading]
  rfl

/-- A line that calls a command and reaches no limit of commands has had one left. -/
theorem left_of_enter {line : String} {arguments : List String} {outcome : Outcome Reply}
    (called : session.registry.called? line = some (command, arguments))
    (reached : (enter line).outcome session = some outcome)
    (unspent : ∀ max, .limitReached (.commands max) ∉ outcome.journal) :
    session.meter.atLine.commands < session.limits.commands := by
  obtain ⟨nesting, entered⟩ := entered_of_enter reached
  generalize outcome.value = reply, outcome.journal = journal at entered unspent
  cases entered with
  | uncalled uncalled => exact absurd (uncalled.symm.trans called) nofun
  | refused => exact absurd (by simp [Session.refusal]) (unspent session.limits.commands)
  | handled _ left => exact left

end

/-! ### The lines between the comments -/

variable {plain annotated : Session}

/-- Outside nested scripts a line takes no account of what was logged and counted before. -/
theorem enter_outcome_of_annotated_outside (outside : plain.meter.depth = 0)
    (noted : plain.IsAnnotated annotated) (line : String) :
    Option.Rel (Outcome.IsAnnotated id) ((enter line).outcome plain)
      ((enter line).outcome annotated) := by
  obtain ⟨log, commands, rfl⟩ := noted
  rw [← enter_outcome_atLine plain,
    ← enter_outcome_atLine { plain.counting commands with log := log }]
  have same : ({ { plain.counting commands with log := log } with
        meter := ({ plain.counting commands with log := log } : Session).meter.atLine } : Session) =
      { ({ plain with meter := plain.meter.atLine } : Session) with log := log } := by
    simp [Session.counting, Meter.atLine, Meter.reset, outside]
  rw [same]
  rcases ignoresLog_of_couples (couples_enter_relogged line)
      { plain with meter := plain.meter.atLine } log with
    ⟨endless, endlessToo⟩ | ⟨first, second, reached, done, value, journal, session, -⟩
  · rw [endless, endlessToo]
    exact .none
  · rw [reached, done]
    exact .some ⟨value, congrArg hostCalls journal, ⟨_, first.session.meter.commands, session⟩⟩

/-- Inside them a line that reaches no limit of commands does the same after fewer commands. -/
theorem enter_outcome_of_annotated_inside (noted : plain.IsAnnotated annotated)
    (fewer : plain.meter.commands ≤ annotated.meter.commands) {line : String}
    {result : Outcome Reply} (reached : (enter line).outcome annotated = some result)
    (unspent : ∀ max, .limitReached (.commands max) ∉ result.journal) :
    ∃ outcome, (enter line).outcome plain = some outcome ∧ outcome.IsAnnotated id result ∧
      outcome.session.meter.commands ≤ result.session.meter.commands := by
  obtain ⟨log, commands, rfl⟩ := noted
  obtain ⟨spared, sparing, spares⟩ := couples_enter_spared line _ _
    ⟨plain.meter.commands, fewer, rfl⟩ result reached fun event member max limit =>
      unspent max (limit ▸ member)
  have alike : Coupling.relogged.Alike
      (({ plain.counting commands with log := log } : Session).counting plain.meter.commands)
      plain := ⟨plain.log, rfl⟩
  obtain ⟨outcome, done, relogs⟩ :=
    couples_enter_relogged line _ _ alike spared sparing fun _ _ => trivial
  obtain ⟨count, less, session⟩ := spares.alike
  obtain ⟨text, sessionToo⟩ := relogs.alike
  have journal : outcome.journal = result.journal := by
    rw [relogs.journal, spares.journal]
    exact (map_mapDepth_id _).trans (map_mapDepth_id _)
  rw [session] at sessionToo
  refine ⟨outcome, done, ⟨?_, congrArg hostCalls journal.symm, ?_⟩, ?_⟩
  · exact (relogs.value.trans spares.value).symm
  · exact ⟨result.session.log, result.session.meter.commands, by rw [sessionToo]; rfl⟩
  · rw [sessionToo]
    exact less

/-! ### Scripts with comments -/

theorem isAnnotated_scriptOutcome {change : Report → Report} {played playedToo : Outcome Report}
    (noted : played.IsAnnotated change playedToo) (depth : Nat) :
    (scriptOutcome depth played).IsAnnotated change (scriptOutcome depth playedToo) := by
  refine ⟨noted.value, ?_, noted.session⟩
  have calls : ∀ played, hostCalls (scriptOutcome depth played).journal =
      hostCalls played.journal := by
    intro played
    simp [scriptOutcome, hostCalls, List.filterMap_cons, Event.hostCall?]
  rw [calls, calls, noted.calls]

variable {command : Command} {added : Nat} {lines commented : List String}

/-- Outside nested scripts each comment adds a line to the report. -/
theorem playFrom_annotated_outside (builtin : command.handler = .builtin .comment)
    (inserted : Line.Commented added lines commented) (report : Report) (more : Nat)
    (outside : plain.meter.depth = 0) (allowed : 0 < plain.limits.commands)
    (registered : plain.registry.get? "#" = some command)
    (noted : plain.IsAnnotated annotated) :
    Option.Rel (Outcome.IsAnnotated (·.withLines (more + added)))
      ((playFrom enter report lines).outcome plain)
      ((playFrom enter (report.withLines more) commented).outcome annotated) := by
  -- The induction follows the lines; `more` comments stand in front of those that are left.
  induction inserted generalizing plain annotated report more with
  | nil => exact .some ⟨rfl, rfl, noted⟩
  | line line _ inductionHypothesis =>
      rw [playFrom_cons_outcome, playFrom_cons_outcome]
      have goes := enter_outcome_of_annotated_outside outside noted line
      generalize reached : (enter line).outcome plain = first at goes ⊢
      generalize (enter line).outcome annotated = second at goes ⊢
      cases goes with
      | none => exact .none
      | @some first second entered =>
          have kept := outcome_toSurroundings reached
          have depth := keepsDepth_of_balanced (Course.balanced_isLocal.follows_enter line)
            plain first reached
          apply Outcome.rel_after entered.calls
          rw [entered.value, id_eq, Report.withLines_add]
          exact inductionHypothesis _ more (depth.trans outside) (kept ▸ allowed)
            (kept ▸ registered) entered.session
  | @comment added lines commented text ts read _ inductionHypothesis =>
      have kept := noted.toSurroundings_eq
      have left : annotated.meter.atLine.commands < annotated.limits.commands := by
        rw [kept, Meter.atLine, if_pos (noted.depth_eq.trans outside)]
        exact allowed
      have rest := inductionHypothesis report (more + 1) outside allowed registered
        (noted.shown (annotated.log ++ (annotated.prompt ++ Line.comment text) ++ "\n"))
      rw [playFrom_cons_outcome, enter_comment_outcome (kept ▸ registered) builtin read left,
        Option.bind_some, Report.withLines_add_nothing, Nat.add_comm added, ← Nat.add_assoc]
      have silent : hostCalls (annotated.opening (Line.comment text) ++
          calling (Line.comment text) command ts ++
          closing (Line.comment text) .nothing) = [] := rfl
      rw [← Outcome.map_after_nil ((playFrom enter report lines).outcome plain)]
      exact Outcome.rel_after silent rest

/-- Inside them it does if the script reaches no limit of commands. -/
theorem playFrom_annotated_inside (builtin : command.handler = .builtin .comment)
    (inserted : Line.Commented added lines commented) (report : Report) (more : Nat)
    (inside : 0 < plain.meter.depth) (registered : plain.registry.get? "#" = some command)
    (noted : plain.IsAnnotated annotated) (fewer : plain.meter.commands ≤ annotated.meter.commands)
    {result : Outcome Report}
    (reached : (playFrom enter (report.withLines more) commented).outcome annotated = some result)
    (unspent : ∀ max, .limitReached (.commands max) ∉ result.journal) :
    ∃ outcome, (playFrom enter report lines).outcome plain = some outcome ∧
      outcome.IsAnnotated (·.withLines (more + added)) result := by
  induction inserted generalizing plain annotated report more result with
  | nil =>
      cases reached
      exact ⟨_, rfl, rfl, rfl, noted⟩
  | line line _ inductionHypothesis =>
      rw [playFrom_cons_outcome] at reached
      obtain ⟨second, entering, further⟩ := Option.bind_eq_some_iff.mp reached
      obtain ⟨rest, playing, rfl⟩ := Option.map_eq_some_iff.mp further
      obtain ⟨first, entered, goes, less⟩ := enter_outcome_of_annotated_inside noted fewer entering
        fun max member => unspent max (List.mem_append_left _ member)
      have kept := outcome_toSurroundings entered
      have depth := keepsDepth_of_balanced (Course.balanced_isLocal.follows_enter line)
        plain first entered
      rw [goes.value, id_eq, Report.withLines_add] at playing
      obtain ⟨outcome, played, ends⟩ := inductionHypothesis _ more (depth ▸ inside)
        (kept ▸ registered) goes.session less playing
        fun max member => unspent max (List.mem_append_right _ member)
      refine ⟨outcome.after first.journal, ?_, ends.value, ?_, ends.session⟩
      · rw [playFrom_cons_outcome, entered, Option.bind_some, played, Option.map_some]
      · simp only [Outcome.after, hostCalls_append, goes.calls, ends.calls]
  | @comment added lines commented text ts read _ inductionHypothesis =>
      rw [playFrom_cons_outcome] at reached
      obtain ⟨second, entering, further⟩ := Option.bind_eq_some_iff.mp reached
      obtain ⟨rest, playing, rfl⟩ := Option.map_eq_some_iff.mp further
      have registeredToo : annotated.registry.get? "#" = some command :=
        noted.toSurroundings_eq ▸ registered
      have nested : annotated.meter.depth ≠ 0 := noted.depth_eq ▸ Nat.ne_of_gt inside
      have left := left_of_enter (called?_comment registeredToo read) entering
        fun max member => unspent max (List.mem_append_left _ member)
      rw [enter_comment_outcome registeredToo builtin read left] at entering
      cases entering
      rw [Report.withLines_add_nothing] at playing
      -- The comment is one of those commands that the plain script still has.
      have spending : plain.meter.commands ≤ annotated.meter.atLine.count.commands := by
        rw [Meter.atLine, if_neg nested]
        exact Nat.le_succ_of_le fewer
      obtain ⟨outcome, played, ends⟩ := inductionHypothesis report (more + 1) inside registered
        (noted.shown _) spending playing
        fun max member => unspent max (List.mem_append_right _ member)
      refine ⟨outcome, played, ?_, ?_, ends.session⟩
      · rw [Nat.add_comm added, ← Nat.add_assoc]
        exact ends.value
      · rw [Outcome.after, hostCalls_append, ends.calls]
        rfl

end SessionM

/-- Where the number sign names the builtin for comments and a command is left, a comment succeeds
without a message, and the session is left as it was but for the echo and the count, if its text can
be split into tokens; any other fails as its text does, with the reason behind its echo.  So comments
that can be read add their number to the lines that a script reports and nothing to the failures, and
leave no trace but in the log and in the count: outside nested scripts in any case, inside them if
the script with the comments reaches no limit of commands. -/
theorem comments_only_add_lines {session : Session} {command : Command}
    (registered : session.registry.get? "#" = some command)
    (builtin : command.handler = .builtin .comment) :
    (∀ text, session.meter.atLine.commands < session.limits.commands →
      match Line.tokens text with
      | .ok ts =>
          (enter (Line.comment text)).outcome session = some {
            value := .ok none
            session := { session with
              log := session.log ++ (session.prompt ++ Line.comment text) ++ "\n"
              meter := session.meter.atLine.count }
            journal := session.opening (Line.comment text) ++
              calling (Line.comment text) command ts ++ closing (Line.comment text) .nothing }
      | .error error =>
          (enter (Line.comment text)).outcome session = some {
            value := .error error
            session := { session with
              log := session.log ++ (session.prompt ++ Line.comment text) ++ "\n" ++
                error.message ++ "\n"
              meter := session.meter.atLine }
            journal := session.opening (Line.comment text) ++
              closing (Line.comment text) (.error error) }) ∧
    ∀ script commented added,
      Line.Commented added (Text.lines script) (Text.lines commented) →
      (session.meter.depth = 0 → 0 < session.limits.commands →
        Option.Rel (Outcome.IsAnnotated (·.withLines added))
          ((playScript enter script).outcome session)
          ((playScript enter commented).outcome session)) ∧
      (0 < session.meter.depth → ∃ plain annotated,
        (playScript enter script).outcome session = some plain ∧
        (playScript enter commented).outcome session = some annotated ∧
        ((∀ max, .limitReached (.commands max) ∉ annotated.journal) →
          plain.IsAnnotated (·.withLines added) annotated)) := by
  constructor
  · intro text left
    split
    next ts read => exact enter_comment_outcome registered builtin read left
    next error unread => exact enter_comment_outcome_of_unread unread
  intro script commented added inserted
  constructor
  · intro outside allowed
    have played := playFrom_annotated_outside builtin inserted {} 0 outside allowed registered
      (.refl session)
    rw [Nat.zero_add, show ({} : Report).withLines 0 = {} from rfl] at played
    rw [playScript_outcome, playScript_outcome]
    generalize (playFrom enter {} (Text.lines script)).outcome session = plain at played ⊢
    generalize (playFrom enter {} (Text.lines commented)).outcome session = annotated at played ⊢
    cases played with
    | none => exact .none
    | some noted => exact .some (isAnnotated_scriptOutcome noted _)
  · intro inside
    obtain ⟨plain, ends⟩ := playScript_ends_of_nested inside script
    obtain ⟨annotated, endsToo⟩ := playScript_ends_of_nested inside commented
    refine ⟨plain, annotated, ends, endsToo, fun unspent => ?_⟩
    rw [playScript_outcome, Option.map_eq_some_iff] at ends endsToo
    obtain ⟨played, playing, rfl⟩ := ends
    obtain ⟨playedToo, playingToo, rfl⟩ := endsToo
    obtain ⟨other, again, noted⟩ := playFrom_annotated_inside builtin inserted {} 0 inside
      registered (.refl session) (Nat.le_refl _) playingToo fun max member =>
        unspent max (List.mem_cons_of_mem _ (List.mem_append_left _ member))
    obtain rfl := Option.some.inj (playing.symm.trans again)
    rw [Nat.zero_add] at noted
    exact isAnnotated_scriptOutcome noted _

/-- A comment with a quoted text, one with a hidden quote and an empty one; the script fails in one
line either way. -/
theorem comments_only_add_lines_quoted :
    let session := (Config.session {}).apply .nestedScriptOpened
    (∃ outcome, (enter (Line.comment "say \"it again\"")).outcome session = some outcome ∧
      outcome.value = .ok none ∧ outcome.session.log = "/ $ # say \"it again\"\n" ∧
      outcome.session.meter.commands = 1) ∧
    ∃ plain annotated,
      (playScript enter "cd nowhere\npwd").outcome session = some plain ∧
      (playScript enter "# say \"it again\"\ncd nowhere\n# \\\"\npwd\n# ").outcome session =
        some annotated ∧
      plain.IsAnnotated (·.withLines 3) annotated ∧
      plain.value = { lines := 2, failures := 1 } ∧
      annotated.value = { lines := 5, failures := 1 } := by
  intro session
  have registered : session.registry.get? "#" = some Builtin.comment.command := by decide +kernel
  obtain ⟨line, script⟩ := comments_only_add_lines registered rfl
  have read : Line.tokens "say \"it again\"" = .ok ["say", "it again"] := by decide +kernel
  have inserted : Line.Commented 3 (Text.lines "cd nowhere\npwd")
      (Text.lines "# say \"it again\"\ncd nowhere\n# \\\"\npwd\n# ") := by
    have plain : Text.lines "cd nowhere\npwd" = ["cd nowhere", "pwd"] := by decide +kernel
    have commented : Text.lines "# say \"it again\"\ncd nowhere\n# \\\"\npwd\n# " =
        [Line.comment "say \"it again\"", "cd nowhere", Line.comment "\\\"", "pwd",
          Line.comment ""] := by decide +kernel
    have hidden : Line.tokens "\\\"" = .ok ["\""] := by decide +kernel
    have empty : Line.tokens "" = .ok [] := by decide +kernel
    rw [plain, commented]
    exact .comment read (.line _ (.comment hidden (.line _ (.comment empty .nil))))
  have said := line "say \"it again\"" (by decide)
  rw [read] at said
  refine ⟨⟨_, said, rfl, by decide +kernel, by decide⟩, ?_⟩
  obtain ⟨plain, annotated, played, playedToo, noted⟩ := (script _ _ 3 inserted).2 (by decide)
  have reports : ((playScript enter "cd nowhere\npwd").outcome session).any
      (·.value = { lines := 2, failures := 1 }) = true := by decide +kernel
  have allows : ((playScript enter "# say \"it again\"\ncd nowhere\n# \\\"\npwd\n# ").outcome
      session).any (·.journal.all fun event => !event matches .limitReached _) = true := by
    decide +kernel
  rw [played, Option.any_some, decide_eq_true_iff] at reports
  rw [playedToo, Option.any_some, List.all_eq_true] at allows
  have same := noted fun max member => absurd (allows _ member) nofun
  refine ⟨plain, annotated, played, playedToo, same, reports, ?_⟩
  rw [same.value, reports]
  rfl

/-- In a session with just the builtins and all its commands, a comment whose text opens a quote
fails, and so does one line more of a script that holds it; and a comment that can be read may spend
the command that a line behind it would have had. -/
theorem comments_can_fail :
    let session := Config.session {}
    session.registry = Registry.builtins ∧
    session.meter.atLine.commands < session.limits.commands ∧
    (∃ outcome, (enter (Line.comment "don\"t")).outcome session = some outcome ∧
      outcome.value = .error .unterminatedQuote ∧ outcome.session.log =
        "/ $ # don\"t\nparse error: unterminated quoted parameter\n") ∧
    (∃ outcome, (playScript enter "# don\"t\npwd").outcome session = some outcome ∧
      outcome.value = { lines := 2, failures := 1 }) ∧
    (∃ plain, (playNested enter "pwd").outcome frugalSession = some plain ∧
      plain.value = .ok { lines := 1, failures := 0 } ∧
      ∀ limit, .limitReached limit ∉ plain.journal) ∧
    ∃ annotated, (playNested enter "# note\npwd").outcome frugalSession = some annotated ∧
      annotated.value = .ok { lines := 2, failures := 1 } := by
  have line : ((enter (Line.comment "don\"t")).outcome (Config.session {})).any (fun outcome =>
      outcome.value = .error .unterminatedQuote ∧ outcome.session.log =
        "/ $ # don\"t\nparse error: unterminated quoted parameter\n") = true := by
    decide +kernel
  have script : ((playScript enter "# don\"t\npwd").outcome (Config.session {})).any
      (·.value = { lines := 2, failures := 1 }) = true := by decide +kernel
  have alone : ((playNested enter "pwd").outcome frugalSession).any (fun plain =>
      plain.value = .ok { lines := 1, failures := 0 } ∧
        plain.journal.all fun event => !event matches .limitReached _) = true := by decide +kernel
  have behind : ((playNested enter "# note\npwd").outcome frugalSession).any
      (·.value = .ok { lines := 2, failures := 1 }) = true := by decide +kernel
  obtain ⟨outcome, reached, failed⟩ := (Option.any_eq_true _ _).mp line
  obtain ⟨played, playing, reported⟩ := (Option.any_eq_true _ _).mp script
  obtain ⟨plain, plays, holds⟩ := (Option.any_eq_true _ _).mp alone
  obtain ⟨annotated, playsToo, spent⟩ := (Option.any_eq_true _ _).mp behind
  obtain ⟨report, allowed⟩ := of_decide_eq_true holds
  refine ⟨rfl, by decide, ⟨outcome, reached, of_decide_eq_true failed⟩,
    ⟨played, playing, of_decide_eq_true reported⟩, ⟨plain, plays, report, fun limit member => ?_⟩,
    annotated, playsToo, of_decide_eq_true spent⟩
  exact absurd (List.all_eq_true.mp allowed _ member) nofun

end VirtualTerminal
