import VirtualTerminal.Proofs.Line.CarriageReturn
import VirtualTerminal.Proofs.Session.Nesting
import VirtualTerminal.Proofs.Session.TypedLine

/-!
# Scripts with carriage returns

A script whose lines end in carriage returns does what it does without them, and never ends only if
it never ends without them.  Its lines are twins of the others, so they call the same commands with
the same arguments, and nothing looks at the log, where the carriage returns are left.
-/

namespace VirtualTerminal

open SessionM

/-- The second session differs from the first in the log alone, and there in carriage returns
alone. -/
def Session.IsTwin (first second : Session) : Prop :=
  ∃ log, second = { first with log := log } ∧ withoutReturns log = withoutReturns first.log

namespace Session.IsTwin

variable {first second : Session}

theorem refl (session : Session) : session.IsTwin session :=
  ⟨session.log, rfl, rfl⟩

theorem alike (twins : first.IsTwin second) : Coupling.relogged.Alike first second := by
  obtain ⟨log, rfl, -⟩ := twins
  exact ⟨log, rfl⟩

theorem isLike (twins : first.IsTwin second) : first.IsLike second := by
  obtain ⟨log, rfl, -⟩ := twins
  exact ⟨first.input, first.history, log, rfl⟩

theorem isPlaced (twins : first.IsTwin second) (placed : first.IsPlaced) : second.IsPlaced := by
  obtain ⟨log, rfl, -⟩ := twins
  exact ⟨placed.linked, placed.valid, placed.prompt_eq⟩

theorem apply (twins : first.IsTwin second) (event : Event) :
    (first.apply event).IsTwin (second.apply event) := by
  obtain ⟨log, rfl, same⟩ := twins
  cases event with
  | linesLogged lines =>
      refine ⟨appendLines log lines, rfl, ?_⟩
      show _ = withoutReturns (appendLines first.log lines)
      rw [appendLines_eq_append, appendLines_eq_append first.log, withoutReturns_append,
        withoutReturns_append, same]
  | logCleared => exact ⟨"", rfl, rfl⟩
  | _ => exact ⟨log, rfl, same⟩

theorem replay (twins : first.IsTwin second) (journal : List Event) :
    (first.replay journal).IsTwin (second.replay journal) := by
  induction journal generalizing first second with
  | nil => exact twins
  | cons event journal inductionHypothesis => exact inductionHypothesis (twins.apply event)

/-- Twins of lines are shown in twins of sessions. -/
theorem opened (twins : first.IsTwin second) {line other : String}
    (lines : Line.AreTwins line other) :
    (first.replay (first.opening line)).IsTwin (second.replay (second.opening other)) := by
  obtain ⟨log, rfl, same⟩ := twins
  refine ⟨log ++ (first.prompt ++ other) ++ "\n", rfl, ?_⟩
  show _ = withoutReturns (first.log ++ (first.prompt ++ line) ++ "\n")
  simp only [withoutReturns_append, same, lines.shown]

end Session.IsTwin

/-- The outcomes have the same value, call the host in the same way and leave twins of sessions. -/
structure Outcome.AreTwins {α : Type} (first second : Outcome α) : Prop where
  value : second.value = first.value
  calls : hostCalls second.journal = hostCalls first.journal
  session : first.session.IsTwin second.session

namespace SessionM

/-! ### Twins of lines -/

/-- Commands take no account of the log. -/
theorem goesAlike_handle (nesting : Nat) (command : Command) (arguments : List String)
    {first second : Session} (alike : Coupling.relogged.Alike first second) :
    (handle (enterWithin nesting) command arguments).GoesAlike first second := by
  intro outcome reached
  obtain ⟨result, done, goes⟩ := couples_handle (couples_enterWithin (Nat.le_refl nesting))
    (Course.balanced_isLocal.follows_enterWithin nesting) command arguments first second alike
    outcome reached fun _ _ => trivial
  have journal : result.journal = outcome.journal := goes.journal.trans (map_mapDepth_id _)
  rw [done, ← goes.value, ← journal, ← outcome_session done]

/-- A line that ends in one session ends alike in each twin of the session, and so does each twin of
the line. -/
theorem enter_outcome_of_twins {first second : Session} (placed : first.IsPlaced)
    (sessions : first.IsTwin second) {line other : String} (lines : Line.AreTwins line other)
    {entered : Outcome Reply} (reached : (enter line).outcome first = some entered) :
    ∃ result, (enter other).outcome second = some result ∧ entered.AreTwins result := by
  obtain ⟨nesting, bound⟩ : ∃ nesting, first.nestingBound line = nesting + 1 := ⟨_, rfl⟩
  have session := outcome_session reached
  rw [enter_outcome, bound] at reached
  have handles : ∀ command arguments, (handle (enterWithin nesting) command arguments).GoesAlike
      ((first.replay (first.opening line)).apply .commandCounted)
      ((second.replay (second.opening other)).apply .commandCounted) := fun command arguments =>
    goesAlike_handle nesting command arguments ((sessions.opened lines).apply _).alike
  obtain ⟨rest, further, journal, done, told⟩ := enterStep_outcome_of_tokens sessions.isLike
    lines.tokens (fun command arguments _ => handles command arguments) reached
  refine ⟨_, (enter_outcome_eq_some_iff (sessions.isPlaced placed)).mpr ⟨nesting + 1, done⟩, rfl,
    ?_, ?_⟩
  · have calls := congrArg hostCalls told
    rw [hostCalls_unlabelled, hostCalls_unlabelled] at calls
    rw [journal, hostCalls_append, hostCalls_append, hostCalls_opening, hostCalls_opening, calls]
  · rw [session, journal, Session.replay_append, Session.replay_append,
      ← Session.replay_unlabelled _ rest, ← told, Session.replay_unlabelled]
    exact (sessions.opened lines).replay further

/-! ### Twins of scripts -/

variable {α β : Type}

/-- Whatever the step comes to in a session, the other comes to a twin of it in each twin of the
session. -/
def Mirrors (step other : SessionM α) : Prop :=
  ∀ first second outcome, first.IsPlaced → first.IsTwin second →
    step.outcome first = some outcome →
    outcome.session.IsPlaced ∧
      ∃ result, other.outcome second = some result ∧ outcome.AreTwins result

theorem mirrors_pure (value : α) : (pure value : SessionM α).Mirrors (pure value) := by
  rintro first second _ placed twins ⟨⟩
  exact ⟨placed, _, rfl, rfl, rfl, twins⟩

theorem mirrors_bind {step other : SessionM α} {next further : α → SessionM β}
    (before : step.Mirrors other) (after : ∀ value, (next value).Mirrors (further value)) :
    (step >>= next).Mirrors (other >>= further) := by
  intro first second outcome placed twins reached
  obtain ⟨start, rest, started, ended, rfl⟩ := bind_outcome_eq_some_iff.mp reached
  obtain ⟨between, begun, here, begins⟩ := before first second start placed twins started
  obtain ⟨last, done, there, ends⟩ :=
    after start.value start.session begun.session rest between begins.session ended
  refine ⟨last, done.after begun.journal, ?_, ends.value, ?_, ends.session⟩
  · exact bind_outcome_eq_some_iff.mpr ⟨begun, done, here, begins.value ▸ there, rfl⟩
  · show hostCalls (begun.journal ++ done.journal) = hostCalls (start.journal ++ rest.journal)
    rw [hostCalls_append, hostCalls_append, begins.calls, ends.calls]

theorem mirrors_read {view : Session → β} {next further : β → SessionM α}
    (blind : ∀ session log, view { session with log := log } = view session)
    (after : ∀ value, (next value).Mirrors (further value)) :
    (read view >>= next).Mirrors (read view >>= further) := by
  intro first second outcome placed twins reached
  obtain ⟨log, rfl, same⟩ := twins
  rw [read_bind] at reached ⊢
  rw [blind]
  exact after (view first) _ _ outcome placed ⟨log, rfl, same⟩ reached

theorem mirrors_note (event : Event) (fits : ∀ session, event.FitsTree session) :
    (note event).Mirrors (note event) := by
  rintro first second _ placed twins ⟨⟩
  exact ⟨placed.apply (fits first), _, rfl, rfl, rfl, twins.apply event⟩

theorem mirrors_enter {line other : String} (twins : Line.AreTwins line other) :
    (enter line).Mirrors (enter other) := by
  intro first second outcome placed sessions reached
  have fits := Course.admits_of_outcome (Course.placed_isLocal.follows_enter line) reached placed
  refine ⟨?_, enter_outcome_of_twins placed sessions twins reached⟩
  rw [outcome_session reached]
  exact placed.replay fits

theorem mirrors_playLines {lines others : List String}
    (twins : List.Forall₂ Line.AreTwins lines others) :
    (playLines enter lines).Mirrors (playLines enter others) := by
  unfold playLines
  generalize ({} : Report) = report
  induction twins generalizing report with
  | nil => exact mirrors_pure report
  | cons first rest inductionHypothesis =>
      apply mirrors_bind
      · exact mirrors_bind (mirrors_enter first) fun reply => mirrors_pure _
      · exact inductionHypothesis

theorem mirrors_playScript {script other : String}
    (twins : List.Forall₂ Line.AreTwins (Text.lines script) (Text.lines other)) :
    (playScript enter script).Mirrors (playScript enter other) := by
  refine mirrors_read (fun _ _ => rfl) fun depth => ?_
  refine mirrors_bind (mirrors_note _ fun _ => trivial) fun _ => ?_
  refine mirrors_bind (mirrors_playLines twins) fun report => ?_
  exact mirrors_bind (mirrors_note _ fun _ => trivial) fun _ => mirrors_pure report

/-- Steps that mirror each other come to twins in the same session, or both to no end. -/
theorem rel_of_mirrors {step other : SessionM α} (there : step.Mirrors other)
    (back : other.Mirrors step) {session : Session} (placed : session.IsPlaced) :
    Option.Rel Outcome.AreTwins (step.outcome session) (other.outcome session) := by
  cases reached : step.outcome session with
  | some outcome =>
      obtain ⟨-, result, done, twins⟩ :=
        there session session outcome placed (.refl session) reached
      rw [done]
      exact .some twins
  | none =>
      cases done : other.outcome session with
      | none => exact .none
      | some result =>
          obtain ⟨-, outcome, ended, -⟩ :=
            back session session result placed (.refl session) done
          rw [reached] at ended
          cases ended

end SessionM

/-- In a session whose directory and prompt are as they are from its start on, a script and the same
script with a carriage return before each line break both come to no end, or both to one.  Then the
reports are equal, the host was called in the same way, and the sessions that are left differ in the
log alone, and there in carriage returns alone. -/
theorem returns_make_no_difference {session : Session} (placed : session.IsPlaced)
    (script : String) :
    Option.Rel Outcome.AreTwins ((playScript enter script).outcome session)
      ((playScript enter (withReturns script)).outcome session) := by
  have twins := forall₂_lines_withReturns script
  have twinsToo : List.Forall₂ Line.AreTwins (Text.lines (withReturns script))
      (Text.lines script) := twins.flip.imp fun _ _ twins => twins.symm
  exact rel_of_mirrors (mirrors_playScript twins) (mirrors_playScript twinsToo) placed

/-- A session with a command that enters its arguments, and then again in a nested script. -/
def repeatingSession : Session :=
  Config.session {
    commands := [{
      keyword := "twice"
      name := "Twice"
      description := "Enters its arguments as a line and plays them as a nested script."
      handler := .directives [.lineOfArguments, .nestedScriptOfArguments 1] }] }

/-- A line that opens a quote fails with a carriage return in it as well; the next one is entered
all the same. -/
theorem returns_make_no_difference_twice :
    repeatingSession.IsPlaced ∧
    withReturns "twice \"pwd\ntwice pwd" = "twice \"pwd\r\ntwice pwd" ∧
    ∃ first second,
      (playScript enter "twice \"pwd\ntwice pwd").outcome repeatingSession = some first ∧
      (playScript enter "twice \"pwd\r\ntwice pwd").outcome repeatingSession = some second ∧
      first.AreTwins second ∧
      first.value.failures = 1 ∧ second.session.log ≠ first.session.log := by
  have placed : repeatingSession.IsPlaced := Config.session_isPlaced _
  have returned : withReturns "twice \"pwd\ntwice pwd" = "twice \"pwd\r\ntwice pwd" := by
    decide +kernel
  have rel := returns_make_no_difference placed "twice \"pwd\ntwice pwd"
  rw [returned] at rel
  have ends : ((playScript enter "twice \"pwd\ntwice pwd").outcome repeatingSession).any
      (fun first => first.value.failures = 1 ∧
        first.session.log.toList.contains '\r' = false) = true := by decide +kernel
  have endsToo : ((playScript enter "twice \"pwd\r\ntwice pwd").outcome repeatingSession).any
      (fun second => second.session.log.toList.contains '\r') = true := by decide +kernel
  obtain ⟨first, reached, failed⟩ := (Option.any_eq_true _ _).mp ends
  obtain ⟨second, reachedToo, left⟩ := (Option.any_eq_true _ _).mp endsToo
  obtain ⟨failures, clean⟩ := of_decide_eq_true failed
  rw [reached, reachedToo] at rel
  cases rel with
  | some twins =>
      refine ⟨placed, returned, first, second, reached, reachedToo, twins, failures, ?_⟩
      intro same
      rw [same, clean] at left
      cases left

end VirtualTerminal
