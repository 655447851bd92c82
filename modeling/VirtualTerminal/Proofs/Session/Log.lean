import VirtualTerminal.Proofs.Session.Coupling

/-!
# The log

Nothing that is asked of a session looks at its log, and nothing changes what the log holds already
but clearing it as a whole.  So sessions that differ in their logs alone go the same way, and what
their journal shows stands behind either log, or by itself once the log was cleared.
-/

namespace VirtualTerminal

theorem appendLines_eq_append (log : String) (lines : List String) :
    appendLines log lines = log ++ appendLines "" lines := by
  induction lines generalizing log with
  | nil => simp
  | cons line lines inductionHypothesis =>
      rw [appendLines_cons, inductionHypothesis, appendLines_cons,
        inductionHypothesis ("" ++ line ++ "\n")]
      simp [String.append_assoc]

/-- What an event makes of a log. -/
def Event.writeLog (log : String) : Event → String
  | .linesLogged lines => appendLines log lines
  | .logCleared => ""
  | _ => log

/-- What a journal leaves in a log that was empty before. -/
def shown (journal : List Event) : String :=
  journal.foldl Event.writeLog ""

theorem log_replay (session : Session) (journal : List Event) :
    (session.replay journal).log = journal.foldl Event.writeLog session.log := by
  induction journal generalizing session with
  | nil => rfl
  | cons event journal inductionHypothesis =>
      rw [Session.replay_cons, inductionHypothesis, List.foldl_cons]
      cases event <;> rfl

/-- What was in the log before is either kept in front or cleared. -/
theorem foldl_writeLog (log : String) (journal : List Event) :
    journal.foldl Event.writeLog log =
      if .logCleared ∈ journal then shown journal else log ++ shown journal := by
  induction journal generalizing log with
  | nil => simp [shown]
  | cons event journal inductionHypothesis =>
      rw [shown, List.foldl_cons, List.foldl_cons, inductionHypothesis,
        inductionHypothesis (event.writeLog "")]
      by_cases later : .logCleared ∈ journal
      · simp [later]
      · cases event with
        | logCleared => simp [later, Event.writeLog]
        | linesLogged lines =>
            simp [later, Event.writeLog, appendLines_eq_append log, String.append_assoc]
        | _ => simp [later, Event.writeLog]

/-- Sessions that differ in their logs alone. -/
def Coupling.relogged : Coupling where
  Alike first second := ∃ log, second = { first with log := log }
  Admits _ := True
  depth := id
  same := fun ⟨log, second⟩ => ⟨log, _, _, second⟩
  depth_eq := by rintro first _ ⟨log, rfl⟩; rfl
  room := by rintro first _ ⟨log, rfl⟩ room; exact room
  left := by rintro first _ ⟨log, rfl⟩ left; exact left
  full := by rintro first _ ⟨log, rfl⟩ - full; exact ⟨rfl, full⟩
  spent := by rintro first _ ⟨log, rfl⟩ - spent; exact ⟨rfl, spent⟩
  apply := by
    rintro first _ event ⟨log, rfl⟩ -
    cases event <;> exact ⟨_, rfl⟩

namespace SessionM

theorem couples_enter_relogged (line : String) : (enter line).Couples .relogged (enter line) := by
  apply couples_enter_of_le
  rintro first _ ⟨log, rfl⟩
  exact Nat.le_refl _

/-- In two sessions that differ in their logs alone a step comes to the same value and journal, or
to no end in either.  Afterwards the sessions again differ in their logs alone: either the log was
not cleared, and the same text stands behind what each log held before, or it was, and that text is
all that each of them holds. -/
def IgnoresLog {α : Type} (step : SessionM α) : Prop :=
  ∀ (session : Session) (log : String),
    (step.outcome session = none ∧ step.outcome { session with log := log } = none) ∨
    ∃ first second, step.outcome session = some first ∧
      step.outcome { session with log := log } = some second ∧
      second.value = first.value ∧ second.journal = first.journal ∧
      second.session = { first.session with log := second.session.log } ∧
      ∃ text,
        (.logCleared ∉ first.journal ∧
          first.session.log = session.log ++ text ∧ second.session.log = log ++ text) ∨
        (.logCleared ∈ first.journal ∧
          first.session.log = text ∧ second.session.log = text)

theorem ignoresLog_of_couples {α : Type} {step : SessionM α}
    (couples : step.Couples .relogged step) : step.IgnoresLog := by
  intro session log
  cases reached : step.outcome session with
  | none =>
      -- Logs differ either way, so where the other session ends this one does.
      refine .inl ⟨rfl, Option.eq_none_iff_forall_ne_some.mpr fun second done => ?_⟩
      obtain ⟨first, begun, -⟩ := couples { session with log := log } session ⟨session.log, rfl⟩
        second done fun _ _ => trivial
      rw [reached] at begun
      cases begun
  | some first =>
      obtain ⟨second, done, value, journal, other, alike⟩ := couples session
        { session with log := log } ⟨log, rfl⟩ first reached fun _ _ => trivial
      have same : second.journal = first.journal := journal.trans (map_mapDepth_id _)
      refine .inr ⟨first, second, rfl, done, value, same, by rw [alike], shown first.journal, ?_⟩
      rw [outcome_session reached, outcome_session done, log_replay, log_replay,
        foldl_writeLog session.log, foldl_writeLog log, same]
      by_cases cleared : .logCleared ∈ first.journal
      · simp [cleared]
      · simp [cleared]

end SessionM

/-- Nothing that is asked of a session looks at its log or changes what the log holds already, other
than by clearing it; nor does a command that is called directly, whether it is registered or not.
The journal tells of all that is shown and of every call of a handler, so these are the same too. -/
theorem log_is_write_only :
    (∀ request : Request, request.perform.IgnoresLog) ∧
      ∀ command arguments, (SessionM.handle SessionM.enter command arguments).IgnoresLog := by
  have lines := SessionM.couples_enter_relogged
  constructor
  · exact fun request => SessionM.ignoresLog_of_couples (SessionM.couples_request lines request)
  · intro command arguments
    have balanced := Course.balanced_isLocal.follows_enter
    exact SessionM.ignoresLog_of_couples
      (SessionM.couples_handle lines balanced command arguments)

end VirtualTerminal
