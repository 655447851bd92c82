import VirtualTerminal.Session.Replay

/-!
Steps of a session.

A step takes a session to a value, the session afterwards and the journal of what happened on the
way.  It comes to nothing only if lines enter each other without end.  Only by its events can a step
change the session.

A step is run on the events that came before it and puts its own on top of them, so that no journal
is ever copied.  It cannot look at the earlier events, and `outcome` shows what it does by itself:
two steps of equal outcomes are equal, and the journal of two steps in turn is the journal of the
first followed by that of the second.
-/

namespace VirtualTerminal

structure Outcome (α : Type) where
  value : α
  session : Session
  journal : List Event := []
  deriving Repr, DecidableEq

/-- Puts earlier events in front of an outcome's journal. -/
def Outcome.after {α : Type} (journal : List Event) (outcome : Outcome α) : Outcome α :=
  { outcome with journal := journal ++ outcome.journal }

/-- A value, a session and the events so far, latest first. -/
structure Stage (α : Type) where
  value : α
  session : Session
  past : List Event

/-- Puts the events of a stage on top of earlier ones. -/
def Stage.onTop {α : Type} (past : List Event) (stage : Stage α) : Stage α :=
  { stage with past := stage.past ++ past }

structure SessionM (α : Type) where
  /-- Goes on from a session and the events so far, latest first. -/
  run : Session → List Event → Option (Stage α)
  /-- The events so far stay below the new ones and change nothing. -/
  run_past : ∀ session past, run session past = (run session []).map (.onTop past)
  /-- The new events tell all that has become of the session. -/
  run_session : ∀ session, ∀ stage ∈ run session [],
    stage.session = session.replay stage.past.reverse

namespace Stage

variable {α : Type}

/-- A stage that was reached from no events as an outcome. -/
def outcome (stage : Stage α) : Outcome α where
  value := stage.value
  session := stage.session
  journal := stage.past.reverse

@[simp]
theorem onTop_nil (stage : Stage α) : stage.onTop [] = stage := by
  simp [onTop]

@[simp]
theorem onTop_onTop (first second : List Event) (stage : Stage α) :
    (stage.onTop second).onTop first = stage.onTop (second ++ first) := by
  simp [onTop]

theorem outcome_onTop (past : List Event) (stage : Stage α) :
    (stage.onTop past).outcome = stage.outcome.after past.reverse := by
  simp [outcome, onTop, Outcome.after]

theorem outcome_injective : Function.Injective (outcome : Stage α → Outcome α) := by
  intro first second h
  cases first
  cases second
  simpa [outcome] using h

end Stage

namespace Outcome

variable {α : Type}

@[simp]
theorem after_nil (outcome : Outcome α) : outcome.after [] = outcome := rfl

@[simp]
theorem after_after (first second : List Event) (outcome : Outcome α) :
    (outcome.after second).after first = outcome.after (first ++ second) := by
  simp [after]

end Outcome

namespace SessionM

variable {α β : Type}

/-- What a step comes to in a session. -/
def outcome (step : SessionM α) (session : Session) : Option (Outcome α) :=
  (step.run session []).map Stage.outcome

@[ext]
theorem ext {first second : SessionM α}
    (h : ∀ session, first.outcome session = second.outcome session) : first = second := by
  have run_eq : first.run = second.run := by
    funext session past
    rw [first.run_past, second.run_past]
    congr 1
    exact Option.map_injective Stage.outcome_injective (h session)
  cases first
  cases second
  cases run_eq
  rfl

protected def pure (value : α) : SessionM α where
  run session past := some ⟨value, session, past⟩
  run_past _ _ := rfl
  run_session := by simp

/-- Goes on from where another step has come to. -/
def runFrom (next : α → SessionM β) : Option (Stage α) → Option (Stage β)
  | none => none
  | some ⟨value, session, past⟩ => (next value).run session past

theorem runFrom_onTop (next : α → SessionM β) (past : List Event) (stage : Option (Stage α)) :
    runFrom next (stage.map (.onTop past)) = (runFrom next stage).map (.onTop past) := by
  cases stage with
  | none => rfl
  | some stage =>
      simp only [Option.map_some, runFrom, Stage.onTop]
      rw [(next stage.value).run_past, (next stage.value).run_past _ stage.past, Option.map_map]
      congr 1
      funext last
      simp

theorem runFrom_session (first : SessionM α) (next : α → SessionM β) (session : Session) :
    ∀ last ∈ runFrom next (first.run session []),
      last.session = session.replay last.past.reverse := by
  intro last reached
  cases started : first.run session [] with
  | none => simp [started, runFrom] at reached
  | some stage =>
      rw [started, runFrom, (next stage.value).run_past, Option.mem_def,
        Option.map_eq_some_iff] at reached
      obtain ⟨final, found, rfl⟩ := reached
      have before := first.run_session session stage started
      have after := (next stage.value).run_session stage.session final found
      simp [Stage.onTop, after, before]

protected def bind (first : SessionM α) (next : α → SessionM β) : SessionM β where
  run session past := runFrom next (first.run session past)
  run_past session past := by rw [first.run_past, runFrom_onTop]
  run_session := runFrom_session first next

instance : Monad SessionM where
  pure := SessionM.pure
  bind := SessionM.bind

/-- A step that never comes to an end. -/
def endless : SessionM α where
  run _ _ := none
  run_past _ _ := rfl
  run_session := by simp

def read (view : Session → α) : SessionM α where
  run session past := some ⟨view session, session, past⟩
  run_past _ _ := rfl
  run_session := by simp

/-- Lets an event happen. -/
def note (event : Event) : SessionM Unit where
  run session past := some ⟨(), session.apply event, event :: past⟩
  run_past _ _ := rfl
  run_session := by simp

/-- Takes a step for each item in turn, handing on a value. -/
def fold (step : β → α → SessionM β) (value : β) : List α → SessionM β
  | [] => pure value
  | item :: items => do
      let value ← step value item
      fold step value items

@[simp]
theorem endless_outcome (session : Session) : (endless : SessionM α).outcome session = none := rfl

theorem pure_outcome (value : α) (session : Session) :
    (pure value : SessionM α).outcome session = some { value := value, session := session } := rfl

theorem bind_outcome (first : SessionM α) (next : α → SessionM β) (session : Session) :
    (first >>= next).outcome session =
      (first.outcome session).bind fun outcome =>
        ((next outcome.value).outcome outcome.session).map (.after outcome.journal) := by
  show (runFrom next (first.run session [])).map Stage.outcome = _
  rw [outcome]
  cases first.run session [] with
  | none => rfl
  | some stage =>
      rw [runFrom, (next stage.value).run_past, Option.map_map]
      simp only [Option.map_some, Option.bind_some, outcome, Option.map_map, Stage.outcome]
      congr 1
      funext last
      exact last.outcome_onTop stage.past

theorem bind_outcome_of_reached {first : SessionM α} {session later : Session} {value : α}
    {journal : List Event} (reached : first.outcome session = some ⟨value, later, journal⟩)
    (next : α → SessionM β) :
    (first >>= next).outcome session = ((next value).outcome later).map (.after journal) := by
  rw [bind_outcome, reached, Option.bind_some]

/-- A step of which only the value is looked at afterwards. -/
theorem bind_pure_outcome (first : SessionM α) (next : α → β) (session : Session) :
    (first >>= fun value => pure (next value)).outcome session =
      (first.outcome session).map fun outcome => {
        value := next outcome.value
        session := outcome.session
        journal := outcome.journal } := by
  rw [bind_outcome]
  cases first.outcome session with
  | none => rfl
  | some outcome => simp [pure_outcome, Outcome.after]

@[simp]
theorem read_bind (view : Session → α) (next : α → SessionM β) (session : Session) :
    (read view >>= next).outcome session = (next (view session)).outcome session := rfl

@[simp]
theorem note_outcome (event : Event) (session : Session) :
    (note event).outcome session =
      some { value := (), session := session.apply event, journal := [event] } := rfl

@[simp]
theorem note_bind (event : Event) (next : Unit → SessionM β) (session : Session) :
    (note event >>= next).outcome session =
      ((next ()).outcome (session.apply event)).map (.after [event]) := by
  rw [bind_outcome]
  rfl

/-- What becomes of a session is what the journal makes of it. -/
theorem outcome_session {step : SessionM α} {session : Session} {outcome : Outcome α}
    (reached : step.outcome session = some outcome) :
    outcome.session = session.replay outcome.journal := by
  obtain ⟨stage, started, rfl⟩ := Option.map_eq_some_iff.mp reached
  exact step.run_session session stage started

private theorem step_id_map (first : SessionM α) : id <$> first = first := by
  ext session : 1
  show (first >>= fun value => pure (id value)).outcome session = _
  rw [bind_outcome]
  cases first.outcome session <;> simp [pure_outcome, Outcome.after]

private theorem step_pure_bind (value : α) (next : α → SessionM β) :
    pure value >>= next = next value := rfl

private theorem step_bind_assoc {γ : Type} (first : SessionM α) (next : α → SessionM β)
    (last : β → SessionM γ) :
    first >>= next >>= last = first >>= fun value => next value >>= last := by
  ext session : 1
  simp only [bind_outcome]
  cases first.outcome session with
  | none => rfl
  | some outcome =>
      simp only [Option.bind_some]
      cases (next outcome.value).outcome outcome.session with
      | none => rfl
      | some second =>
          simp only [Option.bind_some, Option.map_some, Option.map_map]
          congr 1
          funext third
          exact (third.after_after _ _).symm

instance : LawfulMonad SessionM :=
  LawfulMonad.mk' SessionM step_id_map step_pure_bind step_bind_assoc

@[simp]
theorem fold_nil (step : β → α → SessionM β) (value : β) :
    fold step value [] = pure value := rfl

theorem fold_cons (step : β → α → SessionM β) (value : β) (item : α) (items : List α) :
    fold step value (item :: items) = step value item >>= (fold step · items) := rfl

end SessionM

end VirtualTerminal
