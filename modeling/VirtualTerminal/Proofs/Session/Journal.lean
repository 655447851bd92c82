import VirtualTerminal.Session.Replay

/-!
# What holds throughout a journal

A condition on an event may look at the session in which the event happens and at what follows the
event in the journal.
-/

namespace VirtualTerminal

/-- Every event meets a condition in the session in which it happens. -/
def Throughout (condition : Session → Event → List Event → Prop) (session : Session) :
    List Event → Prop
  | [] => True
  | event :: rest =>
      condition session event rest ∧ Throughout condition (session.apply event) rest

namespace Throughout

variable {condition other : Session → Event → List Event → Prop} {session : Session}
  {journal first second : List Event}

theorem iff_forall_split :
    Throughout condition session journal ↔
      ∀ past event rest, journal = past ++ event :: rest →
        condition (session.replay past) event rest := by
  induction journal generalizing session with
  | nil => simp [Throughout]
  | cons head tail inductionHypothesis =>
      rw [Throughout, inductionHypothesis]
      constructor
      · rintro ⟨now, later⟩ past event rest split
        cases past with
        | nil =>
            obtain ⟨rfl, rfl⟩ := List.cons.inj split
            exact now
        | cons earlier past =>
            obtain ⟨rfl, remaining⟩ := List.cons.inj split
            exact later past event rest remaining
      · intro everywhere
        refine ⟨everywhere [] head tail rfl, ?_⟩
        intro past event rest split
        exact everywhere (head :: past) event rest (by rw [split, List.cons_append])

theorem imp (implies : ∀ now event rest, condition now event rest → other now event rest)
    (holds : Throughout condition session journal) : Throughout other session journal := by
  rw [iff_forall_split] at holds ⊢
  intro past event rest split
  exact implies _ event rest (holds past event rest split)

/-- A condition that more events to come cannot break holds throughout two journals in turn. -/
theorem append
    (stable : ∀ now event rest more, condition now event rest → condition now event (rest ++ more))
    (before : Throughout condition session first)
    (after : Throughout condition (session.replay first) second) :
    Throughout condition session (first ++ second) := by
  induction first generalizing session with
  | nil => exact after
  | cons event rest inductionHypothesis =>
      exact ⟨stable session event rest second before.1, inductionHypothesis before.2 after⟩

/-- A condition that fewer events to come cannot break holds throughout the front of a journal. -/
theorem left
    (stable : ∀ now event rest more, condition now event (rest ++ more) → condition now event rest)
    (holds : Throughout condition session (first ++ second)) :
    Throughout condition session first := by
  induction first generalizing session with
  | nil => trivial
  | cons event rest inductionHypothesis =>
      exact ⟨stable session event rest second holds.1, inductionHypothesis holds.2⟩

end Throughout

end VirtualTerminal
