import VirtualTerminal.Proofs.Session.Allowance

/-!
# Spending the allowance

A line that is entered outside nested scripts has all its commands still to spend, be it submitted by
the host or entered by a command.  So the limit bounds the commands that are started between one such
line and the next, and all that a submitted line sets off only if no command enters a line there.
-/

namespace VirtualTerminal

open SessionM

/-- A command is started with its arguments. -/
def Event.isDispatch : Event → Bool
  | .commandDispatched .. => true
  | _ => false

/-- How many commands a journal starts. -/
def dispatches (journal : List Event) : Nat :=
  journal.countP Event.isDispatch

/-- A line is entered outside nested scripts. -/
def Event.isOuterLine (session : Session) : Event → Bool
  | .lineEntered _ => session.meter.depth = 0
  | _ => false

/-- How many lines a journal enters outside nested scripts. -/
def outerLines (session : Session) : List Event → Nat
  | [] => 0
  | event :: journal =>
      (if event.isOuterLine session then 1 else 0) + outerLines (session.apply event) journal

@[simp]
theorem dispatches_append (first second : List Event) :
    dispatches (first ++ second) = dispatches first + dispatches second :=
  List.countP_append

theorem outerLines_append (session : Session) (first second : List Event) :
    outerLines session (first ++ second) =
      outerLines session first + outerLines (session.replay first) second := by
  induction first generalizing session with
  | nil => simp [outerLines]
  | cons event first inductionHypothesis =>
      rw [List.cons_append, outerLines, inductionHypothesis, outerLines, Session.replay_cons,
        Nat.add_assoc]

theorem outerLines_of_inside {session : Session} {journal : List Event}
    (inside : Inside session journal) : outerLines session journal = 0 := by
  induction journal generalizing session with
  | nil => rfl
  | cons event journal inductionHypothesis =>
      have unlisted : event.isOuterLine session = false := by
        cases event with
        | lineEntered line =>
            have deep := inside.1 line rfl
            simp [Event.isOuterLine, Nat.ne_of_gt deep]
        | _ => rfl
      rw [outerLines, unlisted, inductionHypothesis inside.2]
      rfl

/-- How much of its allowance a session has spent. -/
def Session.spending (session : Session) : Nat :=
  min session.meter.commands session.limits.commands

/-- Starting commands spends the allowance, and only lines outside nested scripts give it back. -/
def Rationed (session : Session) (journal : List Event) : Prop :=
  session.spending + dispatches journal ≤
    (session.replay journal).spending + session.limits.commands * outerLines session journal

namespace Rationed

variable {session : Session} {event : Event} {journal first second : List Event}

theorem nil : Rationed session [] :=
  Nat.le_refl _

theorem append (before : Rationed session first) (after : Rationed (session.replay first) second) :
    Rationed session (first ++ second) := by
  unfold Rationed at after ⊢
  rw [Session.replay_toSurroundings] at after
  rw [dispatches_append, outerLines_append, Session.replay_append, Nat.mul_add]
  have start : session.spending + dispatches first ≤ _ := before
  omega

/-- An event that starts no command spends nothing of what a line outside nested scripts has. -/
theorem single (undispatched : event.isDispatch = false) : Rationed session [event] := by
  have none : dispatches [event] = 0 := List.countP_eq_zero.mpr (by simp [undispatched])
  rw [Rationed, none, Session.replay_cons, Session.replay_nil, outerLines, outerLines]
  unfold Session.spending
  rw [Session.apply_toSurroundings]
  cases event with
  | commandCounted =>
      have more : session.meter.commands ≤ (session.apply .commandCounted).meter.commands :=
        Nat.le_succ _
      omega
  | lineEntered line =>
      -- Outside nested scripts all that was spent is given back, and that is within the limit.
      by_cases outside : session.meter.depth = 0
      · simp only [Event.isOuterLine, outside, decide_true, if_true, Nat.add_zero, Nat.mul_one]
        omega
      · have kept : (session.apply (.lineEntered line)).meter = session.meter := if_neg outside
        rw [kept]
        omega
  | _ => exact Nat.le_add_right _ _

theorem of_undispatched (undispatched : dispatches journal = 0) : Rationed session journal := by
  induction journal generalizing session with
  | nil => exact nil
  | cons event journal inductionHypothesis =>
      rw [← List.singleton_append, dispatches_append, Nat.add_eq_zero_iff] at undispatched
      have plain : event.isDispatch = false := by
        simpa [dispatches, List.countP_eq_zero] using undispatched.1
      exact (single plain).append (inductionHypothesis undispatched.2)

/-- A command that is started was counted while something was left. -/
theorem calling {line : String} {command : Command} {arguments : List String}
    (left : session.meter.commands < session.limits.commands) :
    Rationed session (calling line command arguments) := by
  have counted : (session.replay (VirtualTerminal.calling line command arguments)).spending =
      min (session.meter.commands + 1) session.limits.commands := rfl
  have one : dispatches (VirtualTerminal.calling line command arguments) = 1 := rfl
  rw [Rationed, counted, one]
  unfold Session.spending
  omega

theorem effect (happens : event.IsEffect session) : Rationed session [event] := by
  cases happens <;> exact single rfl

end Rationed

def Course.rationed : Course :=
  .ofJournals Rationed (fun _ => .nil) .append .effect

theorem Course.rationed_admitsScripts : Course.rationed.AdmitsScripts where
  started _ := ofJournals_some (.single rfl)
  finished _ _ := ofJournals_some (.single rfl)
  refused _ := ofJournals_some (.single rfl)
  nested _ inside := ofJournals_map inside fun _ rationed =>
    .append (.single rfl) (.append rationed (.single rfl))

@[simp]
theorem dispatches_closing (line : String) (reply : Reply) :
    dispatches (closing line reply) = 0 := by
  cases reply <;> rfl

/-- Behind its start a line has its whole allowance, and spends it. -/
theorem rationed_of_entered {nesting : Nat} {session : Session} {line : String} {reply : Reply}
    {journal : List Event} (entered : Entered (enterWithin nesting) session line reply journal)
    (handles : ∀ command arguments,
      (handle (enterWithin nesting) command arguments).Follows .rationed) :
    ∃ tail, journal = .lineEntered line :: tail ∧
      Rationed (session.apply (.lineEntered line)) tail := by
  cases entered with
  | @uncalled reply remarks uncalled remarked =>
      have plain : dispatches remarks = 0 := by
        cases remarked <;> rfl
      have shown : Rationed (session.apply (.lineEntered line))
          [.linesLogged [session.prompt ++ line]] := .single rfl
      refine ⟨_, rfl, shown.append (.append (.of_undispatched plain) ?_)⟩
      exact .of_undispatched (dispatches_closing line reply)
  | refused called spent => exact ⟨_, rfl, .of_undispatched rfl⟩
  | @handled command arguments handling called left handled =>
      have shown : Rationed (session.apply (.lineEntered line))
          [.linesLogged [session.prompt ++ line]] := .single rfl
      have body : Rationed (session.replay (session.opening line ++ calling line command arguments))
          handling.journal :=
        Course.admits_of_outcome (handles command arguments) handled
      refine ⟨_, rfl, shown.append (.append (.calling left) (body.append ?_))⟩
      exact .of_undispatched (dispatches_closing line handling.value)

theorem Course.follows_enterWithin_rationed (nesting : Nat) (line : String) :
    (enterWithin nesting line).Follows .rationed := by
  apply Course.rationed_admitsScripts.follows_enterWithin fun _ => ofJournals_none
  intro nesting session line reply journal entered handles
  obtain ⟨tail, whole, rationed⟩ := rationed_of_entered entered handles
  rw [whole]
  exact ofJournals_some (.append (.single rfl) rationed)

section

variable {session : Session} {line : String} {outcome : Outcome Reply}

theorem dispatches_le_mul_outerLines (idle : session.meter.depth = 0)
    (reached : (enter line).outcome session = some outcome) :
    dispatches outcome.journal ≤
      session.limits.commands * outerLines session outcome.journal := by
  obtain ⟨nesting, entered⟩ := entered_of_enter reached
  obtain ⟨tail, whole, rationed⟩ := rationed_of_entered entered
    (Course.rationed_admitsScripts.follows_handle (Course.follows_enterWithin_rationed nesting))
  have fresh : (session.apply (.lineEntered line)).spending = 0 := by
    simp [Session.spending, Session.apply, Meter.atLine, idle, Meter.reset]
  have within : ((session.apply (.lineEntered line)).replay tail).spending ≤
      session.limits.commands := by
    refine Nat.le_trans (Nat.min_le_right _ _) (Nat.le_of_eq ?_)
    rw [Session.replay_toSurroundings, Session.apply_toSurroundings]
  have first : outerLines session (.lineEntered line :: tail) =
      1 + outerLines (session.apply (.lineEntered line)) tail := by
    simp [outerLines, Event.isOuterLine, idle]
  have same : dispatches (.lineEntered line :: tail) = dispatches tail := rfl
  rw [whole, same, first, Nat.mul_add, Nat.mul_one]
  rw [Rationed, fresh, Session.apply_toSurroundings] at rationed
  omega

theorem outerLines_eq_one (idle : session.meter.depth = 0)
    (nests : ∀ command ∈ session.registry.toList, command.entersLines = false)
    (reached : (enter line).outcome session = some outcome) :
    outerLines session outcome.journal = 1 := by
  obtain ⟨nesting, entered⟩ := entered_of_enter reached
  obtain ⟨tail, whole, inside⟩ := inside_of_entered nests entered
  rw [whole, outerLines, outerLines_of_inside inside]
  simp [Event.isOuterLine, idle]

end

/-- A submitted line starts at most as many commands as the limit says for each line that is entered
outside nested scripts on the way, itself included.  It is the only such line, and the limit bounds
all the commands that it starts, where commands enter lines only through nested scripts. -/
theorem dispatches_le_allowances {session : Session} (idle : session.meter.depth = 0)
    {line : String} {outcome : Outcome Reply}
    (reached : (enter line).outcome session = some outcome) :
    dispatches outcome.journal ≤
        session.limits.commands * outerLines session outcome.journal ∧
      ((∀ command ∈ session.registry.toList, command.entersLines = false) →
        outerLines session outcome.journal = 1 ∧
          dispatches outcome.journal ≤ session.limits.commands) := by
  have bound := dispatches_le_mul_outerLines idle reached
  refine ⟨bound, fun nests => ?_⟩
  have alone := outerLines_eq_one idle nests reached
  rw [alone, Nat.mul_one] at bound
  exact ⟨alone, bound⟩

/-- A session that allows two commands for a line, with a command that enters a line between two
nested scripts. -/
def relayingSession : Session :=
  Config.session {
    commands := [{
      keyword := "relay"
      name := "Relay"
      description := "Prints the working directory twice."
      handler := .directives [.nestedScript "pwd", .line "#", .nestedScript "pwd"] }]
    limits := { commands := 2 } }

/-- Two lines outside nested scripts start two commands each. -/
theorem dispatches_le_allowances_relaying :
    ∃ outcome, (enter "relay").outcome relayingSession = some outcome ∧
      outerLines relayingSession outcome.journal = 2 ∧ dispatches outcome.journal ≤ 2 * 2 := by
  have ends : ((enter "relay").outcome relayingSession).any (fun outcome =>
      outerLines relayingSession outcome.journal = 2) = true := by decide +kernel
  obtain ⟨outcome, reached, twice⟩ := (Option.any_eq_true _ _).mp ends
  have lines := of_decide_eq_true twice
  have bound := (dispatches_le_allowances rfl reached).1
  rw [lines] at bound
  exact ⟨outcome, reached, lines, bound⟩

/-- The limit does not bound all the commands that a submitted line starts. -/
theorem dispatches_exceed_allowance :
    relayingSession.meter.depth = 0 ∧
      ∃ outcome, (enter "relay").outcome relayingSession = some outcome ∧
        ¬dispatches outcome.journal ≤ relayingSession.limits.commands := by
  have ends : ((enter "relay").outcome relayingSession).any (fun outcome =>
      !decide (dispatches outcome.journal ≤ relayingSession.limits.commands)) = true := by
    decide +kernel
  obtain ⟨outcome, reached, exceeds⟩ := (Option.any_eq_true _ _).mp ends
  exact ⟨rfl, outcome, reached, by simpa using exceeds⟩

end VirtualTerminal
