import VirtualTerminal.Proofs.Session.Depth
import VirtualTerminal.Proofs.Session.Termination

/-!
# The allowance of commands

The lines that call a command, the one that was submitted and those of the scripts inside it, are
numbered in the order in which they are entered.  Just as many of them as the limit says are
handled, and the others are refused.
-/

namespace VirtualTerminal

open SessionM

/-- Whether a line is entered that calls a command. -/
def Registry.isAttempt (registry : Registry) : Event → Bool
  | .lineEntered line => (registry.called? line).isSome
  | _ => false

/-- How many lines that call a command a journal enters. -/
def Registry.attempts (registry : Registry) (journal : List Event) : Nat :=
  journal.countP registry.isAttempt

/-- The command of a line is handled, and the line ends with the reply. -/
def Handled (session : Session) (line : String) (command : Command) (arguments : List String)
    (rest : List Event) : Prop :=
  ∃ nesting handling later,
    (handle (enterWithin nesting) command arguments).outcome
      (session.replay (session.opening line ++ calling line command arguments)) = some handling ∧
    .lineEntered line :: rest = session.opening line ++ calling line command arguments ++
      (handling.journal ++ closing line handling.value) ++ later

/-- The command of a line is not handled, because all commands are spent. -/
def Refused (session : Session) (line : String) (rest : List Event) : Prop :=
  ∃ later, .lineEntered line :: rest = session.refusal line ++ later

/-- The commands counted so far decide whether a line's command is handled. -/
def Decided (now : Session) (event : Event) (rest : List Event) : Prop :=
  ∀ line command arguments, event = .lineEntered line →
    now.registry.called? line = some (command, arguments) →
    if now.meter.atLine.commands < now.limits.commands then
      Handled now line command arguments rest
    else Refused now line rest

theorem decided_stable (now : Session) (event : Event) (rest more : List Event)
    (decided : Decided now event rest) : Decided now event (rest ++ more) := by
  intro line command arguments same called
  have before := decided line command arguments same called
  split at before
  next left =>
    obtain ⟨nesting, handling, later, handled, split⟩ := before
    rw [if_pos left]
    refine ⟨nesting, handling, later ++ more, handled, ?_⟩
    rw [← List.cons_append, split, List.append_assoc]
  next spent =>
    obtain ⟨later, split⟩ := before
    rw [if_neg spent]
    exact ⟨later ++ more, by rw [← List.cons_append, split, List.append_assoc]⟩

/-- Each line that calls a command is counted right behind its echo, and nothing else is counted. -/
inductive Tallied (registry : Registry) : List Event → Prop
  | nothing : Tallied registry []
  | other {event : Event} {rest : List Event} (uncounted : event ≠ .commandCounted)
      (unattempted : registry.isAttempt event = false) (tallied : Tallied registry rest) :
      Tallied registry (event :: rest)
  | attempt {line : String} {lines : List String} {rest : List Event}
      (called : registry.isAttempt (.lineEntered line) = true) (tallied : Tallied registry rest) :
      Tallied registry (.lineEntered line :: .linesLogged lines :: .commandCounted :: rest)

theorem Tallied.append {registry : Registry} {first second : List Event}
    (before : Tallied registry first) (after : Tallied registry second) :
    Tallied registry (first ++ second) := by
  induction before with
  | nothing => exact after
  | other uncounted unattempted _ inductionHypothesis =>
      exact .other uncounted unattempted inductionHypothesis
  | attempt called _ inductionHypothesis => exact .attempt called inductionHypothesis

/-- Before a line is entered, as many commands are counted as lines have called one. -/
theorem Tallied.attempts_eq {registry : Registry} {journal past rest : List Event} {line : String}
    (tallied : Tallied registry journal) (split : journal = past ++ .lineEntered line :: rest) :
    registry.attempts past = past.count .commandCounted := by
  induction tallied generalizing past with
  | nothing => simp at split
  | other uncounted unattempted _ inductionHypothesis =>
      cases past with
      | nil => rfl
      | cons head past =>
          obtain ⟨rfl, later⟩ := List.cons.inj split
          have same := inductionHypothesis later
          rw [Registry.attempts, List.countP_cons_of_neg (by simp [unattempted]),
            List.count_cons_of_ne uncounted]
          exact same
  | attempt called _ inductionHypothesis =>
      rcases past with _ | ⟨first, _ | ⟨second, _ | ⟨third, past⟩⟩⟩
      · rfl
      · simp at split
      · simp at split
      · simp only [List.cons_append, List.cons.injEq] at split
        obtain ⟨rfl, rfl, rfl, later⟩ := split
        have same := inductionHypothesis later
        rw [Registry.attempts, List.countP_cons_of_pos called,
          List.countP_cons_of_neg (by simp [Registry.isAttempt]),
          List.countP_cons_of_neg (by simp [Registry.isAttempt]), List.count_cons_of_ne (by simp),
          List.count_cons_of_ne (by simp), List.count_cons_self]
        exact congrArg Nat.succ same

/-- An event that neither enters a line nor counts a command. -/
def Event.isSilent : Event → Bool
  | .lineEntered _ | .commandCounted => false
  | _ => true

structure Metered (session : Session) (journal : List Event) : Prop where
  tallied : Tallied session.registry journal
  decided : Throughout Decided session journal

namespace Metered

variable {session : Session} {event : Event} {first second rest : List Event}

theorem nil : Metered session [] :=
  ⟨.nothing, trivial⟩

theorem cons_silent (silent : event.isSilent = true)
    (metered : Metered (session.apply event) rest) : Metered session (event :: rest) := by
  obtain ⟨tallied, decided⟩ := metered
  rw [Session.apply_toSurroundings] at tallied
  refine ⟨.other ?_ ?_ tallied, ?_, decided⟩
  · rintro rfl
    cases silent
  · cases event with
    | lineEntered line => cases silent
    | _ => rfl
  · rintro line command arguments rfl
    cases silent

theorem of_silent {journal : List Event} (silent : journal.all Event.isSilent = true) :
    Metered session journal := by
  induction journal generalizing session with
  | nil => exact nil
  | cons event journal inductionHypothesis =>
      rw [List.all_cons, Bool.and_eq_true] at silent
      exact cons_silent silent.1 (inductionHypothesis silent.2)

theorem attempt {line : String} {lines : List String}
    (called : session.registry.isAttempt (.lineEntered line) = true)
    (decided : Decided session (.lineEntered line) (.linesLogged lines :: .commandCounted :: rest))
    (metered :
      Metered (session.replay [.lineEntered line, .linesLogged lines, .commandCounted]) rest) :
    Metered session (.lineEntered line :: .linesLogged lines :: .commandCounted :: rest) := by
  obtain ⟨tallied, later⟩ := metered
  rw [Session.replay_toSurroundings] at tallied
  refine ⟨.attempt called tallied, decided, ?_, ?_, later⟩
  · rintro other command arguments ⟨⟩
  · rintro other command arguments ⟨⟩

theorem append (before : Metered session first)
    (after : Metered (session.replay first) second) : Metered session (first ++ second) := by
  obtain ⟨tallied, decided⟩ := after
  rw [Session.replay_toSurroundings] at tallied
  exact ⟨before.tallied.append tallied, before.decided.append decided_stable decided⟩

theorem effect (happens : event.IsEffect session) : Metered session [event] := by
  cases happens <;> exact cons_silent rfl nil

end Metered

theorem all_isSilent_closing (line : String) (reply : Reply) :
    (closing line reply).all Event.isSilent = true := by
  cases reply <;> rfl

/-- A line that calls no command is silent behind its start. -/
theorem all_isSilent_of_uncalled {registry : Registry} {line : String} {reply : Reply}
    {remarks : List Event} (uncalled : Uncalled registry line reply remarks) (lines : List String) :
    (.linesLogged lines :: (remarks ++ closing line reply)).all Event.isSilent = true := by
  have quiet : remarks.all Event.isSilent = true := by
    cases uncalled <;> rfl
  rw [List.all_cons, List.all_append, quiet, all_isSilent_closing]
  rfl

def Course.metered : Course :=
  .ofJournals Metered (fun _ => .nil) .append .effect

theorem Course.metered_admitsScripts : Course.metered.AdmitsScripts where
  started _ := ofJournals_some (.cons_silent rfl .nil)
  finished _ _ := ofJournals_some (.cons_silent rfl .nil)
  refused _ := ofJournals_some (.cons_silent rfl .nil)
  nested _ inside := ofJournals_map inside fun _ metered =>
    .cons_silent rfl (metered.append (.cons_silent rfl .nil))

theorem metered_of_entered {nesting : Nat} {session : Session} {line : String} {reply : Reply}
    {journal : List Event} (entered : Entered (enterWithin nesting) session line reply journal)
    (handles : ∀ command arguments,
      (handle (enterWithin nesting) command arguments).Follows .metered) :
    Metered session journal := by
  cases entered with
  | @uncalled reply remarks uncalled remarked =>
      have later : Metered (session.apply (.lineEntered line))
          (.linesLogged [session.prompt ++ line] :: (remarks ++ closing line reply)) :=
        Metered.of_silent (all_isSilent_of_uncalled remarked _)
      refine ⟨.other (by simp) (by simp [Registry.isAttempt, uncalled]) later.tallied, ?_,
        later.decided⟩
      rintro other command arguments ⟨⟩ called
      rw [uncalled] at called
      cases called
  | @refused command arguments called spent =>
      have later : Metered (session.replay (session.opening line ++ [.commandCounted]))
          (.limitReached (.commands session.limits.commands) ::
            closing line (.error session.spent)) :=
        Metered.of_silent rfl
      refine Metered.attempt (by simp [Registry.isAttempt, called]) ?_ later
      rintro other command arguments ⟨⟩ _
      rw [if_neg (Nat.not_lt_of_le spent)]
      exact ⟨[], (List.append_nil _).symm⟩
  | @handled command arguments handling called left handled =>
      have body : Metered (session.replay (session.opening line ++ calling line command arguments))
          handling.journal :=
        Course.admits_of_outcome (handles command arguments) handled
      have later := body.append (Metered.of_silent (all_isSilent_closing line handling.value))
      refine Metered.attempt (by simp [Registry.isAttempt, called]) ?_ (.cons_silent rfl later)
      rintro other command arguments ⟨⟩ same
      obtain ⟨rfl, rfl⟩ := Prod.mk.inj (Option.some.inj (called.symm.trans same))
      rw [if_pos left]
      exact ⟨nesting, handling, [], handled, (List.append_nil _).symm⟩

theorem Course.follows_enterWithin_metered (nesting : Nat) (line : String) :
    (enterWithin nesting line).Follows .metered :=
  Course.metered_admitsScripts.follows_enterWithin (fun _ => ofJournals_none)
    (fun entered handles => ofJournals_some (metered_of_entered entered handles)) nesting line

/-- If a line is entered, it is entered in a nested script. -/
def Event.IsInside (now : Session) (event : Event) : Prop :=
  ∀ line, event = .lineEntered line → 0 < now.meter.depth

/-- Lines are entered in nested scripts only. -/
def Inside : Session → List Event → Prop :=
  Throughout fun now event _ => event.IsInside now

namespace Inside

variable {session : Session} {event : Event} {journal first second : List Event}

theorem nil : Inside session [] :=
  trivial

theorem cons (unentered : ∀ line, event ≠ .lineEntered line)
    (later : Inside (session.apply event) journal) : Inside session (event :: journal) :=
  ⟨fun line same => absurd same (unentered line), later⟩

theorem append (before : Inside session first) (after : Inside (session.replay first) second) :
    Inside session (first ++ second) :=
  Throughout.append (fun _ _ _ _ holds => holds) before after

theorem effect (happens : event.IsEffect session) : Inside session [event] := by
  cases happens <;> exact cons (by simp) nil

theorem of_silent (silent : journal.all Event.isSilent = true) : Inside session journal := by
  induction journal generalizing session with
  | nil => exact nil
  | cons event journal inductionHypothesis =>
      rw [List.all_cons, Bool.and_eq_true] at silent
      refine cons ?_ (inductionHypothesis silent.2)
      rintro line rfl
      cases silent.1

/-- Inside a nested script all lines are. -/
theorem of_balanced (deep : 0 < session.meter.depth) (balanced : Balanced session journal) :
    Inside session journal := by
  refine balanced.fits.imp ?_
  intro now event _ least line _
  exact Nat.lt_of_lt_of_le deep least.1

end Inside

def Course.inside : Course :=
  .ofJournals Inside (fun _ => .nil) .append .effect

theorem Course.follows_playNested_inside {enter : String → SessionM Reply}
    (balanced : ∀ line, (enter line).Follows .balanced) (script : String) :
    (playNested enter script).Follows .inside := by
  intro session journal found
  obtain ⟨outcome, reached, rfl⟩ := journal?_eq_some_iff.mp found
  rcases Nat.lt_or_ge session.meter.depth session.limits.depth with room | full
  · rw [playNested_outcome_of_room room] at reached
    obtain ⟨played, playing, rfl⟩ := Option.map_eq_some_iff.mp reached
    have body := Course.admits_of_outcome
      (Course.balanced_isLocal.follows_playScript script fun line _ => balanced line) playing
    have inside := Inside.of_balanced (Nat.succ_pos session.meter.depth) body
    exact .cons (by simp) (inside.append (.cons (by simp) .nil))
  · rw [playNested_outcome_of_full full] at reached
    cases reached
    exact .cons (by simp) .nil

/-- What comes of a line behind its start enters further lines in nested scripts only. -/
theorem inside_of_entered {nesting : Nat} {session : Session} {line : String} {reply : Reply}
    {journal : List Event}
    (nests : ∀ command ∈ session.registry.toList, command.entersLines = false)
    (entered : Entered (enterWithin nesting) session line reply journal) :
    ∃ tail, journal = .lineEntered line :: tail ∧
      Inside (session.apply (.lineEntered line)) tail := by
  cases entered with
  | @uncalled reply remarks uncalled remarked =>
      exact ⟨_, rfl, .of_silent (all_isSilent_of_uncalled remarked _)⟩
  | @refused command arguments called spent =>
      refine ⟨_, rfl, .cons (by simp) (.cons (by simp) ?_)⟩
      exact .of_silent rfl
  | @handled command arguments handling called left handled =>
      have enters := nests command (Registry.mem_toList_of_called? called)
      have balanced := Course.balanced_isLocal.follows_enterWithin nesting
      have handles : (handle (enterWithin nesting) command arguments).Follows .inside :=
        Course.follows_handle (Course.follows_playNested_inside balanced) command arguments
          (fun other => absurd other (by simp [enters]))
          (fun other => absurd other (by simp [enters]))
      have body : Inside (session.replay (session.opening line ++ calling line command arguments))
          handling.journal := Course.admits_of_outcome handles handled
      have later := body.append (.of_silent (all_isSilent_closing line handling.value))
      refine ⟨_, rfl, .cons (by simp) (.cons (by simp) (.cons (by simp) ?_))⟩
      exact later

/-- Where lines are entered in nested scripts only, the meter tells the commands counted. -/
theorem commands_replay {session : Session} {journal : List Event}
    (inside : Inside session journal) :
    (session.replay journal).meter.commands =
      session.meter.commands + journal.count .commandCounted := by
  induction journal generalizing session with
  | nil => rfl
  | cons event journal inductionHypothesis =>
      rw [Session.replay_cons, inductionHypothesis inside.2]
      cases event with
      | commandCounted =>
          rw [List.count_cons_self, ← Nat.add_assoc, Nat.add_right_comm]
          rfl
      | lineEntered line =>
          have deep := inside.1 line rfl
          rw [List.count_cons_of_ne (by simp), Session.apply, Meter.atLine,
            if_neg (Nat.ne_of_gt deep)]
      | _ =>
          rw [List.count_cons_of_ne (by simp)]
          rfl

/-- When a line is entered, the meter shows how many lines have called a command before it. -/
theorem commands_eq_attempts {session : Session} {first line : String} {tail past rest : List Event}
    (idle : session.meter.depth = 0)
    (tallied : Tallied session.registry (.lineEntered first :: tail))
    (inside : Inside (session.apply (.lineEntered first)) tail)
    (split : .lineEntered first :: tail = past ++ .lineEntered line :: rest) :
    (session.replay past).meter.atLine.commands = session.registry.attempts past := by
  have fresh : session.meter.atLine.commands = 0 := by
    rw [Meter.atLine, if_pos idle, Meter.reset]
  rw [tallied.attempts_eq split]
  cases past with
  | nil => exact fresh
  | cons head past =>
      obtain ⟨rfl, later⟩ := List.cons.inj split
      have deep := Throughout.iff_forall_split.mp inside past _ rest later line rfl
      rw [later] at inside
      have counted := commands_replay (inside.left fun _ _ _ _ holds => holds)
      rw [Session.replay_cons, Meter.atLine, if_neg (Nat.ne_of_gt deep), counted,
        List.count_cons_of_ne (by simp)]
      exact (congrArg (· + _) fresh).trans (Nat.zero_add _)

/-- A refused line changes the log and the meter only. -/
theorem Session.replay_refusal (session : Session) (line : String) :
    session.replay (session.refusal line) = { session with
      log := appendLines session.log [session.prompt ++ line, session.spent.message]
      meter := session.meter.atLine.count } := rfl

theorem not_handled_of_refused {session : Session} {line : String} {command : Command}
    {arguments : List String} {rest : List Event} (refused : Refused session line rest) :
    ¬Handled session line command arguments rest := by
  obtain ⟨later, split⟩ := refused
  rintro ⟨nesting, handling, further, -, same⟩
  rw [split] at same
  simp [Session.refusal, Session.opening, calling] at same

/-- Where commands enter lines only through nested scripts, a submitted line comes to an end.  Of
the lines that call a command, numbered from one in the order in which they are entered, just those
are handled whose number is within the limit; every other one is refused, shows its echo and the
reason, and changes nothing else but the meter. -/
theorem handled_iff_within_allowance {session : Session} (idle : session.meter.depth = 0)
    (nests : ∀ command ∈ session.registry.toList, command.entersLines = false) (line : String) :
    ∃ outcome, (enter line).outcome session = some outcome ∧
      ∀ past entered rest command arguments,
        outcome.journal = past ++ .lineEntered entered :: rest →
        session.registry.called? entered = some (command, arguments) →
        let now := session.replay past
        let number := session.registry.attempts past + 1
        (Handled now entered command arguments rest ↔ number ≤ session.limits.commands) ∧
        (session.limits.commands < number → Refused now entered rest ∧
          now.replay (now.refusal entered) = { now with
            log := appendLines now.log [now.prompt ++ entered,
              (Error.limit (.commands session.limits.commands)).message]
            meter := now.meter.atLine.count }) := by
  obtain ⟨outcome, reached⟩ := enter_ends nests line
  refine ⟨outcome, reached, ?_⟩
  intro past entered rest command arguments split called now number
  obtain ⟨nesting, bound⟩ : ∃ nesting, session.nestingBound line = nesting + 1 := ⟨_, rfl⟩
  rw [enter_outcome, bound] at reached
  have metered : Metered session outcome.journal :=
    Course.admits_of_outcome (Course.follows_enterWithin_metered (nesting + 1) line) reached
  obtain ⟨tail, same, inside⟩ := inside_of_entered nests (entered_of_outcome reached)
  have numbered := commands_eq_attempts idle (same ▸ metered.tallied) inside (same ▸ split)
  have decided := Throughout.iff_forall_split.mp metered.decided past _ rest split entered
    command arguments rfl (by rw [Session.replay_toSurroundings, called])
  rw [numbered, Session.replay_toSurroundings] at decided
  rcases Nat.lt_or_ge (session.registry.attempts past) session.limits.commands with left | spent
  · rw [if_pos left] at decided
    refine ⟨⟨fun _ => left, fun _ => decided⟩, fun exceeded => ?_⟩
    exact absurd exceeded (Nat.not_lt_of_le left)
  · rw [if_neg (Nat.not_lt_of_le spent)] at decided
    refine ⟨⟨fun handled => absurd handled (not_handled_of_refused decided), fun within => ?_⟩, ?_⟩
    · exact absurd within (Nat.not_le_of_lt (Nat.lt_succ_of_le spent))
    · intro _
      refine ⟨decided, ?_⟩
      rw [Session.replay_refusal, Session.spent, Session.replay_toSurroundings]

/-- A session with a script of three lines and an allowance of three commands. -/
def scantySession : Session :=
  Config.session {
    layout := { entries := .file { name := "three", content := .text "pwd\n\npwd\npwd" } .nil }
    limits := { commands := 3 } }

/-- Four lines call a command: the line that plays the script and the first two lines of it are
handled, the last is refused. -/
theorem handled_iff_within_allowance_scanty :
    scantySession.meter.depth = 0 ∧
    (∀ command ∈ scantySession.registry.toList, command.entersLines = false) ∧
    ∃ outcome, (enter "run three").outcome scantySession = some outcome ∧
      scantySession.registry.attempts outcome.journal = 4 ∧
      ∀ past entered rest command arguments,
        outcome.journal = past ++ .lineEntered entered :: rest →
        scantySession.registry.called? entered = some (command, arguments) →
        (Handled (scantySession.replay past) entered command arguments rest ↔
          scantySession.registry.attempts past + 1 ≤ 3) := by
  have nests : ∀ command ∈ scantySession.registry.toList, command.entersLines = false := by
    decide +kernel
  obtain ⟨outcome, reached, numbered⟩ := handled_iff_within_allowance rfl nests "run three"
  have four : ((enter "run three").outcome scantySession).any (fun outcome =>
      scantySession.registry.attempts outcome.journal = 4) = true := by decide +kernel
  obtain ⟨other, same, counted⟩ := (Option.any_eq_true _ _).mp four
  obtain rfl := Option.some.inj (reached.symm.trans same)
  refine ⟨rfl, nests, outcome, reached, of_decide_eq_true counted, ?_⟩
  intro past entered rest command arguments split called
  exact (numbered past entered rest command arguments split called).1

end VirtualTerminal
