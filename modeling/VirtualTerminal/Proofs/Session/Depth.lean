import VirtualTerminal.Proofs.Session.Journal
import VirtualTerminal.Proofs.Session.Local
import VirtualTerminal.Session.Config

/-!
# The depth of nested scripts

At every point of what happens to a session the meter's depth is the number of nested scripts that
are open, and the limit bounds it.  Whatever is asked of a session closes all that it has opened.
-/

namespace VirtualTerminal

/-- The nested scripts that a journal opens, less those that it closes. -/
def openScripts (journal : List Event) : Int :=
  journal.count .nestedScriptOpened - journal.count .nestedScriptClosed

/-- What an event says of the depth is true when it happens. -/
def Event.FitsDepth (session : Session) : Event → Prop
  | .nestedScriptOpened => session.meter.depth < session.limits.depth
  | .nestedScriptClosed => 0 < session.meter.depth
  | .limitReached (.depth max) =>
      max = session.limits.depth ∧ session.limits.depth ≤ session.meter.depth
  | .scriptStarted depth => depth = session.meter.depth
  | _ => True

/-- A journal that never goes below the depth at which it starts, and ends there. -/
structure Balanced (session : Session) (journal : List Event) : Prop where
  fits : Throughout (fun now event _ =>
    session.meter.depth ≤ now.meter.depth ∧ event.FitsDepth now) session journal
  returns : (session.replay journal).meter.depth = session.meter.depth

namespace Balanced

variable {session : Session} {event : Event} {journal first second : List Event}

theorem nil : Balanced session [] where
  fits := trivial
  returns := rfl

theorem single (fits : event.FitsDepth session)
    (returns : (session.apply event).meter.depth = session.meter.depth) :
    Balanced session [event] where
  fits := ⟨⟨Nat.le_refl _, fits⟩, trivial⟩
  returns := returns

theorem append (before : Balanced session first) (after : Balanced (session.replay first) second) :
    Balanced session (first ++ second) := by
  obtain ⟨fits, returns⟩ := after
  rw [before.returns] at fits returns
  constructor
  case fits => exact before.fits.append (fun _ _ _ _ holds => holds) fits
  case returns => rw [Session.replay_append, returns]

theorem nested (room : session.meter.depth < session.limits.depth)
    (inside : Balanced (session.apply .nestedScriptOpened) journal) :
    Balanced session (.nestedScriptOpened :: (journal ++ [.nestedScriptClosed])) := by
  have deeper : (session.apply .nestedScriptOpened).meter.depth = session.meter.depth + 1 := rfl
  obtain ⟨fits, returns⟩ := inside
  rw [deeper] at fits returns
  constructor
  case fits =>
    refine ⟨⟨Nat.le_refl _, room⟩, ?_⟩
    refine Throughout.append (fun _ _ _ _ holds => holds) (fits.imp ?_) ⟨⟨?_, ?_⟩, trivial⟩
    · exact fun now event _ holds => ⟨Nat.le_of_succ_le holds.1, holds.2⟩
    · exact returns ▸ Nat.le_succ session.meter.depth
    · exact Nat.lt_of_lt_of_eq (Nat.succ_pos _) returns.symm
  case returns =>
    rw [Session.replay_cons, Session.replay_append]
    exact congrArg Nat.pred returns

theorem effect (happens : event.IsEffect session) : Balanced session [event] := by
  cases happens <;> exact single trivial rfl

end Balanced

def Course.balanced : Course :=
  .ofJournals Balanced (fun _ => .nil) .append .effect

theorem Course.balanced_isLocal : Course.balanced.IsLocal where
  started _ := ofJournals_some (.single rfl rfl)
  finished _ _ := ofJournals_some (.single trivial rfl)
  refused full := ofJournals_some (.single ⟨rfl, full⟩ rfl)
  nested room inside := ofJournals_map inside fun _ => .nested room
  entered _ _ := ofJournals_some (.single trivial Meter.depth_atLine)
  remark := by
    intro session event happens
    cases happens <;> exact ofJournals_some (.single trivial rfl)
  endless _ := ofJournals_none

theorem openScripts_append (first second : List Event) :
    openScripts (first ++ second) = openScripts first + openScripts second := by
  simp only [openScripts, List.count_append]
  omega

theorem openScripts_cons (event : Event) (journal : List Event) :
    openScripts (event :: journal) = openScripts [event] + openScripts journal :=
  openScripts_append [event] journal

theorem depth_apply {session : Session} {event : Event} (fits : event.FitsDepth session) :
    ((session.apply event).meter.depth : Int) = session.meter.depth + openScripts [event] := by
  cases event with
  | nestedScriptClosed =>
      have positive : 0 < session.meter.depth := fits
      simp only [Session.apply, Meter.shallower, openScripts, List.count_singleton]
      simp
      omega
  | lineEntered line => simp [Session.apply, openScripts]
  | nestedScriptOpened => simp [Session.apply, Meter.deeper, openScripts]
  | _ => simp [Session.apply, Session.setDirectory, openScripts]

/-- Where the events fit the depth, it tells the scripts that are open. -/
theorem depth_replay {session : Session} {journal : List Event}
    (fits : Throughout (fun now event _ => event.FitsDepth now) session journal) :
    ((session.replay journal).meter.depth : Int) = session.meter.depth + openScripts journal := by
  induction journal generalizing session with
  | nil => simp [openScripts]
  | cons event journal inductionHypothesis =>
      rw [Session.replay_cons, inductionHypothesis fits.2, depth_apply fits.1,
        openScripts_cons event journal, Int.add_assoc]

theorem depth_apply_le {session : Session} {event : Event} (fits : event.FitsDepth session)
    (within : session.meter.depth ≤ session.limits.depth) :
    (session.apply event).meter.depth ≤ session.limits.depth := by
  cases event with
  | nestedScriptOpened => exact fits
  | nestedScriptClosed => exact Nat.le_trans (Nat.sub_le _ 1) within
  | lineEntered line => exact Nat.le_trans (Nat.le_of_eq Meter.depth_atLine) within
  | _ => exact within

theorem depth_replay_le {session : Session} {journal : List Event}
    (fits : Throughout (fun now event _ => event.FitsDepth now) session journal)
    (within : session.meter.depth ≤ session.limits.depth) :
    (session.replay journal).meter.depth ≤ session.limits.depth := by
  induction journal generalizing session with
  | nil => exact within
  | cons event journal inductionHypothesis =>
      have further := inductionHypothesis fits.2
      rw [Session.apply_toSurroundings] at further
      exact further (depth_apply_le fits.1 within)

namespace SessionM

/-- A step that ends at the depth at which it starts. -/
def KeepsDepth {α : Type} (step : SessionM α) : Prop :=
  ∀ session outcome, step.outcome session = some outcome →
    outcome.session.meter.depth = session.meter.depth

theorem keepsDepth_of_balanced {α : Type} {step : SessionM α}
    (balanced : step.Follows .balanced) : step.KeepsDepth := by
  intro session outcome reached
  rw [outcome_session reached]
  exact (Course.admits_of_outcome balanced reached).returns

theorem playNested_outcome (enter : String → SessionM Reply) (script : String)
    (session : Session) :
    (playNested enter script).outcome session =
      if session.meter.depth < session.limits.depth then
        ((playScript enter script).outcome (session.apply .nestedScriptOpened)).map fun played => {
          value := .ok played.value
          session := played.session.apply .nestedScriptClosed
          journal := .nestedScriptOpened :: (played.journal ++ [.nestedScriptClosed]) }
      else some {
        value := .error (.limit (.depth session.limits.depth))
        session := session
        journal := [.limitReached (.depth session.limits.depth)] } := by
  split
  next room => exact playNested_outcome_of_room room
  next full => exact playNested_outcome_of_full (Nat.le_of_not_lt full)

end SessionM

namespace Course

theorem balanced_keystroke {session : Session} {event : Event}
    (happens : event.IsKeystroke session) : balanced.Holds session (some [event]) := by
  cases happens <;> exact ofJournals_some (.single trivial rfl)

theorem follows_perform_balanced (request : Request) : request.perform.Follows .balanced :=
  balanced_isLocal.follows_perform balanced_keystroke request

theorem follows_performAll_balanced (requests : List Request) :
    (Request.performAll requests).Follows .balanced :=
  balanced_isLocal.follows_performAll balanced_keystroke requests

end Course

open SessionM

/-- Whatever is asked of a session with no script open, its depth is the number of open scripts at
every point; a nested script is played just where fewer than the limit are open, and refused
otherwise with the session as it was; and every step ends at the depth at which it starts. -/
theorem depth_eq_openScripts {session : Session} (idle : session.meter.depth = 0)
    {requests : List Request} {outcome : Outcome (List Answer)}
    (reached : (Request.performAll requests).outcome session = some outcome) :
    (∀ past rest, outcome.journal = past ++ rest →
      ((session.replay past).meter.depth : Int) = openScripts past ∧
        (session.replay past).meter.depth ≤ session.limits.depth) ∧
    (∀ past rest, outcome.journal = past ++ .nestedScriptOpened :: rest →
      openScripts past < session.limits.depth) ∧
    (∀ past max rest, outcome.journal = past ++ .limitReached (.depth max) :: rest →
      max = session.limits.depth ∧ openScripts past = max ∧
        session.replay (past ++ [.limitReached (.depth max)]) = session.replay past) ∧
    (∀ (enter : String → SessionM Reply) (script : String) (now : Session),
      (playNested enter script).outcome now =
        if now.meter.depth < now.limits.depth then
          ((playScript enter script).outcome (now.apply .nestedScriptOpened)).map fun played => {
            value := .ok played.value
            session := played.session.apply .nestedScriptClosed
            journal := .nestedScriptOpened :: (played.journal ++ [.nestedScriptClosed]) }
        else some {
          value := .error (.limit (.depth now.limits.depth))
          session := now
          journal := [.limitReached (.depth now.limits.depth)] }) ∧
    (∀ request : Request, request.perform.KeepsDepth) ∧
    (∀ nesting line, (enterWithin nesting line).KeepsDepth) ∧
    (∀ nesting script, (playScript (enterWithin nesting) script).KeepsDepth ∧
      (playNested (enterWithin nesting) script).KeepsDepth) ∧
    (∀ nesting command arguments,
      (handle (enterWithin nesting) command arguments).KeepsDepth) ∧
    outcome.session.meter.depth = 0 := by
  have loc := Course.balanced_isLocal
  have balanced := Course.admits_of_outcome (Course.follows_performAll_balanced requests) reached
  have fits : Throughout (fun now event _ => event.FitsDepth now) session outcome.journal :=
    balanced.fits.imp fun _ _ _ holds => holds.2
  have told : ∀ past rest, outcome.journal = past ++ rest →
      ((session.replay past).meter.depth : Int) = openScripts past ∧
        (session.replay past).meter.depth ≤ session.limits.depth := by
    intro past rest split
    rw [split] at fits
    have before := fits.left fun _ _ _ _ holds => holds
    constructor
    · rw [depth_replay before, idle, Int.ofNat_zero, Int.zero_add]
    · exact depth_replay_le before (idle ▸ Nat.zero_le _)
  refine ⟨told, ?_, ?_, playNested_outcome, ?_, ?_, ?_, ?_, ?_⟩
  · intro past rest split
    have room := Throughout.iff_forall_split.mp fits past _ rest split
    rw [← (told past _ split).1]
    rw [Event.FitsDepth, Session.replay_toSurroundings] at room
    exact Int.ofNat_lt.mpr room
  · intro past max rest split
    obtain ⟨rfl, full⟩ := Throughout.iff_forall_split.mp fits past _ rest split
    obtain ⟨depth, within⟩ := told past _ split
    rw [Session.replay_toSurroundings] at full
    refine ⟨by rw [Session.replay_toSurroundings], ?_, by rw [Session.replay_append]; rfl⟩
    rw [Session.replay_toSurroundings, ← depth, Nat.le_antisymm within full]
  · exact fun request => keepsDepth_of_balanced (Course.follows_perform_balanced request)
  · exact fun nesting line => keepsDepth_of_balanced (loc.follows_enterWithin nesting line)
  · intro nesting script
    have lines := loc.follows_enterWithin nesting
    exact ⟨keepsDepth_of_balanced (loc.follows_playScript script fun line _ => lines line),
      keepsDepth_of_balanced (loc.follows_playNested lines script)⟩
  · intro nesting command arguments
    exact keepsDepth_of_balanced
      (loc.follows_handle (loc.follows_enterWithin nesting) command arguments)
  · rw [outcome_session reached, balanced.returns, idle]

/-- A session whose only file is a script that runs itself. -/
def loopingSession : Session :=
  Config.session {
    layout := { entries := .file { name := "loop", content := .text "run loop" } .nil }
    limits := { depth := 3 } }

/-- The script that runs itself is opened three times and then refused. -/
theorem depth_eq_openScripts_looping :
    ∃ outcome, (Request.performAll [.line "run loop"]).outcome loopingSession = some outcome ∧
      outcome.journal.count .nestedScriptOpened = 3 ∧
      .limitReached (.depth 3) ∈ outcome.journal ∧
      ∀ past rest, outcome.journal = past ++ rest →
        ((loopingSession.replay past).meter.depth : Int) = openScripts past ∧
          (loopingSession.replay past).meter.depth ≤ 3 := by
  have ends : ((Request.performAll [.line "run loop"]).outcome loopingSession).any (fun outcome =>
      outcome.journal.count .nestedScriptOpened = 3 ∧
        .limitReached (.depth 3) ∈ outcome.journal) = true := by decide +kernel
  obtain ⟨outcome, reached, opened⟩ := (Option.any_eq_true _ _).mp ends
  obtain ⟨thrice, refused⟩ := of_decide_eq_true opened
  exact ⟨outcome, reached, thrice, refused, (depth_eq_openScripts rfl reached).1⟩

end VirtualTerminal
