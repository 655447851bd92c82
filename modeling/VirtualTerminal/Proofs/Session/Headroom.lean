import VirtualTerminal.Proofs.Session.Coupling

/-!
# More generous limits

The limits are looked at in two places, before a command is handled and before a nested script is
opened, and there they are only held against the meter.  So what is done without reaching them is
done in the same way under limits that allow more.
-/

namespace VirtualTerminal

/-- Whatever the first limits allow, the second ones allow as well. -/
structure Limits.IsWithin (limits generous : Limits) : Prop where
  depth : limits.depth ≤ generous.depth
  commands : limits.commands ≤ generous.commands

/-- There is as much room for open lines under more generous limits. -/
theorem Session.nestingBound_le {session : Session} {generous : Limits}
    (within : session.limits.IsWithin generous) (line : String) :
    session.nestingBound line ≤
      ({ session with limits := generous } : Session).nestingBound line := by
  unfold Session.nestingBound
  exact Nat.add_le_add_right (Nat.add_le_add_left within.commands _) 2

/-- A session beside the same session under more generous limits, where the first reaches none. -/
def Coupling.granted (generous : Limits) : Coupling where
  Alike first second :=
    first.limits.IsWithin generous ∧ second = { first with limits := generous }
  Admits event := ∀ limit, event ≠ .limitReached limit
  depth := id
  same := fun ⟨_, second⟩ => ⟨_, generous, _, second⟩
  depth_eq := by rintro first _ ⟨within, rfl⟩; rfl
  room := by
    rintro first _ ⟨within, rfl⟩ room
    exact Nat.lt_of_lt_of_le room within.depth
  left := by
    rintro first _ ⟨within, rfl⟩ left
    exact Nat.lt_of_lt_of_le left within.commands
  full _ unlimited := absurd rfl (unlimited _)
  spent _ unlimited := absurd rfl (unlimited _)
  apply := by
    rintro first _ event ⟨within, rfl⟩ -
    refine ⟨(first.apply_toSurroundings event).symm ▸ within, ?_⟩
    cases event <;> rfl

namespace SessionM

theorem couples_enter_granted (generous : Limits) (line : String) :
    (enter line).Couples (.granted generous) (enter line) := by
  apply couples_enter_of_le
  rintro first _ ⟨within, rfl⟩
  exact Session.nestingBound_le within line

/-- Where a step ends without reaching a limit, not even on behalf of a script or a command that
goes on regardless, it ends under more generous limits as well: with the same value, the same
journal and a session that differs in the limits alone. -/
def IgnoresHeadroom {α : Type} (step : SessionM α) : Prop :=
  ∀ (session : Session) (generous : Limits), session.limits.IsWithin generous →
    ∀ outcome, step.outcome session = some outcome →
      (∀ limit, .limitReached limit ∉ outcome.journal) →
      step.outcome { session with limits := generous } = some {
        value := outcome.value
        session := { outcome.session with limits := generous }
        journal := outcome.journal }

theorem ignoresHeadroom_of_couples {α : Type} {step : SessionM α}
    (couples : ∀ generous, step.Couples (.granted generous) step) : step.IgnoresHeadroom := by
  intro session generous within outcome reached unlimited
  obtain ⟨result, done, value, journal, -, alike⟩ := couples generous session _ ⟨within, rfl⟩
    outcome reached fun event member limit same => unlimited limit (same ▸ member)
  have same : result.journal = outcome.journal := journal.trans (map_mapDepth_id _)
  rw [done, ← value, ← same, ← alike]

end SessionM

/-- Raising the limits changes nothing that is asked of a session without reaching them, be the
commands its own or called directly, registered or not. -/
theorem unreached_limits_change_nothing :
    (∀ request : Request, request.perform.IgnoresHeadroom) ∧
      ∀ command arguments,
        (SessionM.handle SessionM.enter command arguments).IgnoresHeadroom := by
  constructor
  · intro request
    exact SessionM.ignoresHeadroom_of_couples fun generous =>
      SessionM.couples_request (SessionM.couples_enter_granted generous) request
  · intro command arguments
    have balanced := Course.balanced_isLocal.follows_enter
    exact SessionM.ignoresHeadroom_of_couples fun generous =>
      SessionM.couples_handle (SessionM.couples_enter_granted generous) balanced command arguments

/-- A session with just the room for a script that runs another one. -/
def tightSession : Session :=
  let files := .file { name := "outer", content := .text "run inner" } <|
    .file { name := "inner", content := .text "pwd" } .nil
  Config.session {
    layout := { entries := files }
    limits := { depth := 2, commands := 3 } }

/-- The script goes the same way with room to spare. -/
theorem unreached_limits_change_nothing_tight :
    ∃ outcome, (SessionM.enter "run outer").outcome tightSession = some outcome ∧
      outcome.journal.count .nestedScriptOpened = 2 ∧ outcome.session.meter.commands = 3 ∧
      (Request.line "run outer").perform.outcome
          { tightSession with limits := { depth := 5, commands := 100 } } = some {
        value := .reply outcome.value
        session := { outcome.session with limits := { depth := 5, commands := 100 } }
        journal := outcome.journal } := by
  have ends : ((SessionM.enter "run outer").outcome tightSession).any (fun outcome =>
      outcome.journal.all (fun event => !event matches .limitReached _) ∧
        outcome.journal.count .nestedScriptOpened = 2 ∧
        outcome.session.meter.commands = 3) = true := by decide +kernel
  obtain ⟨outcome, reached, holds⟩ := (Option.any_eq_true _ _).mp ends
  obtain ⟨allowed, opened, counted⟩ := of_decide_eq_true holds
  have unlimited : ∀ limit, .limitReached limit ∉ outcome.journal := fun limit member =>
    absurd (List.all_eq_true.mp allowed _ member) nofun
  have performed : (Request.line "run outer").perform.outcome tightSession = some {
      value := .reply outcome.value
      session := outcome.session
      journal := outcome.journal } := by
    rw [Request.perform, map_eq_pure_bind, SessionM.bind_pure_outcome, reached, Option.map_some]
  have within : tightSession.limits.IsWithin { depth := 5, commands := 100 } :=
    ⟨by decide, by decide⟩
  exact ⟨outcome, reached, opened, counted, unreached_limits_change_nothing.1 (.line "run outer")
    tightSession _ within _ performed unlimited⟩

end VirtualTerminal
