import VirtualTerminal.Console.Basic
import VirtualTerminal.Proofs.Session.Failure
import VirtualTerminal.Proofs.Session.Log

/-!
# The surroundings of the console

Whatever the console is used for, it builds its session in the same surroundings.  All their
commands are builtins, so every line that is entered there comes to an end.
-/

namespace VirtualTerminal.Console

/-- What every session of the console is built with. -/
def surroundings : Surroundings :=
  Config.surroundings { host := host }

theorem isBuiltin_of_mem :
    ∀ command ∈ surroundings.registry.toList, command.isBuiltin = true := by
  decide +kernel

theorem enter_ends {session : Session} (home : session.toSurroundings = surroundings)
    (line : String) : ∃ outcome, (SessionM.enter line).outcome session = some outcome := by
  apply VirtualTerminal.enter_ends
  intro command member
  rw [home] at member
  exact Command.entersLines_eq_false (isBuiltin_of_mem command member)

/-- What comes of a line leaves the console at home. -/
theorem home_of_outcome {α : Type} {step : SessionM α} {session : Session} {outcome : Outcome α}
    (home : session.toSurroundings = surroundings)
    (reached : step.outcome session = some outcome) :
    outcome.session.toSurroundings = surroundings := by
  rw [SessionM.outcome_toSurroundings reached, home]

/-- Where a call of the host leads to, if it leads anywhere. -/
def target? : HostCall → Option String
  | .exit => none
  | .redirect path => some path

/-- A line for each redirection. -/
def redirections (journal : List Event) : List String :=
  ((hostCalls journal).filterMap target?).map ("redirect -> " ++ ·)

@[simp]
theorem redirections_append (first second : List Event) :
    redirections (first ++ second) = redirections first ++ redirections second := by
  simp [redirections]

/-- All that is printed while something happens are the lines of the redirections. -/
theorem printCalls_eq_appendLines (journal : List Event) :
    printCalls journal = appendLines "" (redirections journal) := by
  unfold printCalls redirections
  induction hostCalls journal with
  | nil => rfl
  | cons call calls inductionHypothesis =>
      rw [List.map_cons, String.join_cons, inductionHypothesis]
      cases call with
      | exit => exact String.empty_append
      | redirect path =>
          show _ = appendLines ("" ++ ("redirect -> " ++ path) ++ "\n") _
          rw [appendLines_eq_append ("" ++ ("redirect -> " ++ path) ++ "\n"), String.empty_append]
          rfl

end VirtualTerminal.Console
