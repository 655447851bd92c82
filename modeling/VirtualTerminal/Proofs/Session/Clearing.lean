import VirtualTerminal.Proofs.Session.Habit

/-!
# Who clears the log

Where neither the host nor a file does so, the log is only cleared by a line that calls the builtin
for it, and that line does nothing more.
-/

namespace VirtualTerminal

/-- An action clears the log. -/
def Action.clears : Action → Bool
  | .greet => false
  | .effects steps => steps.contains .clear

/-- A line calls the builtin that clears the log. -/
def Registry.clears (registry : Registry) (line : String) : Bool :=
  (registry.called? line).any fun call => call.1.handler = .builtin .clear

/-- All commands are builtins, and neither the host nor a file of the tree clears the log. -/
structure Surroundings.LeaveLog (surroundings : Surroundings) : Prop where
  builtins : ∀ command ∈ surroundings.registry.toList, command.isBuiltin = true
  exit : ∀ effects ∈ surroundings.host.exit, .clear ∉ effects
  redirect : ∀ effects ∈ surroundings.host.redirect, .clear ∉ effects
  executables : ∀ executable ∈ surroundings.tree.executables, executable.action.clears = false
  texts : ∀ text ∈ surroundings.tree.texts, ∀ line ∈ Text.lines text,
    surroundings.registry.clears line = false

/-- The habit of not clearing the log. -/
def Habit.leavingLog (surroundings : Surroundings) : Habit surroundings :=
  .avoiding surroundings .logCleared rfl

namespace Surroundings.LeaveLog

variable {surroundings : Surroundings}

theorem allowsBuiltin {builtin : Builtin} (other : builtin ≠ .clear) :
    (Habit.leavingLog surroundings).AllowsBuiltin builtin := by
  cases builtin with
  | clear => exact absurd rfl other
  | exit => exact nofun
  | redirect => exact fun _ => nofun
  | _ => trivial

theorem allowsEffect {effects : List Effect} (others : .clear ∉ effects) :
    ∀ effect ∈ effects, (Habit.leavingLog surroundings).AllowsEffect effect := by
  intro effect member
  cases effect with
  | clear => exact absurd member others
  | _ => trivial

theorem allowsLine {line : String} (other : surroundings.registry.clears line = false) :
    (Habit.leavingLog surroundings).AllowsLine line := by
  intro command arguments builtin called shape
  apply allowsBuiltin
  rintro rfl
  simp [Registry.clears, called, shape] at other

theorem suits (leave : surroundings.LeaveLog) : (Habit.leavingLog surroundings).Suits where
  builtins := leave.builtins
  exit effects handler := allowsEffect (leave.exit effects handler)
  redirect effects handler := allowsEffect (leave.redirect effects handler)
  executables := by
    intro executable among
    have leaves := leave.executables executable among
    cases shape : executable.action with
    | greet => trivial
    | effects effects =>
        apply allowsEffect
        simpa [shape, Action.clears] using leaves
  texts text among line member := allowsLine (leave.texts text among line member)

end Surroundings.LeaveLog

namespace SessionM

theorem logCleared_not_mem_closing (line : String) (reply : Reply) :
    .logCleared ∉ closing line reply := by
  cases reply <;> simp [closing, failure]

/-- What a line does that clears the log: it calls the builtin for that and is left at once. -/
def ClearsAtEnd (registry : Registry) (line : String) (journal : List Event) : Prop :=
  registry.clears line = true ∧
    ∃ front, journal = front ++ [.logCleared, .lineLeft line .nothing]

theorem clearsAtEnd_of_entered {nesting : Nat} {session : Session} {line : String} {reply : Reply}
    {journal : List Event} (leave : session.toSurroundings.LeaveLog)
    (entered : Entered (enterWithin nesting) session line reply journal)
    (cleared : .logCleared ∈ journal) : ClearsAtEnd session.registry line journal := by
  have closed := logCleared_not_mem_closing line reply
  cases entered with
  | uncalled _ remarked =>
      have quiet : .logCleared ∉ session.opening line := by simp [Session.opening]
      cases remarked <;> simp_all
  | refused _ _ => simp_all [Session.refusal, Session.opening]
  | @handled command arguments handling called left handled =>
      obtain ⟨which, shape, same⟩ :=
        handle_eq_runBuiltin (leave.builtins command (Registry.mem_toList_of_called? called))
      rw [same] at handled
      by_cases clears : which = .clear
      case pos =>
        subst clears
        cases handled
        refine ⟨by simp [Registry.clears, called, shape], ?_⟩
        exact ⟨session.opening line ++ calling line command arguments, rfl⟩
      case neg =>
        have quiet : (runBuiltin (enterWithin nesting) command arguments which).Avoids
            session.toSurroundings .logCleared :=
          Habit.runBuiltin leave.suits (fun _ => Habit.enterWithin leave.suits nesting) command
            arguments (Surroundings.LeaveLog.allowsBuiltin clears)
        have untouched := quiet _ handling (session.replay_toSurroundings _) handled
        simp_all [Session.opening, calling]

end SessionM

/-- Where neither the host nor a file clears the log, a line that does so calls the builtin for it
and does nothing more. -/
theorem clearsAtEnd_of_enter {session : Session} {line : String} {outcome : Outcome Reply}
    (leave : session.toSurroundings.LeaveLog)
    (reached : (SessionM.enter line).outcome session = some outcome)
    (cleared : .logCleared ∈ outcome.journal) :
    SessionM.ClearsAtEnd session.registry line outcome.journal := by
  obtain ⟨nesting, entered⟩ := SessionM.entered_of_enter reached
  exact SessionM.clearsAtEnd_of_entered leave entered cleared

end VirtualTerminal
