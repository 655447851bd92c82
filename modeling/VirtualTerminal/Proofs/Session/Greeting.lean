import VirtualTerminal.Proofs.Text.Numeral
import VirtualTerminal.Session.Config
import VirtualTerminal.Session.Line

/-!
# Greeting the world

What the executable of the default tree shows for its arguments, and that nothing but the log of the
session tells afterwards that it was run.
-/

namespace VirtualTerminal

/-- The lines greet the world so many times and count from one. -/
structure Greets (count : Nat) (lines : List String) : Prop where
  length : lines.length = count
  line : ∀ i, 1 ≤ i → i ≤ count → lines[i - 1]? = some (toString i ++ ": Hello, world!")

/-- The lines that belong to arguments: as many greetings as a numeral says that is not too large,
one greeting for no argument, and one line of complaint for anything else. -/
def IsAnswer : List String → List String → Prop
  | [], lines => Greets 1 lines
  | [argument], lines =>
      (∀ count, Greets count lines ↔
        Text.IsNumeral argument.toList count ∧ count ≤ 4294967295) ∧
      ((∀ count, Text.IsNumeral argument.toList count → 4294967295 < count) →
        lines = ["Expected a number, got \"" ++ argument ++ "\"."])
  | _, lines => lines = ["Maximum one argument."]

variable {count other : Nat} {argument : String}

theorem greets_greet (count : Nat) : Greets count (greetings.greet count) where
  length := by simp [greetings.greet]
  line := by
    intro i positive within
    have before : i - 1 < count := by omega
    simp [greetings.greet, before, Nat.sub_add_cancel positive]

theorem greets_greet_iff : Greets other (greetings.greet count) ↔ other = count := by
  constructor
  · intro greets
    exact greets.length.symm.trans (greets_greet count).length
  · rintro rfl
    exact greets_greet other

/-- The complaint about an argument is no greeting. -/
theorem not_greets_complaint (argument : String) :
    ¬Greets count ["Expected a number, got \"" ++ argument ++ "\"."] := by
  intro greets
  have one : 1 = count := greets.length
  have same := Option.some.inj (greets.line 1 (Nat.le_refl 1) (Nat.le_of_eq one))
  have number : toString 1 = "1" := rfl
  have first := congrArg (fun line : String => line.toList.head?) same
  simp [number] at first

theorem greetings_of_numeral (numeral : Text.IsNumeral argument.toList count)
    (allowed : count ≤ greetingLimit) : greetings [argument] = greetings.greet count := by
  have kept : (Text.signedDecimal? argument.toList).filter (· ≤ greetingLimit) = some count :=
    Option.filter_eq_some_iff.mpr
      ⟨Text.signedDecimal?_eq_some_iff.mpr numeral, decide_eq_true allowed⟩
  rw [greetings, kept]

theorem greetings_of_not_allowed
    (excessive : ∀ count, Text.IsNumeral argument.toList count → greetingLimit < count) :
    greetings [argument] = ["Expected a number, got \"" ++ argument ++ "\"."] := by
  have refused : (Text.signedDecimal? argument.toList).filter (· ≤ greetingLimit) = none := by
    rw [Option.filter_eq_none_iff]
    intro count read
    have large := excessive count (Text.signedDecimal?_eq_some_iff.mp read)
    simpa using large
  rw [greetings, refused]

theorem isAnswer_greetings (arguments : List String) : IsAnswer arguments (greetings arguments) := by
  match arguments with
  | [] => exact greets_greet 1
  | _ :: _ :: _ => rfl
  | [argument] =>
      refine ⟨fun count => ?_, greetings_of_not_allowed⟩
      by_cases said : ∃ count, Text.IsNumeral argument.toList count ∧ count ≤ greetingLimit
      · obtain ⟨number, numeral, allowed⟩ := said
        rw [greetings_of_numeral numeral allowed, greets_greet_iff]
        constructor
        · rintro rfl
          exact ⟨numeral, allowed⟩
        · exact fun other => other.1.unique numeral
      · have excessive : ∀ count, Text.IsNumeral argument.toList count → greetingLimit < count :=
          fun count numeral => Nat.lt_of_not_le fun allowed => said ⟨count, numeral, allowed⟩
        rw [greetings_of_not_allowed excessive]
        exact ⟨fun greets => absurd greets (not_greets_complaint argument),
          fun allowed => absurd ⟨count, allowed⟩ said⟩

open SessionM

/-- In every session and for all arguments, the executable of the default tree logs the lines that
belong to the arguments and changes nothing else; so does running the file with them wherever a path
leads to it. -/
theorem hello_world_logs_answer (session : Session) (arguments : List String) :
    ∃ executable lines, helloWorld.content = .executable executable ∧
      IsAnswer arguments lines ∧
      (act arguments executable.action).outcome session = some {
        value := ()
        session := { session with log := appendLines session.log lines }
        journal := [.linesLogged lines] } ∧
      ∀ enter path, session.findFile path = .ok helloWorld →
        (runFile enter (path :: arguments)).outcome session = some {
          value := .nothing
          session := { session with log := appendLines session.log lines }
          journal := [.executableRun path, .linesLogged lines] } := by
  refine ⟨_, greetings arguments, rfl, isAnswer_greetings arguments, rfl, ?_⟩
  intro enter path found
  rw [runFile, read_bind, found]
  rfl

/-- Zeros in front do not count, and the largest number that is allowed is the last one: one more is
no number. -/
theorem hello_world_logs_answer_bounds :
    let session := Config.session {}
    session.findFile "/hello_world.exe" = .ok helloWorld ∧
    (∃ lines,
      (runFile SessionM.enter ["/hello_world.exe", "+002"]).outcome session = some {
        value := .nothing
        session := { session with log := appendLines "" lines }
        journal := [.executableRun "/hello_world.exe", .linesLogged lines] } ∧
      Greets 2 lines) ∧
    ∃ lines,
      (runFile SessionM.enter ["/hello_world.exe", "4294967296"]).outcome session = some {
        value := .nothing
        session := { session with log := appendLines "" lines }
        journal := [.executableRun "/hello_world.exe", .linesLogged lines] } ∧
      lines = ["Expected a number, got \"4294967296\"."] := by
  intro session
  have found : session.findFile "/hello_world.exe" = .ok helloWorld := by decide +kernel
  refine ⟨found, ?_, ?_⟩
  · obtain ⟨_, lines, _, answer, -, runs⟩ := hello_world_logs_answer session ["+002"]
    refine ⟨lines, runs _ _ found, (answer.1 2).mpr ⟨?_, by decide⟩⟩
    exact Text.signedDecimal?_eq_some_iff.mp (by decide +kernel)
  · obtain ⟨_, lines, _, answer, -, runs⟩ := hello_world_logs_answer session ["4294967296"]
    refine ⟨lines, runs _ _ found, answer.2 fun count numeral => ?_⟩
    have read : Text.signedDecimal? "4294967296".toList = some 4294967296 := by decide +kernel
    rw [numeral.unique (Text.signedDecimal?_eq_some_iff.mp read)]
    decide

end VirtualTerminal
