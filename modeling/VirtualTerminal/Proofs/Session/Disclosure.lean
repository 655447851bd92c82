import VirtualTerminal.Proofs.Session.Failure

/-!
# What failing lines disclose

Where typed text is hidden, the trace of a line that fails shows the first token of the line and how
many tokens it has; and it shows the reason, which for a path that leads nowhere quotes what was
typed.  Nothing else of the line is in it.
-/

namespace VirtualTerminal

/-- The first token of a line and the number of its tokens; none if it cannot be read. -/
def Line.outline? (line : String) : Option (Option String × Nat) :=
  (tokens? line).map fun tokens => (tokens.head?, tokens.length)

namespace Error

/-- Errors of the same kind; where paths are at fault, for the same kind of fault. -/
def IsLike : Error → Error → Prop
  | .path reason, .path other => reason.ctorIdx = other.ctorIdx
  | error, other => error.ctorIdx = other.ctorIdx

/-- Whether the reason repeats a part of a path. -/
def QuotesPath : Error → Prop
  | .path reason => reason ≠ .rootHasNoParent
  | _ => False

/-- What a trace shows of a failure. -/
def record (error : Error) : Record where
  level := .debug
  message := "command failed"
  fields := [("error", .text error.message)]

end Error

namespace Registry

variable {registry : Registry} {line other : String} {command otherCommand : Command}
  {arguments otherArguments : List String}

theorem outline_of_called? (called : registry.called? line = some (command, arguments)) :
    ∃ keyword, Line.outline? line = some (some keyword, arguments.length + 1) ∧
      registry.get? keyword = some command := by
  unfold called? at called
  split at called
  next keyword rest tokens =>
    obtain ⟨found, registered, same⟩ := Option.map_eq_some_iff.mp called
    cases same
    exact ⟨keyword, by simp [Line.outline?, Line.tokens_eq_ok_iff.mp tokens], registered⟩
  next => cases called

/-- Lines of the same outline call the same command with as many arguments. -/
theorem called?_of_outline (outline : Line.outline? line = Line.outline? other)
    (called : registry.called? line = some (command, arguments))
    (otherCalled : registry.called? other = some (otherCommand, otherArguments)) :
    command = otherCommand ∧ arguments.length = otherArguments.length := by
  obtain ⟨keyword, first, registered⟩ := outline_of_called? called
  obtain ⟨otherKeyword, second, otherRegistered⟩ := outline_of_called? otherCalled
  rw [first, second] at outline
  obtain ⟨rfl, lengths⟩ : keyword = otherKeyword ∧ arguments.length = otherArguments.length := by
    simpa using outline
  exact ⟨Option.some.inj (registered.symm.trans otherRegistered), lengths⟩

end Registry

section

variable {error other : Error}

/-- A builtin that fails twice for like reasons leaves the same in the journal.  The reasons differ
only where they quote a path. -/
theorem Builtin.Refusal.of_isLike {limits : Limits} {builtin : Builtin}
    {journal otherJournal : List Event} (refusal : builtin.Refusal limits error journal)
    (otherRefusal : builtin.Refusal limits other otherJournal) (like : error.IsLike other) :
    journal = otherJournal ∧ (error = other ∨ error.QuotesPath) := by
  cases refusal with
  | usage usage =>
      cases otherRefusal with
      | usage otherUsage =>
          rw [usage] at otherUsage
          exact ⟨rfl, .inl (congrArg Error.usage (Option.some.inj otherUsage))⟩
      | _ => cases like
  | unset unset =>
      cases otherRefusal with
      | unset otherUnset =>
          rw [unset] at otherUnset
          exact ⟨rfl, .inl (congrArg Error.configuration (Option.some.inj otherUnset))⟩
      | _ => cases like
  | @lost reason lookup =>
      cases otherRefusal with
      | @lost otherReason _ =>
          refine ⟨rfl, ?_⟩
          by_cases quotes : reason = .rootHasNoParent
          · subst quotes
            cases otherReason with
            | rootHasNoParent => exact .inl rfl
            | _ => cases like
          · exact .inr quotes
      | _ => cases like
  | full =>
      cases otherRefusal with
      | full => exact ⟨rfl, .inl rfl⟩
      | _ => cases like

variable {session : Session}

/-- Of a line whose text is hidden a call shows the number of arguments only. -/
theorem trace_calling {redaction : Redaction} (hidden : redaction.showInput = false)
    (line otherLine : String) (command : Command) {arguments otherArguments : List String}
    (lengths : arguments.length = otherArguments.length) :
    trace redaction (calling line command arguments) =
      trace redaction (calling otherLine command otherArguments) := by
  simp [trace, calling, List.filterMap_cons, Event.record?, Redaction.apply, hidden, lengths]

/-- Between their echo and the reason, lines of the same outline that fail for like reasons show the
same. -/
theorem Failing.trace_of_isLike (hidden : session.redaction.showInput = false)
    {line otherLine : String} (outline : Line.outline? line = Line.outline? otherLine)
    {between otherBetween : List Event} (failing : Failing session line error between)
    (otherFailing : Failing session otherLine other otherBetween) (like : error.IsLike other) :
    trace session.redaction between = trace session.redaction otherBetween ∧
      (error = other ∨ error.QuotesPath) := by
  cases failing with
  | unread _ =>
      cases otherFailing with
      | unread _ => exact ⟨rfl, .inl rfl⟩
      | spent _ _ => cases like
      | refused _ _ _ refusal => cases refusal <;> cases like
  | spent _ spent =>
      cases otherFailing with
      | unread _ => cases like
      | spent _ _ => exact ⟨rfl, .inl rfl⟩
      | refused _ left _ _ => exact absurd left (Nat.not_lt_of_le spent)
  | refused called left shape refusal =>
      cases otherFailing with
      | unread _ => cases refusal <;> cases like
      | spent _ spent => exact absurd left (Nat.not_lt_of_le spent)
      | refused otherCalled _ otherShape otherRefusal =>
          obtain ⟨rfl, lengths⟩ := Registry.called?_of_outline outline called otherCalled
          rw [shape] at otherShape
          cases otherShape
          obtain ⟨rfl, reasons⟩ := refusal.of_isLike otherRefusal like
          rw [trace_append, trace_append, trace_calling hidden line otherLine _ lengths]
          exact ⟨rfl, reasons⟩

/-- The echo of a line leaves no record, and its failure one. -/
theorem trace_of_failing (redaction : Redaction) (session : Session) (line : String)
    (between : List Event) (error : Error) :
    trace redaction (session.opening line ++ between ++ closing line (.error error)) =
      trace redaction between ++ [error.record] := by
  rw [trace_append, trace_append]
  rfl

end

open SessionM

theorem trace_of_failed {session : Session}
    (builtins : ∀ command ∈ session.registry.toList, command.isBuiltin = true) {line : String}
    {outcome : Outcome Reply} {error : Error}
    (reached : (enter line).outcome session = some outcome)
    (failed : outcome.value = .error error) :
    ∃ between, Failing session line error between ∧
      trace session.redaction outcome.journal =
        trace session.redaction between ++ [error.record] := by
  obtain ⟨nesting, entered⟩ := entered_of_enter reached
  obtain ⟨between, failing, whole⟩ := failing_of_entered builtins entered failed
  rw [whole, failed, trace_of_failing]
  exact ⟨between, failing, rfl⟩

/-- Where typed text is hidden and all commands are builtins, lines of the same outline that fail
for like reasons leave the same trace up to the record of the reason, which comes last.  So the
traces differ just where the messages do, and they cannot differ unless a path is quoted. -/
theorem failing_lines_disclose_reason {session : Session}
    (builtins : ∀ command ∈ session.registry.toList, command.isBuiltin = true)
    (hidden : session.redaction.showInput = false) {line otherLine : String}
    (outline : Line.outline? line = Line.outline? otherLine) {outcome otherOutcome : Outcome Reply}
    {error other : Error} (reached : (enter line).outcome session = some outcome)
    (otherReached : (enter otherLine).outcome session = some otherOutcome)
    (failed : outcome.value = .error error) (otherFailed : otherOutcome.value = .error other)
    (like : error.IsLike other) :
    (∃ front, trace session.redaction outcome.journal = front ++ [error.record] ∧
      trace session.redaction otherOutcome.journal = front ++ [other.record]) ∧
    (trace session.redaction outcome.journal = trace session.redaction otherOutcome.journal ↔
      error.message = other.message) ∧
    (¬error.QuotesPath →
      trace session.redaction outcome.journal = trace session.redaction otherOutcome.journal) := by
  obtain ⟨between, failing, first⟩ := trace_of_failed builtins reached failed
  obtain ⟨otherBetween, otherFailing, second⟩ := trace_of_failed builtins otherReached otherFailed
  obtain ⟨front, reasons⟩ := failing.trace_of_isLike hidden outline otherFailing like
  rw [first, second, front]
  refine ⟨⟨_, rfl, rfl⟩, by simp [Error.record], ?_⟩
  intro plain
  rw [reasons.resolve_right plain]

/-- Two ways out of the root cannot be told apart. -/
theorem failing_lines_disclose_reason_above_root :
    let session := ({} : Config).session
    (∀ command ∈ session.registry.toList, command.isBuiltin = true) ∧
      session.redaction.showInput = false ∧
      Line.outline? "cd .." = Line.outline? "cd ./.." ∧
      ∃ outcome otherOutcome, (enter "cd ..").outcome session = some outcome ∧
        (enter "cd ./..").outcome session = some otherOutcome ∧
        outcome.value = .error (.path .rootHasNoParent) ∧
        otherOutcome.value = .error (.path .rootHasNoParent) ∧
        trace session.redaction outcome.journal =
          trace session.redaction otherOutcome.journal := by
  intro session
  have builtins : ∀ command ∈ session.registry.toList, command.isBuiltin = true := by
    decide +kernel
  have hidden : session.redaction.showInput = false := by decide +kernel
  have outline : Line.outline? "cd .." = Line.outline? "cd ./.." := by decide +kernel
  have fails : ∀ line ∈ ["cd ..", "cd ./.."], ((enter line).outcome session).any
      (·.value = .error (.path .rootHasNoParent)) = true := by decide +kernel
  obtain ⟨outcome, reached, failed⟩ :=
    (Option.any_eq_true _ _).mp (fails "cd .." (by simp))
  obtain ⟨otherOutcome, otherReached, otherFailed⟩ :=
    (Option.any_eq_true _ _).mp (fails "cd ./.." (by simp))
  have same := failing_lines_disclose_reason builtins hidden outline reached otherReached
    (of_decide_eq_true failed) (of_decide_eq_true otherFailed) rfl
  exact ⟨builtins, hidden, outline, outcome, otherOutcome, reached, otherReached,
    of_decide_eq_true failed, of_decide_eq_true otherFailed, same.2.2 fun quotes => quotes rfl⟩

/-- The name of a directory that is not there is in the trace although typed text is hidden. -/
theorem failing_lines_disclose_directory :
    let session := ({} : Config).session
    session.registry = Registry.builtins ∧ session.redaction.showInput = false ∧
      Line.outline? "cd attic" = Line.outline? "cd cellar" ∧
      ∃ outcome otherOutcome, (enter "cd attic").outcome session = some outcome ∧
        (enter "cd cellar").outcome session = some otherOutcome ∧
        outcome.value = .error (.path (.directoryNotFound "attic")) ∧
        otherOutcome.value = .error (.path (.directoryNotFound "cellar")) ∧
        Error.IsLike (.path (.directoryNotFound "attic")) (.path (.directoryNotFound "cellar")) ∧
        trace session.redaction outcome.journal ≠
          trace session.redaction otherOutcome.journal := by
  intro session
  have typed : ∀ name ∈ ["attic", "cellar"], ((enter ("cd " ++ name)).outcome session).any
      (fun outcome => outcome.value = .error (.path (.directoryNotFound name)) ∧
        (trace session.redaction outcome.journal).getLast? =
          some (Error.path (.directoryNotFound name)).record) = true := by decide +kernel
  obtain ⟨outcome, reached, shown⟩ := (Option.any_eq_true _ _).mp (typed "attic" (by simp))
  obtain ⟨failed, last⟩ := of_decide_eq_true shown
  obtain ⟨otherOutcome, otherReached, otherShown⟩ :=
    (Option.any_eq_true _ _).mp (typed "cellar" (by simp))
  obtain ⟨otherFailed, otherLast⟩ := of_decide_eq_true otherShown
  refine ⟨by decide +kernel, by decide +kernel, by decide +kernel, outcome, otherOutcome, reached,
    otherReached, failed, otherFailed, rfl, ?_⟩
  intro same
  rw [same, otherLast] at last
  exact absurd last (by decide +kernel)

end VirtualTerminal
