import VirtualTerminal.Session.Request

/-!
# Courses

A course judges what comes of a step in a session: its journal, or nothing if the step never ends.
It admits one thing after the other and whatever a command does by itself, without lines and scripts
of its own.  That commands follow a course is proved here once for all courses; what lines and
nested scripts add is left to each.
-/

namespace VirtualTerminal

/-- What commands, executables and handlers of the host do by themselves. -/
inductive Event.IsEffect (session : Session) : Event → Prop
  | linesLogged (lines : List String) : IsEffect session (.linesLogged lines)
  | logCleared : IsEffect session .logCleared
  | directoryChanged {path : String} {id : DirId} (found : session.findDirectory path = .ok id) :
      IsEffect session (.directoryChanged id (withoutMarks (session.setDirectory id).prompt))
  | executableRun (path : String) : IsEffect session (.executableRun path)
  | hostCalled (call : HostCall) : IsEffect session (.hostCalled call)

structure Course where
  /-- What may come of a step; none stands for a step that never ends. -/
  Holds : Session → Option (List Event) → Prop
  nothing : ∀ session, Holds session (some [])
  onward : ∀ {session journal next}, Holds session (some journal) →
    Holds (session.replay journal) next → Holds session (next.map (journal ++ ·))
  effect : ∀ {session event}, event.IsEffect session → Holds session (some [event])

namespace SessionM

variable {α β : Type}

/-- The journal of a step, if it ends. -/
def journal? (step : SessionM α) (session : Session) : Option (List Event) :=
  (step.outcome session).map Outcome.journal

theorem journal?_eq_some_iff {step : SessionM α} {session : Session} {journal : List Event} :
    step.journal? session = some journal ↔
      ∃ outcome, step.outcome session = some outcome ∧ outcome.journal = journal := by
  simp [journal?]

theorem journal?_of_outcome {step : SessionM α} {session : Session} {outcome : Outcome α}
    (reached : step.outcome session = some outcome) :
    step.journal? session = some outcome.journal :=
  journal?_eq_some_iff.mpr ⟨outcome, reached, rfl⟩

theorem journal?_bind (first : SessionM α) (next : α → SessionM β) (session : Session) :
    (first >>= next).journal? session =
      (first.outcome session).bind fun outcome =>
        ((next outcome.value).journal? outcome.session).map (outcome.journal ++ ·) := by
  rw [journal?, bind_outcome, Option.map_bind]
  congr 1
  funext outcome
  rw [Function.comp_apply, journal?, Option.map_map, Option.map_map]
  rfl

/-- Whatever the session, what comes of the step is as the course says. -/
def Follows (step : SessionM α) (course : Course) : Prop :=
  ∀ session, course.Holds session (step.journal? session)

end SessionM

namespace Course

open SessionM

variable {course : Course} {α β : Type}

/-- The course that asks something of the journal of every step that ends. -/
def ofJournals (admits : Session → List Event → Prop) (nothing : ∀ session, admits session [])
    (append : ∀ {session first second}, admits session first →
      admits (session.replay first) second → admits session (first ++ second))
    (effect : ∀ {session event}, event.IsEffect session → admits session [event]) : Course where
  Holds session next := ∀ journal ∈ next, admits session journal
  nothing session := by
    intro journal found
    cases found
    exact nothing session
  onward := by
    intro session journal next before after whole reached
    obtain ⟨later, found, rfl⟩ := Option.map_eq_some_iff.mp reached
    exact append (before journal rfl) (after later found)
  effect := by
    intro session event happens journal found
    cases found
    exact effect happens

section

variable {admits : Session → List Event → Prop} {nothing : ∀ session, admits session []}
  {append : ∀ {session first second}, admits session first →
    admits (session.replay first) second → admits session (first ++ second)}
  {effect : ∀ {session event}, event.IsEffect session → admits session [event]}
  {session inner : Session}

theorem ofJournals_none : (ofJournals admits nothing append effect).Holds session none := by
  intro journal found
  cases found

theorem ofJournals_some {journal : List Event} (admitted : admits session journal) :
    (ofJournals admits nothing append effect).Holds session (some journal) := by
  intro other found
  cases found
  exact admitted

theorem ofJournals_map {change : List Event → List Event} {next : Option (List Event)}
    (inside : (ofJournals admits nothing append effect).Holds inner next)
    (changed : ∀ journal, admits inner journal → admits session (change journal)) :
    (ofJournals admits nothing append effect).Holds session (next.map change) := by
  intro whole reached
  obtain ⟨journal, found, rfl⟩ := Option.map_eq_some_iff.mp reached
  exact changed journal (inside journal found)

theorem admits_of_outcome {step : SessionM α} {outcome : Outcome α}
    (follows : step.Follows (ofJournals admits nothing append effect))
    (reached : step.outcome session = some outcome) : admits session outcome.journal :=
  follows session outcome.journal (journal?_of_outcome reached)

end

theorem follows_pure (value : α) : (pure value : SessionM α).Follows course :=
  fun session => course.nothing session

/-- The second step starts where the first has come to. -/
theorem holds_bind {first : SessionM α} {next : α → SessionM β} {session : Session}
    (before : course.Holds session (first.journal? session))
    (after : ∀ outcome, first.outcome session = some outcome →
      course.Holds outcome.session ((next outcome.value).journal? outcome.session)) :
    course.Holds session ((first >>= next).journal? session) := by
  rw [journal?_bind]
  cases reached : first.outcome session with
  | none => simpa [journal?, reached] using before
  | some outcome =>
      have start : course.Holds session (some outcome.journal) := by
        simpa [journal?, reached] using before
      have further := after outcome reached
      rw [outcome_session reached] at further
      rw [Option.bind_some, outcome_session reached]
      exact course.onward start further

theorem follows_bind {first : SessionM α} {next : α → SessionM β}
    (before : first.Follows course) (after : ∀ value, (next value).Follows course) :
    (first >>= next).Follows course :=
  fun session => holds_bind (before session) fun outcome _ => after outcome.value outcome.session

theorem follows_read {view : Session → β} {next : β → SessionM α}
    (after : ∀ session, course.Holds session ((next (view session)).journal? session)) :
    (read view >>= next).Follows course :=
  after

theorem follows_note {event : Event} (happens : ∀ session, event.IsEffect session) :
    (note event).Follows course :=
  fun session => course.effect (happens session)

theorem follows_fold {step : β → α → SessionM β} {items : List α}
    (each : ∀ value, ∀ item ∈ items, (step value item).Follows course) (value : β) :
    (fold step value items).Follows course := by
  induction items generalizing value with
  | nil => exact follows_pure value
  | cons item items inductionHypothesis =>
      apply follows_bind (each value item (List.mem_cons_self ..))
      exact inductionHypothesis fun value other member =>
        each value other (List.mem_cons_of_mem _ member)

theorem follows_logAll (lines : List String) : (logAll lines).Follows course :=
  follows_note fun _ => .linesLogged lines

theorem follows_log (line : String) : (log line).Follows course :=
  follows_logAll [line]

theorem follows_clear : clear.Follows course :=
  follows_note fun _ => .logCleared

theorem follows_changeDirectory (path : String) :
    (SessionM.changeDirectory path).Follows course := by
  apply follows_read
  intro session
  cases found : session.findDirectory path with
  | error error => exact follows_pure _ session
  | ok id =>
      refine holds_bind ?_ fun outcome _ => follows_pure _ outcome.session
      exact course.effect (.directoryChanged found)

theorem follows_perform (arguments : List String) (effect : Effect) :
    (perform arguments effect).Follows course := by
  cases effect with
  | log text => exact follows_log text
  | logArguments separator => exact follows_log _
  | logDirectory => exact follows_read fun session => follows_log _ session
  | logState => exact follows_read fun session => follows_log _ session
  | clear => exact follows_clear
  | changeDirectory path =>
      exact follows_bind (follows_changeDirectory path) fun _ => follows_pure ()

theorem follows_performAll (arguments : List String) (effects : List Effect) :
    (performAll arguments effects).Follows course := by
  induction effects with
  | nil => exact follows_pure ()
  | cons effect effects inductionHypothesis =>
      exact follows_bind (follows_perform arguments effect) fun _ => inductionHypothesis

theorem follows_act (arguments : List String) (action : Action) :
    (act arguments action).Follows course := by
  cases action with
  | greet => exact follows_logAll _
  | effects effects => exact follows_performAll arguments effects

theorem follows_callHost (call : HostCall) (effects : List Effect) :
    (callHost call effects).Follows course := by
  apply follows_bind (follows_note fun _ => .hostCalled call)
  intro _
  cases call with
  | exit => exact follows_performAll [] effects
  | redirect path => exact follows_performAll [path] effects

section

variable {enter : String → SessionM Reply}

theorem follows_runExit : runExit.Follows course := by
  apply follows_read
  intro session
  cases session.host.exit with
  | none => exact follows_pure _ session
  | some effects =>
      exact follows_bind (follows_callHost .exit effects) (fun _ => follows_pure _) session

theorem follows_runRedirect (arguments : List String) : (runRedirect arguments).Follows course := by
  unfold runRedirect
  split
  next path =>
    apply follows_read
    intro session
    cases session.host.redirect with
    | none => exact follows_pure _ session
    | some effects =>
        exact follows_bind (follows_callHost (.redirect path) effects) (fun _ => follows_pure _)
          session
  next => exact follows_pure _

theorem follows_runChangeDirectory (arguments : List String) :
    (runChangeDirectory arguments).Follows course := by
  unfold runChangeDirectory
  split
  next path =>
    split
    next => exact follows_pure _
    next =>
      apply follows_bind (follows_changeDirectory path)
      intro result
      cases result <;> exact follows_pure _
  next => exact follows_pure _

theorem follows_runConcatenate (arguments : List String) :
    (runConcatenate arguments).Follows course := by
  unfold runConcatenate
  split
  next path =>
    apply follows_read
    exact fun session => follows_bind (follows_log _) (fun _ => follows_pure _) session
  next => exact follows_pure _

/-- Only the texts of files are played. -/
theorem follows_runFile
    (nested : ∀ session path script, session.findText path = .ok script →
      course.Holds session ((playNested enter script).journal? session))
    (arguments : List String) : (runFile enter arguments).Follows course := by
  unfold runFile
  split
  next => exact follows_pure _
  next path arguments =>
    apply follows_read
    intro session
    rcases found : session.findFile path with error | ⟨name, text | executable⟩
    · exact follows_pure _ session
    · have readable : session.findText path = .ok text := by
        rw [Session.findText, found]
      refine holds_bind (nested session path text readable) fun outcome _ => ?_
      cases outcome.value <;> exact follows_pure _ outcome.session
    · refine follows_bind (follows_note fun _ => .executableRun path) (fun _ => ?_) session
      exact follows_bind (follows_act arguments executable.action) fun _ => follows_pure _

theorem follows_runBuiltin (command : Command) (arguments : List String) (builtin : Builtin)
    (nested : builtin = .run → ∀ session path script, session.findText path = .ok script →
      course.Holds session ((playNested enter script).journal? session)) :
    (runBuiltin enter command arguments builtin).Follows course := by
  cases builtin with
  | changeDirectory => exact follows_runChangeDirectory arguments
  | help =>
      exact follows_read fun session =>
        follows_bind (follows_logAll _) (fun _ => follows_pure _) session
  | clear => exact follows_bind follows_clear fun _ => follows_pure _
  | printDirectory =>
      exact follows_read fun session =>
        follows_bind (follows_log _) (fun _ => follows_pure _) session
  | list =>
      exact follows_read fun session =>
        follows_bind (follows_logAll _) (fun _ => follows_pure _) session
  | exit => exact follows_runExit
  | redirect => exact follows_runRedirect arguments
  | run => exact follows_runFile (nested rfl) arguments
  | comment => exact follows_pure _
  | concatenate => exact follows_runConcatenate arguments

end

end Course

/-- Whether a directive enters lines at the depth at which it stands. -/
def Directive.entersLines : Directive → Bool
  | .line _ | .lineOfArguments | .script _ => true
  | _ => false

/-- Whether a command enters lines other than those of nested scripts. -/
def Command.entersLines (command : Command) : Bool :=
  match command.handler with
  | .builtin _ => false
  | .directives directives => directives.any Directive.entersLines

namespace Course

open SessionM

variable {course : Course} {enter : String → SessionM Reply}

theorem follows_nested (nested : ∀ script, (playNested enter script).Follows course)
    (script : String) : (follow.nested enter script).Follows course := by
  apply follows_bind (nested script)
  intro result
  cases result <;> exact follows_pure _

theorem follows_follow (nested : ∀ script, (playNested enter script).Follows course)
    (command : Command) (arguments : List String) (directive : Directive)
    (lines : directive.entersLines → ∀ line, (enter line).Follows course)
    (scripts : directive.entersLines → ∀ script, (playScript enter script).Follows course) :
    (follow enter command arguments directive).Follows course := by
  cases directive with
  | effect effect => exact follows_bind (follows_perform arguments effect) fun _ => follows_pure _
  | line text => exact follows_bind (lines rfl text) fun _ => follows_pure _
  | lineOfArguments => exact follows_bind (lines rfl _) fun _ => follows_pure _
  | nestedScript script => exact follows_nested nested script
  | nestedScriptOfArguments copies => exact follows_nested nested _
  | script script =>
      apply follows_bind (scripts rfl script)
      exact fun _ => follows_bind (follows_log _) fun _ => follows_pure _
  | logFile path =>
      apply follows_read
      intro session
      cases session.findText path with
      | error error => exact follows_pure _ session
      | ok text => exact follows_bind (follows_log text) (fun _ => follows_pure _) session
  | enterDirectory path =>
      apply follows_bind (follows_changeDirectory path)
      intro result
      cases result <;> exact follows_pure _
  | logCommand => exact follows_bind (follows_log _) fun _ => follows_pure _
  | answer message => exact follows_pure _
  | failUsage reason => exact follows_pure _
  | failConfiguration reason => exact follows_pure _

theorem follows_followAll (nested : ∀ script, (playNested enter script).Follows course)
    (command : Command) (arguments : List String) (directives : List Directive)
    (lines : directives.any Directive.entersLines → ∀ line, (enter line).Follows course)
    (scripts : directives.any Directive.entersLines →
      ∀ script, (playScript enter script).Follows course) :
    (followAll enter command arguments directives).Follows course := by
  induction directives with
  | nil => exact follows_pure _
  | cons directive directives inductionHypothesis =>
      apply follows_bind
      · exact follows_follow nested command arguments directive
          (fun enters => lines (by simp [enters])) (fun enters => scripts (by simp [enters]))
      · intro result
        cases result with
        | some reply => exact follows_pure reply
        | none =>
            exact inductionHypothesis (fun enters => lines (by simp [enters]))
              (fun enters => scripts (by simp [enters]))

/-- A command follows a course if the lines and scripts that it may enter do. -/
theorem follows_handle (nested : ∀ script, (playNested enter script).Follows course)
    (command : Command) (arguments : List String)
    (lines : command.entersLines → ∀ line, (enter line).Follows course)
    (scripts : command.entersLines → ∀ script, (playScript enter script).Follows course) :
    (handle enter command arguments).Follows course := by
  unfold handle
  unfold Command.entersLines at lines scripts
  cases shape : command.handler with
  | builtin builtin =>
      exact follows_runBuiltin command arguments builtin fun _ session _ script _ =>
        nested script session
  | directives directives =>
      rw [shape] at lines scripts
      exact follows_followAll nested command arguments directives lines scripts

end Course

end VirtualTerminal
