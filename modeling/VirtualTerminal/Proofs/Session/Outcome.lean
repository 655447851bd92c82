import VirtualTerminal.Session.Line

/-!
# What lines and nested scripts come to

The outcome of entering a line in terms of the command that the line calls, that of playing a nested
script in terms of its lines, and that of changing the directory.
-/

namespace VirtualTerminal

/-- The command that a line calls, with its arguments; none for a line that is blank, cannot be read
or starts with an unknown keyword. -/
def Registry.called? (registry : Registry) (line : String) : Option (Command × List String) :=
  match Line.tokens line with
  | .ok (keyword :: arguments) => (registry.get? keyword).map (·, arguments)
  | _ => none

theorem Registry.exists_keyword_of_called? {registry : Registry} {line : String}
    {command : Command} {arguments : List String}
    (called : registry.called? line = some (command, arguments)) :
    ∃ keyword, Line.tokens line = .ok (keyword :: arguments) ∧
      registry.get? keyword = some command := by
  unfold Registry.called? at called
  split at called
  next keyword rest tokens =>
    obtain ⟨found, registered, same⟩ := Option.map_eq_some_iff.mp called
    obtain ⟨rfl, rfl⟩ := Prod.mk.inj same
    exact ⟨keyword, tokens, registered⟩
  next => cases called

/-- What comes of a line that calls no command: its reply and what is said of it. -/
inductive Uncalled (registry : Registry) (line : String) : Reply → List Event → Prop
  | unread {error : Error} (unread : Line.tokens line = .error error) :
      Uncalled registry line (.error error) []
  | blank (blank : Line.tokens line = .ok []) :
      Uncalled registry line .nothing []
  | unknown {keyword : String} {arguments : List String}
      (tokens : Line.tokens line = .ok (keyword :: arguments))
      (unknown : registry.get? keyword = none) :
      Uncalled registry line .nothing
        [.commandNotFound keyword, .linesLogged [(Error.commandNotFound keyword).message]]

/-- A line is shown behind the prompt. -/
def Session.opening (session : Session) (line : String) : List Event :=
  [.lineEntered line, .linesLogged [session.prompt ++ line]]

/-- The reason of a failure is shown. -/
def failure : Reply → List Event
  | .ok _ => []
  | .error error => [.commandFailed error, .linesLogged [error.message]]

/-- A line is left behind with its reply. -/
def closing (line : String) (reply : Reply) : List Event :=
  failure reply ++ [.lineLeft line reply]

/-- A command is counted and handed its arguments. -/
def calling (line : String) (command : Command) (arguments : List String) : List Event :=
  [.commandCounted, .commandDispatched command.keyword arguments.length line]

/-- The limit that a line reaches if its session has spent all its commands. -/
def Session.spent (session : Session) : Error :=
  .limit (.commands session.limits.commands)

/-- All that a line does if its session has spent all its commands. -/
def Session.refusal (session : Session) (line : String) : List Event :=
  session.opening line ++
    [.commandCounted, .limitReached (.commands session.limits.commands)] ++
    closing line (.error session.spent)

namespace SessionM

variable {enter : String → SessionM Reply} {session : Session} {line script : String}
  {command : Command} {arguments : List String}

/-- No step changes what a session is built with. -/
theorem outcome_toSurroundings {α : Type} {step : SessionM α} {outcome : Outcome α}
    (reached : step.outcome session = some outcome) :
    outcome.session.toSurroundings = session.toSurroundings := by
  rw [outcome_session reached, Session.replay_toSurroundings]

theorem bind_outcome_eq_some_iff {α β : Type} {step : SessionM α} {next : α → SessionM β}
    {outcome : Outcome β} :
    (step >>= next).outcome session = some outcome ↔
      ∃ before after, step.outcome session = some before ∧
        (next before.value).outcome before.session = some after ∧
        outcome = after.after before.journal := by
  rw [bind_outcome, Option.bind_eq_some_iff]
  constructor
  · rintro ⟨before, reached, rest⟩
    obtain ⟨after, further, rfl⟩ := Option.map_eq_some_iff.mp rest
    exact ⟨before, after, reached, further, rfl⟩
  · rintro ⟨before, after, reached, further, rfl⟩
    exact ⟨before, reached, Option.map_eq_some_iff.mpr ⟨after, further, rfl⟩⟩

theorem changeDirectory_outcome_of_found {path : String} {id : DirId}
    (found : session.findDirectory path = .ok id) :
    (changeDirectory path).outcome session = some {
      value := .ok ()
      session := session.setDirectory id
      journal := [.directoryChanged id (withoutMarks (session.setDirectory id).prompt)] } := by
  rw [changeDirectory, read_bind, found]
  rfl

theorem changeDirectory_outcome_of_missing {path : String} {error : Error}
    (missing : session.findDirectory path = .error error) :
    (changeDirectory path).outcome session = some {
      value := .error error
      session := session } := by
  rw [changeDirectory, read_bind, missing]
  rfl

theorem runChangeDirectory_outcome_of_found {path : String} {id : DirId} (filled : path ≠ "")
    (found : session.findDirectory path = .ok id) :
    (runChangeDirectory [path]).outcome session = some {
      value := .nothing
      session := session.setDirectory id
      journal := [.directoryChanged id (withoutMarks (session.setDirectory id).prompt)] } := by
  simp only [runChangeDirectory, if_neg filled]
  rw [bind_outcome_of_reached (changeDirectory_outcome_of_found found)]
  rfl

theorem openLine_outcome (session : Session) (line : String) :
    (openLine line).outcome session = some {
      value := ()
      session := session.replay (session.opening line)
      journal := session.opening line } := rfl

theorem closeLine_outcome (session : Session) (line : String) (reply : Reply) :
    (closeLine line reply).outcome session = some {
      value := ()
      session := session.replay (closing line reply)
      journal := closing line reply } := by
  cases reply <;> rfl

theorem enterStep_outcome (enter : String → SessionM Reply) (session : Session) (line : String) :
    (enterStep enter line).outcome session =
      ((interpret enter line).outcome (session.replay (session.opening line))).map fun read => {
        value := read.value
        session := read.session.replay (closing line read.value)
        journal := session.opening line ++ (read.journal ++ closing line read.value) } := by
  rw [enterStep, bind_outcome, openLine_outcome, Option.bind_some, bind_outcome]
  cases (interpret enter line).outcome (session.replay (session.opening line)) with
  | none => rfl
  | some read =>
      rw [Option.bind_some, bind_outcome, closeLine_outcome]
      simp [pure_outcome, Outcome.after]

/-- A line outside nested scripts does not see how many commands were counted before it. -/
theorem enterStep_outcome_atLine (enter : String → SessionM Reply) (session : Session)
    (line : String) :
    (enterStep enter line).outcome { session with meter := session.meter.atLine } =
      (enterStep enter line).outcome session := by
  have opened : ({ session with meter := session.meter.atLine } : Session).replay
      (session.opening line) = session.replay (session.opening line) := by
    simp [Session.opening, Session.apply]
  rw [enterStep_outcome, enterStep_outcome, ← opened]
  rfl

theorem interpret_outcome_of_called (session : Session)
    (called : session.registry.called? line = some (command, arguments)) :
    (interpret enter line).outcome session =
      (dispatch enter line command arguments).outcome session := by
  obtain ⟨keyword, tokens, registered⟩ := Registry.exists_keyword_of_called? called
  simp only [interpret, tokens, read_bind, registered]

theorem interpret_outcome_of_not_called (enter : String → SessionM Reply) (session : Session)
    (uncalled : session.registry.called? line = none) :
    ∃ reply remarks, (interpret enter line).outcome session = some {
        value := reply
        session := session.replay remarks
        journal := remarks } ∧
      Uncalled session.registry line reply remarks := by
  unfold Registry.called? at uncalled
  unfold interpret
  cases read : Line.tokens line with
  | error error => exact ⟨_, _, rfl, .unread read⟩
  | ok tokens =>
      cases tokens with
      | nil => exact ⟨_, _, rfl, .blank read⟩
      | cons keyword arguments =>
          rw [read] at uncalled
          have unknown := Option.map_eq_none_iff.mp uncalled
          refine ⟨_, _, ?_, .unknown read unknown⟩
          simp only [read_bind, unknown]
          rfl

theorem dispatch_outcome_of_spent (session : Session)
    (spent : session.limits.commands ≤ session.meter.commands) :
    (dispatch enter line command arguments).outcome session = some {
      value := .error (.limit (.commands session.limits.commands))
      session := session.apply .commandCounted
      journal := [.commandCounted, .limitReached (.commands session.limits.commands)] } := by
  have exceeded : (session.apply .commandCounted).meter.commandError? session.limits =
      some (.commands session.limits.commands) :=
    if_pos (Nat.lt_succ_of_le spent)
  rw [dispatch, note_bind, read_bind]
  simp only [Session.apply_toSurroundings, exceeded]
  rfl

theorem dispatch_outcome_of_left (session : Session)
    (left : session.meter.commands < session.limits.commands) :
    (dispatch enter line command arguments).outcome session =
      ((handle enter command arguments).outcome (session.apply .commandCounted)).map
        (.after (calling line command arguments)) := by
  have within : (session.apply .commandCounted).meter.commandError? session.limits = none :=
    if_neg (Nat.not_lt_of_le left)
  rw [dispatch, note_bind, read_bind]
  simp only [Session.apply_toSurroundings, within, note_bind, Option.map_map]
  rfl

/-- A line whose command is allowed comes to what its command comes to. -/
theorem enterStep_outcome_of_handled {handling : Outcome Reply}
    (called : session.registry.called? line = some (command, arguments))
    (left : session.meter.atLine.commands < session.limits.commands)
    (handled : (handle enter command arguments).outcome
      (session.replay (session.opening line ++ calling line command arguments)) = some handling) :
    (enterStep enter line).outcome session = some {
      value := handling.value
      session := handling.session.replay (closing line handling.value)
      journal := session.opening line ++ calling line command arguments ++
        (handling.journal ++ closing line handling.value) } := by
  have counted : (session.replay (session.opening line)).apply .commandCounted =
      session.replay (session.opening line ++ calling line command arguments) := rfl
  rw [enterStep_outcome, interpret_outcome_of_called (session.replay (session.opening line)) called,
    dispatch_outcome_of_left (session.replay (session.opening line)) left, counted, handled]
  simp [Outcome.after]

/-- What comes of a line: its reply and its journal. -/
inductive Entered (enter : String → SessionM Reply) (session : Session) (line : String) :
    Reply → List Event → Prop
  | uncalled {reply : Reply} {remarks : List Event}
      (uncalled : session.registry.called? line = none)
      (remarked : Uncalled session.registry line reply remarks) :
      Entered enter session line reply
        (session.opening line ++ (remarks ++ closing line reply))
  | refused {command : Command} {arguments : List String}
      (called : session.registry.called? line = some (command, arguments))
      (spent : session.limits.commands ≤ session.meter.atLine.commands) :
      Entered enter session line (.error session.spent) (session.refusal line)
  | handled {command : Command} {arguments : List String} {handling : Outcome Reply}
      (called : session.registry.called? line = some (command, arguments))
      (left : session.meter.atLine.commands < session.limits.commands)
      (handled : (handle enter command arguments).outcome
        (session.replay (session.opening line ++ calling line command arguments)) = some handling) :
      Entered enter session line handling.value
        (session.opening line ++ calling line command arguments ++
          (handling.journal ++ closing line handling.value))

theorem entered_of_outcome {outcome : Outcome Reply}
    (reached : (enterStep enter line).outcome session = some outcome) :
    Entered enter session line outcome.value outcome.journal := by
  rw [enterStep_outcome] at reached
  obtain ⟨reading, read, rfl⟩ := Option.map_eq_some_iff.mp reached
  cases called : session.registry.called? line with
  | none =>
      obtain ⟨reply, remarks, same, remarked⟩ :=
        interpret_outcome_of_not_called enter (session.replay (session.opening line)) called
      rw [same] at read
      cases read
      exact .uncalled called remarked
  | some call =>
      rw [interpret_outcome_of_called (session.replay (session.opening line)) called]
        at read
      rcases Nat.lt_or_ge session.meter.atLine.commands session.limits.commands with left | spent
      · rw [dispatch_outcome_of_left (session.replay (session.opening line)) left] at read
        obtain ⟨handling, handled, rfl⟩ := Option.map_eq_some_iff.mp read
        have entered := Entered.handled called left handled
        simpa [Outcome.after] using entered
      · rw [dispatch_outcome_of_spent (session.replay (session.opening line)) spent]
          at read
        cases read
        exact .refused called spent

/-- Whatever comes of a line, it is shown behind the prompt first. -/
theorem Entered.exists_journal_eq {reply : Reply} {journal : List Event}
    (entered : Entered enter session line reply journal) :
    ∃ rest, journal = session.opening line ++ rest := by
  cases entered with
  | uncalled => exact ⟨_, rfl⟩
  | refused => exact ⟨_, List.append_assoc ..⟩
  | handled => exact ⟨_, List.append_assoc ..⟩

/-- Plays lines behind others that a report was made of. -/
def playFrom (enter : String → SessionM Reply) (report : Report) (lines : List String) :
    SessionM Report :=
  fold (fun report line => do return report.add (← enter line)) report lines

theorem playFrom_cons_outcome (enter : String → SessionM Reply) (report : Report) (line : String)
    (lines : List String) (session : Session) :
    (playFrom enter report (line :: lines)).outcome session =
      ((enter line).outcome session).bind fun entered =>
        ((playFrom enter (report.add entered.value) lines).outcome entered.session).map
          (.after entered.journal) := by
  rw [playFrom, fold_cons, bind_outcome, bind_pure_outcome, Option.bind_map]
  rfl

/-- What comes of a script, by what comes of its lines. -/
def scriptOutcome (depth : Nat) (played : Outcome Report) : Outcome Report :=
  { played with
    journal := .scriptStarted depth :: (played.journal ++ [.scriptFinished played.value]) }

theorem playScript_outcome (enter : String → SessionM Reply) (script : String) (session : Session) :
    (playScript enter script).outcome session =
      ((playFrom enter {} (Text.lines script)).outcome session).map
        (scriptOutcome session.meter.depth) := by
  rw [playScript, read_bind, note_bind, bind_outcome]
  show (((playFrom enter {} (Text.lines script)).outcome session).bind _).map _ = _
  cases (playFrom enter {} (Text.lines script)).outcome session with
  | none => rfl
  | some played => rfl

theorem playNested_outcome_of_full (full : session.limits.depth ≤ session.meter.depth) :
    (playNested enter script).outcome session = some {
      value := .error (.limit (.depth session.limits.depth))
      session := session
      journal := [.limitReached (.depth session.limits.depth)] } := by
  have reached : session.meter.depthError? session.limits =
      some (.depth session.limits.depth) := if_pos full
  rw [playNested, read_bind, reached]
  rfl

theorem playNested_outcome_of_room (room : session.meter.depth < session.limits.depth) :
    (playNested enter script).outcome session =
      ((playScript enter script).outcome (session.apply .nestedScriptOpened)).map fun played => {
        value := .ok played.value
        session := played.session.apply .nestedScriptClosed
        journal := .nestedScriptOpened :: (played.journal ++ [.nestedScriptClosed]) } := by
  have free : session.meter.depthError? session.limits = none :=
    Meter.depthError?_eq_none_iff.mpr room
  rw [playNested, read_bind, free]
  simp only [note_bind]
  rw [bind_outcome]
  cases (playScript enter script).outcome (session.apply .nestedScriptOpened) with
  | none => rfl
  | some played => simp only [Option.bind_some, note_bind]; rfl

theorem enter_outcome (session : Session) (line : String) :
    (SessionM.enter line).outcome session =
      (enterWithin (session.nestingBound line) line).outcome session := by
  rw [SessionM.enter, read_bind]

theorem entered_of_enter {outcome : Outcome Reply}
    (reached : (SessionM.enter line).outcome session = some outcome) :
    ∃ nesting, Entered (enterWithin nesting) session line outcome.value outcome.journal := by
  obtain ⟨nesting, bound⟩ : ∃ nesting, session.nestingBound line = nesting + 1 := ⟨_, rfl⟩
  rw [enter_outcome, bound] at reached
  exact ⟨nesting, entered_of_outcome reached⟩

end SessionM

end VirtualTerminal
