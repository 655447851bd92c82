import VirtualTerminal.Proofs.Session.Spread
import VirtualTerminal.Proofs.Session.Typing

/-!
# Brackets in the journal

Every script that starts comes to its finish, and scripts that start in between are finished before.
Where all commands are builtins a script is only started by the host or by running a text file, one
level deeper than the script whose line runs it.  The report at its finish agrees with what lies
between the two: with the lines that were entered there and with those that failed.
-/

namespace VirtualTerminal

/-- An event that is neither the start or finish of a script nor the start or failure of a line. -/
def Event.isPlain : Event → Bool
  | .scriptStarted _ | .scriptFinished _ | .lineEntered _ | .commandFailed _ => false
  | _ => true

/-- A journal in which scripts are bracketed: each that is started `depth` deep is finished, and what
is started in between is one level deeper.  The numbers and lines are those outside the scripts: how
many failures are told of there and which lines are entered.  The texts of the scripts are among
`texts`; a script enters the lines of its text, and its report counts one line more than the text has
line breaks, and the failures between its start and its finish outside other scripts. -/
inductive Bracketed (texts : List String) : (depth failures : Nat) → List String → List Event → Prop
  | nothing {depth : Nat} : Bracketed texts depth 0 [] []
  | plain {depth failures : Nat} {lines : List String} {event : Event} {rest : List Event}
      (plain : event.isPlain = true) (later : Bracketed texts depth failures lines rest) :
      Bracketed texts depth failures lines (event :: rest)
  | entered {depth failures : Nat} {lines : List String} {line : String} {rest : List Event}
      (later : Bracketed texts depth failures lines rest) :
      Bracketed texts depth failures (line :: lines) (.lineEntered line :: rest)
  | failed {depth failures : Nat} {lines : List String} {error : Error} {rest : List Event}
      (later : Bracketed texts depth failures lines rest) :
      Bracketed texts depth (failures + 1) lines (.commandFailed error :: rest)
  | script {depth inner failures : Nat} {lines : List String} {text : String}
      {body rest : List Event} (listed : text ∈ texts)
      (inside : Bracketed texts (depth + 1) inner (Text.lines text) body)
      (later : Bracketed texts depth failures lines rest) :
      Bracketed texts depth failures lines
        (.scriptStarted depth ::
          (body ++ .scriptFinished { lines := text.toList.count '\n' + 1, failures := inner } ::
            rest))

/-- What a script with a given text does that is started `depth` deep. -/
def Played (texts : List String) (depth : Nat) (text : String) (journal : List Event) : Prop :=
  ∃ failures body, Bracketed texts (depth + 1) failures (Text.lines text) body ∧
    journal = .scriptStarted depth ::
      (body ++ [.scriptFinished { lines := text.toList.count '\n' + 1, failures := failures }])

namespace Bracketed

variable {texts : List String} {depth failures more : Nat} {lines further : List String}
  {first second journal : List Event}

theorem append (before : Bracketed texts depth failures lines first)
    (after : Bracketed texts depth more further second) :
    Bracketed texts depth (failures + more) (lines ++ further) (first ++ second) := by
  induction before with
  | nothing => simpa using after
  | plain plain _ inductionHypothesis => exact .plain plain (inductionHypothesis after)
  | entered _ inductionHypothesis => exact .entered (inductionHypothesis after)
  | failed _ inductionHypothesis =>
      rw [Nat.add_right_comm]
      exact .failed (inductionHypothesis after)
  | script listed inside _ _ inductionHypothesis =>
      rw [List.cons_append, List.append_assoc, List.cons_append]
      exact .script listed inside (inductionHypothesis after)

theorem plain_append (plain : first.all Event.isPlain = true)
    (later : Bracketed texts depth failures lines second) :
    Bracketed texts depth failures lines (first ++ second) := by
  induction first with
  | nil => exact later
  | cons event first inductionHypothesis =>
      rw [List.all_cons, Bool.and_eq_true] at plain
      exact .plain plain.1 (inductionHypothesis plain.2)

theorem of_plain (plain : journal.all Event.isPlain = true) :
    Bracketed texts depth 0 [] journal := by
  rw [← journal.append_nil]
  exact plain_append plain .nothing

theorem of_played {text : String} (listed : text ∈ texts) (played : Played texts depth text journal) :
    Bracketed texts depth 0 [] journal := by
  obtain ⟨failures, body, inside, rfl⟩ := played
  exact .script listed inside .nothing

end Bracketed

/-- How many failures a reply tells of. -/
def Reply.failures : Reply → Nat
  | .ok _ => 0
  | .error _ => 1

theorem Report.add_eq (report : Report) (reply : Reply) :
    report.add reply =
      { lines := report.lines + 1, failures := report.failures + reply.failures } := by
  cases reply <;> rfl

variable {surroundings : Surroundings}

/-- What a journal tells is bracketed one level below its session, and the session is as deep at the
end as it was. -/
def Told (surroundings : Surroundings) (session : Session) (failures : Nat) (lines : List String)
    (journal : List Event) : Prop :=
  session.toSurroundings = surroundings →
    Bracketed surroundings.tree.texts (session.meter.depth + 1) failures lines journal ∧
      (session.replay journal).meter.depth = session.meter.depth

namespace Told

variable {session : Session} {failures more : Nat} {lines further : List String} {event : Event}
  {first second : List Event}

theorem nil : Told surroundings session 0 [] [] :=
  fun _ => ⟨.nothing, rfl⟩

theorem plain (plain : event.isPlain = true)
    (returns : (session.apply event).meter.depth = session.meter.depth) :
    Told surroundings session 0 [] [event] :=
  fun _ => ⟨.plain plain .nothing, returns⟩

theorem append (before : Told surroundings session failures lines first)
    (after : Told surroundings (session.replay first) more further second) :
    Told surroundings session (failures + more) (lines ++ further) (first ++ second) := by
  intro same
  obtain ⟨start, returns⟩ := before same
  obtain ⟨rest, returnsAgain⟩ := after ((session.replay_toSurroundings first).trans same)
  rw [returns] at rest returnsAgain
  exact ⟨start.append rest, by rw [Session.replay_append, returnsAgain]⟩

/-- A part that is bracketed and neither fails nor enters a line may stand in front of another. -/
theorem quiet_append (before : Told surroundings session 0 [] first)
    (after : Told surroundings (session.replay first) failures lines second) :
    Told surroundings session failures lines (first ++ second) := by
  have whole := before.append after
  rwa [Nat.zero_add, List.nil_append] at whole

theorem effect (happens : event.IsEffect session) : Told surroundings session 0 [] [event] := by
  cases happens <;> exact plain rfl rfl

theorem opening (line : String) :
    Told surroundings session 0 [line] (session.opening line) :=
  fun _ => ⟨.entered (.of_plain rfl), Meter.depth_atLine⟩

theorem calling (line : String) (command : Command) (arguments : List String) :
    Told surroundings session 0 [] (calling line command arguments) :=
  fun _ => ⟨.of_plain rfl, rfl⟩

theorem closing (line : String) (reply : Reply) :
    Told surroundings session reply.failures [] (closing line reply) := by
  intro _
  cases reply with
  | ok message => exact ⟨.of_plain rfl, rfl⟩
  | error error => exact ⟨.failed (.of_plain rfl), rfl⟩

end Told

/-- Journals that are bracketed, and outside scripts neither fail nor enter a line. -/
def Course.quiet (surroundings : Surroundings) : Course :=
  .ofJournals (fun session => Told surroundings session 0 []) (fun _ => .nil) .append .effect

/-- Journals that are bracketed. -/
def Course.told (surroundings : Surroundings) : Course :=
  .ofJournals (fun session journal => ∃ failures lines,
      Told surroundings session failures lines journal)
    (fun _ => ⟨0, [], .nil⟩)
    (fun ⟨_, _, before⟩ ⟨_, _, after⟩ => ⟨_, _, before.append after⟩)
    (fun happens => ⟨0, [], .effect happens⟩)

namespace SessionM

variable {enter : String → SessionM Reply} {session : Session}

/-- What each line does is bracketed, and outside scripts the line fails once if it does. -/
def TellsLines (enter : String → SessionM Reply) (surroundings : Surroundings) : Prop :=
  ∀ line session outcome, (enter line).outcome session = some outcome →
    Told surroundings session outcome.value.failures [line] outcome.journal

section

variable (tells : TellsLines enter surroundings)
include tells

theorem told_of_fold {lines : List String} {report : Report} {outcome : Outcome Report}
    (reached : (fold (fun report line => do return report.add (← enter line)) report lines).outcome
      session = some outcome) :
    ∃ failures, Told surroundings session failures lines outcome.journal ∧
      outcome.value =
        { lines := report.lines + lines.length, failures := report.failures + failures } := by
  induction lines generalizing report session outcome with
  | nil =>
      cases reached
      exact ⟨0, .nil, rfl⟩
  | cons line lines inductionHypothesis =>
      rw [fold_cons] at reached
      obtain ⟨added, rest, first, later, rfl⟩ := bind_outcome_eq_some_iff.mp reached
      rw [bind_pure_outcome] at first
      obtain ⟨entered, done, rfl⟩ := Option.map_eq_some_iff.mp first
      obtain ⟨failures, remaining, counted⟩ := inductionHypothesis later
      rw [outcome_session done] at remaining
      refine ⟨_, (tells line session entered done).append remaining, ?_⟩
      show rest.value = _
      rw [counted, Report.add_eq, List.length_cons, Nat.add_right_comm, Nat.add_assoc,
        Nat.add_assoc]

theorem played_of_playScript {script : String} {outcome : Outcome Report}
    (same : session.toSurroundings = surroundings)
    (reached : (playScript enter script).outcome session = some outcome) :
    Played surroundings.tree.texts session.meter.depth script outcome.journal ∧
      (session.replay outcome.journal).meter.depth = session.meter.depth := by
  rw [playScript, read_bind, note_bind] at reached
  obtain ⟨rest, playing, rfl⟩ := Option.map_eq_some_iff.mp reached
  obtain ⟨lines, finish, played, finished, rfl⟩ := bind_outcome_eq_some_iff.mp playing
  obtain ⟨failures, told, counted⟩ := told_of_fold tells played
  obtain ⟨body, returns⟩ := told same
  cases finished
  rw [Text.length_lines, Nat.zero_add, Nat.zero_add] at counted
  constructor
  · refine ⟨failures, lines.journal, body, ?_⟩
    rw [← counted]
    rfl
  · show (session.replay (.scriptStarted session.meter.depth ::
      (lines.journal ++ [.scriptFinished lines.value]))).meter.depth = session.meter.depth
    rw [Session.replay_cons, Session.replay_append]
    exact returns

theorem played_of_playNested {script : String} {outcome : Outcome (Except Error Report)}
    (same : session.toSurroundings = surroundings)
    (room : session.meter.depth < session.limits.depth)
    (reached : (playNested enter script).outcome session = some outcome) :
    ∃ played, Played surroundings.tree.texts (session.meter.depth + 1) script played ∧
      outcome.journal = .nestedScriptOpened :: (played ++ [.nestedScriptClosed]) ∧
      (session.replay outcome.journal).meter.depth = session.meter.depth := by
  rw [playNested_outcome_of_room room] at reached
  obtain ⟨played, playing, rfl⟩ := Option.map_eq_some_iff.mp reached
  have opened : (session.apply .nestedScriptOpened).toSurroundings = surroundings := same
  obtain ⟨play, returns⟩ := played_of_playScript tells opened playing
  refine ⟨played.journal, play, rfl, ?_⟩
  rw [Session.replay_cons, Session.replay_append]
  exact congrArg Nat.pred returns

theorem told_of_playNested {script : String} {outcome : Outcome (Except Error Report)}
    (listed : script ∈ session.tree.texts)
    (reached : (playNested enter script).outcome session = some outcome) :
    Told surroundings session 0 [] outcome.journal := by
  rintro rfl
  rcases Nat.lt_or_ge session.meter.depth session.limits.depth with room | full
  · obtain ⟨played, play, journal, returns⟩ := played_of_playNested tells rfl room reached
    refine ⟨?_, returns⟩
    rw [journal]
    exact .plain rfl ((Bracketed.of_played listed play).append (.of_plain rfl))
  · rw [playNested_outcome_of_full full] at reached
    cases reached
    exact Told.plain rfl rfl rfl

theorem follows_handle_quiet {command : Command} (builtin : command.isBuiltin = true)
    (arguments : List String) :
    (handle enter command arguments).Follows (.quiet surroundings) := by
  obtain ⟨which, -, same⟩ := handle_eq_runBuiltin builtin
  rw [same]
  apply Course.follows_runBuiltin
  intro _ session path script found journal played
  obtain ⟨outcome, reached, rfl⟩ := journal?_eq_some_iff.mp played
  exact told_of_playNested tells (Session.mem_texts_of_findText found) reached

theorem told_of_entered
    (builtins : ∀ command ∈ surroundings.registry.toList, command.isBuiltin = true) {line : String}
    {reply : Reply} {journal : List Event} (entered : Entered enter session line reply journal) :
    Told surroundings session reply.failures [line] journal := by
  rintro rfl
  cases entered with
  | @uncalled reply remarks _ remarked =>
      have quiet : Told session.toSurroundings (session.replay (session.opening line)) 0 []
          remarks := by
        cases remarked <;> exact fun _ => ⟨.of_plain rfl, rfl⟩
      have whole := (Told.opening line).append (quiet.quiet_append (.closing line reply))
      rw [Nat.zero_add] at whole
      exact whole rfl
  | refused called spent =>
      have quiet : Told session.toSurroundings (session.replay (session.opening line)) 0 []
          [.commandCounted, .limitReached (.commands session.limits.commands)] :=
        fun _ => ⟨.of_plain rfl, rfl⟩
      have whole := (Told.opening line).append
        (quiet.quiet_append (.closing line (.error session.spent)))
      exact whole rfl
  | @handled command arguments handling called left handled =>
      have builtin := builtins command (Registry.mem_toList_of_called? called)
      have quiet : Told session.toSurroundings _ 0 [] handling.journal :=
        follows_handle_quiet tells builtin arguments _ _ (journal?_of_outcome handled)
      rw [Session.replay_append] at quiet
      have whole := (Told.opening line).append ((Told.calling line command arguments).quiet_append
        (quiet.quiet_append (.closing line handling.value)))
      rw [Nat.zero_add, ← List.append_assoc] at whole
      exact whole rfl

end

theorem tellsLines_enterWithin
    (builtins : ∀ command ∈ surroundings.registry.toList, command.isBuiltin = true)
    (nesting : Nat) : TellsLines (enterWithin nesting) surroundings := by
  induction nesting with
  | zero => rintro line session outcome ⟨⟩
  | succ nesting inductionHypothesis =>
      intro line session outcome reached
      exact told_of_entered inductionHypothesis builtins (entered_of_outcome reached)

theorem tellsLines_enter
    (builtins : ∀ command ∈ surroundings.registry.toList, command.isBuiltin = true) :
    TellsLines SessionM.enter surroundings := by
  intro line session outcome reached
  rw [enter_outcome] at reached
  exact tellsLines_enterWithin builtins _ line session outcome reached

end SessionM

/-- What a trace shows of the start of a script. -/
def Record.started (depth : Nat) : Record where
  level := .info
  message := "script started"
  fields := [("depth", .number depth)]

/-- What a trace shows of the finish of a script. -/
def Record.finished (report : Report) : Record where
  level := .info
  message := "script finished"
  fields := [("lines", .number report.lines), ("failures", .number report.failures)]

namespace Event

variable {redaction : Redaction} {event : Event}

theorem record?_eq_started_iff {depth : Nat} :
    event.record? redaction = some (.started depth) ↔ event = .scriptStarted depth := by
  cases event <;> simp [record?, Record.started]

theorem record?_eq_finished_iff {report : Report} :
    event.record? redaction = some (.finished report) ↔ event = .scriptFinished report := by
  cases event with
  | scriptFinished other =>
      cases other
      cases report
      simp [record?, Record.finished]
  | _ => simp [record?, Record.finished]

theorem record?_failed_iff :
    (∃ record, event.record? redaction = some record ∧ record.message = "command failed") ↔
      ∃ error, event = .commandFailed error := by
  cases event <;> simp [record?]

end Event

/-- How a request brackets scripts that is made outside of any.  A script that is played as it is
starts at depth 0, one that counts as nested at depth 1, and no request starts others but texts of
the tree at depth 1. -/
def Request.Brackets (session : Session) (journal : List Event) : Request → Prop
  | .script text => Played session.tree.texts 0 text journal
  | .nestedScript text =>
      if session.limits.depth = 0 then journal = [.limitReached (.depth 0)]
      else ∃ played, Played session.tree.texts 1 text played ∧
        journal = .nestedScriptOpened :: (played ++ [.nestedScriptClosed])
  | _ => ∃ failures lines, Bracketed session.tree.texts 1 failures lines journal

open SessionM

theorem bracketed_of_follows {α : Type} {session : Session} (idle : session.meter.depth = 0)
    {step : SessionM α} (follows : step.Follows (.told session.toSurroundings))
    {outcome : Outcome α} (reached : step.outcome session = some outcome) :
    ∃ failures lines, Bracketed session.tree.texts 1 failures lines outcome.journal := by
  obtain ⟨failures, lines, told⟩ := follows session _ (journal?_of_outcome reached)
  have bracketed := (told rfl).1
  rw [idle] at bracketed
  exact ⟨failures, lines, bracketed⟩

theorem brackets_of_request {session : Session} (idle : session.meter.depth = 0)
    (builtins : ∀ command ∈ session.registry.toList, command.isBuiltin = true) {request : Request}
    {outcome : Outcome Answer} (reached : request.perform.outcome session = some outcome) :
    request.Brackets session outcome.journal := by
  have tells := tellsLines_enter builtins
  have lines : ∀ line, (enter line).Follows (.told session.toSurroundings) := by
    intro line session journal entered
    obtain ⟨outcome, reached, rfl⟩ := journal?_eq_some_iff.mp entered
    exact ⟨_, _, tells line session outcome reached⟩
  have typing : ∀ {now event}, event.IsKeystroke now →
      (Course.told session.toSurroundings).Holds now (some [event]) := by
    rintro now event happens journal ⟨⟩
    cases happens <;> exact ⟨0, [], .plain rfl rfl⟩
  cases request with
  | line text =>
      exact bracketed_of_follows idle
        (Course.follows_bind (lines text) fun _ => Course.follows_pure _) reached
  | script text =>
      rw [Request.perform, map_eq_pure_bind, bind_pure_outcome] at reached
      obtain ⟨played, playing, rfl⟩ := Option.map_eq_some_iff.mp reached
      have play := (played_of_playScript tells rfl playing).1
      rwa [idle] at play
  | nestedScript text =>
      rw [Request.perform, map_eq_pure_bind, bind_pure_outcome] at reached
      obtain ⟨played, playing, rfl⟩ := Option.map_eq_some_iff.mp reached
      rw [Request.Brackets]
      split
      next none =>
        rw [playNested_outcome_of_full (by omega)] at playing
        cases playing
        rw [none]
      next some =>
        obtain ⟨inside, play, journal, -⟩ := played_of_playNested tells rfl (by omega) playing
        rw [idle] at play
        exact ⟨inside, play, journal⟩
  | key key =>
      have pressed := Course.follows_press lines typing key
      exact bracketed_of_follows idle (Course.follows_bind pressed fun _ =>
        Course.follows_read fun session => Course.follows_pure _ session) reached
  | submit text =>
      have submitted := Course.follows_submit lines typing text
      exact bracketed_of_follows idle
        (Course.follows_bind submitted fun _ => Course.follows_pure _) reached
  | changeDirectory path =>
      exact bracketed_of_follows idle (Course.follows_bind (Course.follows_changeDirectory path)
        fun _ => Course.follows_pure _) reached
  | call keyword arguments =>
      rw [Request.perform, read_bind] at reached
      cases registered : session.registry.get? keyword with
      | none =>
          rw [registered] at reached
          cases reached
          exact ⟨0, [], .nothing⟩
      | some command =>
          rw [registered] at reached
          have builtin := builtins command (Registry.mem_toList_of_get? registered)
          have quiet := follows_handle_quiet tells builtin arguments
          have told : (handle enter command arguments).Follows (.told session.toSurroundings) :=
            fun session journal found => ⟨0, [], quiet session journal found⟩
          exact bracketed_of_follows idle
            (Course.follows_bind told fun _ => Course.follows_pure _) reached
  | log text =>
      exact bracketed_of_follows idle
        (Course.follows_bind (Course.follows_log text) fun _ => Course.follows_pure _) reached
  | clear =>
      exact bracketed_of_follows idle
        (Course.follows_bind Course.follows_clear fun _ => Course.follows_pure _) reached

/-- Where all commands are builtins, whatever is asked of a session outside scripts ends, and its
journal is bracketed: each script that is started is finished, one that is started inside another
carries a depth one greater, and the outermost ones carry 0 where the host plays a script as it is
and 1 otherwise.  The report of a script counts one line more than its text has line breaks, and as
many failures as there are between its start and its finish outside the scripts inside it.  A trace
shows the start and the finish of every script and every failure, each by a record of its own. -/
theorem scripts_are_bracketed {session : Session} (idle : session.meter.depth = 0)
    (builtins : ∀ command ∈ session.registry.toList, command.isBuiltin = true)
    (request : Request) :
    (∃ outcome, request.perform.outcome session = some outcome ∧
      request.Brackets session outcome.journal) ∧
    ∀ event : Event,
      (∀ depth, event.record? session.redaction = some (.started depth) ↔
        event = .scriptStarted depth) ∧
      (∀ report, event.record? session.redaction = some (.finished report) ↔
        event = .scriptFinished report) ∧
      ((∃ record, event.record? session.redaction = some record ∧
          record.message = "command failed") ↔
        ∃ error, event = .commandFailed error) := by
  have nests : ∀ command ∈ session.registry.toList, command.entersLines = false :=
    fun command member => Command.entersLines_eq_false (builtins command member)
  obtain ⟨outcome, reached⟩ := perform_ends nests request
  refine ⟨⟨outcome, reached, brackets_of_request idle builtins reached⟩, fun event => ?_⟩
  exact ⟨fun _ => Event.record?_eq_started_iff, fun _ => Event.record?_eq_finished_iff,
    Event.record?_failed_iff⟩

/-- A layout with a script whose second line runs another one. -/
def outerLayout : Layout where
  entries :=
    .file { name := "outer", content := .text "cd nowhere\nrun inner\ncd" } <|
    .file { name := "inner", content := .text "pwd\ncd nowhere" } .nil

def outerSession : Session :=
  Config.session { layout := outerLayout }

/-- Three lines failed, one of them inside the inner script. -/
theorem scripts_are_bracketed_twice :
    outerSession.meter.depth = 0 ∧
    (∀ command ∈ outerSession.registry.toList, command.isBuiltin = true) ∧
    ∃ outcome, (Request.line "run outer").perform.outcome outerSession = some outcome ∧
      outcome.journal.filter (fun event => event matches .scriptStarted _ | .scriptFinished _) =
        [.scriptStarted 1, .scriptStarted 2, .scriptFinished { lines := 2, failures := 1 },
          .scriptFinished { lines := 3, failures := 2 }] ∧
      ∃ failures lines, Bracketed ["cd nowhere\nrun inner\ncd", "pwd\ncd nowhere"] 1 failures lines
        outcome.journal := by
  have builtins : ∀ command ∈ outerSession.registry.toList, command.isBuiltin = true := by
    decide +kernel
  obtain ⟨⟨outcome, reached, brackets⟩, -⟩ :=
    scripts_are_bracketed rfl builtins (.line "run outer")
  have texts : outerSession.tree.texts = ["cd nowhere\nrun inner\ncd", "pwd\ncd nowhere"] := by
    decide +kernel
  have shown : ((Request.line "run outer").perform.outcome outerSession).any (fun outcome =>
      outcome.journal.filter (fun event => event matches .scriptStarted _ | .scriptFinished _) =
        [.scriptStarted 1, .scriptStarted 2, .scriptFinished { lines := 2, failures := 1 },
          .scriptFinished { lines := 3, failures := 2 }]) = true := by decide +kernel
  obtain ⟨other, same, scripts⟩ := (Option.any_eq_true _ _).mp shown
  obtain rfl := Option.some.inj (reached.symm.trans same)
  exact ⟨rfl, builtins, outcome, reached, of_decide_eq_true scripts, texts ▸ brackets⟩

end VirtualTerminal
