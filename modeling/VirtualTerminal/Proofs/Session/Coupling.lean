import VirtualTerminal.Proofs.Session.Depth

/-!
# Two sessions side by side

Commands do not look at the log, the limits and the meter.  So the same thing asked of two sessions
that differ in nothing else goes the same way in both, as long as the limits stop neither before the
other.  A coupling says which sessions are compared and what is taken for granted of the first one;
steps are coupled if what the second comes to is then told by the first.
-/

namespace VirtualTerminal

/-- The same event of a session in which depths are counted differently. -/
def Event.mapDepth (depth : Nat → Nat) : Event → Event
  | .scriptStarted deep => .scriptStarted (depth deep)
  | event => event

/-- An event that coupled sessions share as it is. -/
def Event.isShared : Event → Bool
  | .scriptStarted _ | .nestedScriptClosed => false
  | _ => true

theorem Event.mapDepth_eq_self {event : Event} (shared : event.isShared = true)
    (depth : Nat → Nat) : event.mapDepth depth = event := by
  cases event with
  | scriptStarted deep => cases shared
  | _ => rfl

theorem hostCalls_map_mapDepth (depth : Nat → Nat) (journal : List Event) :
    hostCalls (journal.map (.mapDepth depth)) = hostCalls journal := by
  have unseen : Event.hostCall? ∘ Event.mapDepth depth = Event.hostCall? := by
    funext event
    cases event <;> rfl
  rw [hostCalls, hostCalls, List.filterMap_map, unseen]

/-- Pairs of sessions that differ in the log, the limits and the meter at most, where the second
reaches no limit before the first does. -/
structure Coupling where
  /-- How two sessions may differ. -/
  Alike : Session → Session → Prop
  /-- What may happen in the first session for the second to be compared with it. -/
  Admits : Event → Prop
  /-- The depth of the second session, told by that of the first. -/
  depth : Nat → Nat
  same : ∀ {first second}, Alike first second → ∃ log limits meter,
    second = { first with log := log, limits := limits, meter := meter }
  depth_eq : ∀ {first second}, Alike first second → second.meter.depth = depth first.meter.depth
  room : ∀ {first second}, Alike first second → first.meter.depth < first.limits.depth →
    second.meter.depth < second.limits.depth
  left : ∀ {first second}, Alike first second → first.meter.commands < first.limits.commands →
    second.meter.commands < second.limits.commands
  full : ∀ {first second}, Alike first second →
    Admits (.limitReached (.depth first.limits.depth)) →
    first.limits.depth ≤ first.meter.depth →
    second.limits.depth = first.limits.depth ∧ second.limits.depth ≤ second.meter.depth
  spent : ∀ {first second}, Alike first second →
    Admits (.limitReached (.commands first.limits.commands)) →
    first.limits.commands ≤ first.meter.commands →
    second.limits.commands = first.limits.commands ∧
      second.limits.commands ≤ second.meter.commands
  apply : ∀ {first second event}, Alike first second →
    (event = .nestedScriptClosed → 0 < second.meter.depth) →
    Alike (first.apply event) (second.apply event)

/-- What a second outcome shows is told by the first. -/
structure Coupling.Matches {α : Type} (coupling : Coupling) (first second : Outcome α) : Prop where
  value : second.value = first.value
  journal : second.journal = first.journal.map (.mapDepth coupling.depth)
  alike : coupling.Alike first.session second.session

namespace SessionM

variable {α β : Type}

/-- Whatever the first step comes to, the second comes to the same. -/
def Couples (coupling : Coupling) (step other : SessionM α) : Prop :=
  ∀ first second, coupling.Alike first second → ∀ outcome, step.outcome first = some outcome →
    (∀ event ∈ outcome.journal, coupling.Admits event) →
    ∃ result, other.outcome second = some result ∧ coupling.Matches outcome result

/-- A view that shows nothing of the log, the limits and the meter. -/
def IsCommandView (view : Session → α) : Prop :=
  ∀ session log limits meter,
    view { session with log := log, limits := limits, meter := meter } = view session

variable {coupling : Coupling}

theorem couples_pure (value : α) : (pure value : SessionM α).Couples coupling (pure value) := by
  rintro first second alike _ ⟨⟩ -
  exact ⟨_, rfl, rfl, rfl, alike⟩

theorem couples_bind {step other : SessionM α} {next further : α → SessionM β}
    (before : step.Couples coupling other)
    (after : ∀ value, (next value).Couples coupling (further value)) :
    (step >>= next).Couples coupling (other >>= further) := by
  intro first second alike outcome reached admitted
  obtain ⟨start, rest, started, ended, rfl⟩ := bind_outcome_eq_some_iff.mp reached
  obtain ⟨begun, here, begins⟩ := before first second alike start started fun event member =>
    admitted event (List.mem_append_left _ member)
  obtain ⟨done, there, ends⟩ := after start.value start.session begun.session begins.alike rest
    ended fun event member => admitted event (List.mem_append_right _ member)
  refine ⟨done.after begun.journal, ?_, ends.value, ?_, ends.alike⟩
  · exact bind_outcome_eq_some_iff.mpr ⟨begun, done, here, begins.value ▸ there, rfl⟩
  · show begun.journal ++ done.journal = (start.journal ++ rest.journal).map _
    rw [List.map_append, begins.journal, ends.journal]

theorem couples_read {view : Session → β} {next further : β → SessionM α}
    (visible : IsCommandView view)
    (after : ∀ value, (next value).Couples coupling (further value)) :
    (read view >>= next).Couples coupling (read view >>= further) := by
  intro first second alike outcome reached admitted
  obtain ⟨log, limits, meter, rfl⟩ := coupling.same alike
  rw [read_bind] at reached ⊢
  rw [visible]
  exact after (view first) _ _ alike outcome reached admitted

theorem couples_note (event : Event) (shared : event.isShared = true) :
    (note event).Couples coupling (note event) := by
  rintro first second alike _ ⟨⟩ -
  refine ⟨_, rfl, rfl, ?_, coupling.apply alike ?_⟩
  · exact congrArg (fun event => [event]) (event.mapDepth_eq_self shared coupling.depth).symm
  · rintro rfl
    cases shared

theorem couples_fold {step other : β → α → SessionM β} {items : List α}
    (each : ∀ value, ∀ item ∈ items, (step value item).Couples coupling (other value item))
    (value : β) : (fold step value items).Couples coupling (fold other value items) := by
  induction items generalizing value with
  | nil => exact couples_pure value
  | cons item items inductionHypothesis =>
      apply couples_bind (each value item List.mem_cons_self)
      exact inductionHypothesis fun value other member =>
        each value other (List.mem_cons_of_mem _ member)

theorem couples_logAll (lines : List String) : (logAll lines).Couples coupling (logAll lines) :=
  couples_note _ rfl

theorem couples_log (line : String) : (log line).Couples coupling (log line) :=
  couples_logAll [line]

theorem couples_clear : clear.Couples coupling clear :=
  couples_note _ rfl

theorem couples_setDirectory (id : DirId) :
    (setDirectory id).Couples coupling (setDirectory id) :=
  couples_read (fun _ _ _ _ => rfl) fun _ => couples_note _ rfl

theorem couples_changeDirectory (path : String) :
    (changeDirectory path).Couples coupling (changeDirectory path) := by
  refine couples_read (fun _ _ _ _ => rfl) fun result => ?_
  cases result with
  | error error => exact couples_pure _
  | ok id => exact couples_bind (couples_setDirectory id) fun _ => couples_pure _

theorem couples_perform (arguments : List String) (effect : Effect) :
    (perform arguments effect).Couples coupling (perform arguments effect) := by
  cases effect with
  | log text => exact couples_log text
  | logArguments separator => exact couples_log _
  | logDirectory => exact couples_read (fun _ _ _ _ => rfl) couples_log
  | logState => exact couples_read (fun _ _ _ _ => rfl) couples_log
  | clear => exact couples_clear
  | changeDirectory path =>
      exact couples_bind (couples_changeDirectory path) fun _ => couples_pure ()

theorem couples_performAll (arguments : List String) (effects : List Effect) :
    (performAll arguments effects).Couples coupling (performAll arguments effects) := by
  induction effects with
  | nil => exact couples_pure ()
  | cons effect effects inductionHypothesis =>
      exact couples_bind (couples_perform arguments effect) fun _ => inductionHypothesis

theorem couples_act (arguments : List String) (action : Action) :
    (act arguments action).Couples coupling (act arguments action) := by
  cases action with
  | greet => exact couples_logAll _
  | effects effects => exact couples_performAll arguments effects

theorem couples_callHost (call : HostCall) (effects : List Effect) :
    (callHost call effects).Couples coupling (callHost call effects) := by
  refine couples_bind (couples_note _ rfl) fun _ => ?_
  cases call with
  | exit => exact couples_performAll [] effects
  | redirect path => exact couples_performAll [path] effects

theorem couples_runChangeDirectory (arguments : List String) :
    (runChangeDirectory arguments).Couples coupling (runChangeDirectory arguments) := by
  unfold runChangeDirectory
  split
  next path =>
    split
    next => exact couples_pure _
    next =>
      refine couples_bind (couples_changeDirectory path) fun result => ?_
      cases result <;> exact couples_pure _
  next => exact couples_pure _

theorem couples_runExit : runExit.Couples coupling runExit := by
  refine couples_read (fun _ _ _ _ => rfl) fun handler => ?_
  cases handler with
  | none => exact couples_pure _
  | some effects => exact couples_bind (couples_callHost .exit effects) fun _ => couples_pure _

theorem couples_runRedirect (arguments : List String) :
    (runRedirect arguments).Couples coupling (runRedirect arguments) := by
  unfold runRedirect
  split
  next path =>
    refine couples_read (fun _ _ _ _ => rfl) fun handler => ?_
    cases handler with
    | none => exact couples_pure _
    | some effects =>
        exact couples_bind (couples_callHost (.redirect path) effects) fun _ => couples_pure _
  next => exact couples_pure _

theorem couples_runConcatenate (arguments : List String) :
    (runConcatenate arguments).Couples coupling (runConcatenate arguments) := by
  unfold runConcatenate
  split
  next path =>
    refine couples_read (fun _ _ _ _ => rfl) fun text => ?_
    exact couples_bind (couples_log _) fun _ => couples_pure _
  next => exact couples_pure _

theorem couples_started {next further : Unit → SessionM α}
    (after : (next ()).Couples coupling (further ())) :
    (read (·.meter.depth) >>= fun depth => note (.scriptStarted depth) >>= next).Couples coupling
      (read (·.meter.depth) >>= fun depth => note (.scriptStarted depth) >>= further) := by
  have started : (read (·.meter.depth) >>= fun depth => note (.scriptStarted depth)).Couples
      coupling (read (·.meter.depth) >>= fun depth => note (.scriptStarted depth)) := by
    rintro first second alike _ ⟨⟩ -
    refine ⟨_, rfl, rfl, ?_, alike⟩
    exact congrArg (fun depth => [Event.scriptStarted depth]) (coupling.depth_eq alike)
  have whole := couples_bind started fun _ => after
  rwa [bind_assoc, bind_assoc] at whole

section

variable {enter other : String → SessionM Reply}
  (lines : ∀ line, (enter line).Couples coupling (other line))
include lines

theorem couples_playScript (script : String) :
    (playScript enter script).Couples coupling (playScript other script) := by
  refine couples_started (couples_bind ?_ fun report => ?_)
  · apply couples_fold
    exact fun report line _ => couples_bind (lines line) fun _ => couples_pure _
  · exact couples_bind (couples_note _ rfl) fun _ => couples_pure report

/-- A nested script is closed at the depth at which it was opened, so it leaves alike sessions. -/
theorem couples_playNested (balanced : ∀ line, (other line).Follows .balanced) (script : String) :
    (playNested enter script).Couples coupling (playNested other script) := by
  intro first second alike outcome reached admitted
  rcases Nat.lt_or_ge first.meter.depth first.limits.depth with room | full
  · rw [playNested_outcome_of_room room] at reached
    obtain ⟨played, playing, rfl⟩ := Option.map_eq_some_iff.mp reached
    have opened : coupling.Alike (first.apply .nestedScriptOpened)
        (second.apply .nestedScriptOpened) := coupling.apply alike nofun
    obtain ⟨result, done, plays⟩ := couples_playScript lines script _ _ opened played playing
      fun event member => admitted event (by simp [member])
    have depth : result.session.meter.depth = second.meter.depth + 1 :=
      keepsDepth_of_balanced (Course.balanced_isLocal.follows_playScript script
        fun line _ => balanced line) _ result done
    have closed : coupling.Alike (played.session.apply .nestedScriptClosed)
        (result.session.apply .nestedScriptClosed) :=
      coupling.apply plays.alike fun _ => Nat.lt_of_lt_of_eq (Nat.succ_pos _) depth.symm
    rw [playNested_outcome_of_room (coupling.room alike room), done]
    refine ⟨_, rfl, congrArg Except.ok plays.value, ?_, closed⟩
    simp [plays.journal, Event.mapDepth]
  · rw [playNested_outcome_of_full full] at reached
    cases reached
    obtain ⟨limit, fullToo⟩ := coupling.full alike (admitted _ List.mem_cons_self) full
    rw [playNested_outcome_of_full fullToo, limit]
    exact ⟨_, rfl, rfl, rfl, alike⟩

theorem couples_runFile (balanced : ∀ line, (other line).Follows .balanced)
    (arguments : List String) :
    (runFile enter arguments).Couples coupling (runFile other arguments) := by
  unfold runFile
  split
  next => exact couples_pure _
  next path arguments =>
    refine couples_read (fun _ _ _ _ => rfl) fun file => ?_
    rcases file with error | ⟨name, script | executable⟩
    · exact couples_pure _
    · refine couples_bind (couples_playNested lines balanced script) fun result => ?_
      cases result <;> exact couples_pure _
    · refine couples_bind (couples_note _ rfl) fun _ => ?_
      exact couples_bind (couples_act arguments executable.action) fun _ => couples_pure _

theorem couples_runBuiltin (balanced : ∀ line, (other line).Follows .balanced) (command : Command)
    (arguments : List String) (builtin : Builtin) :
    (runBuiltin enter command arguments builtin).Couples coupling
      (runBuiltin other command arguments builtin) := by
  cases builtin with
  | changeDirectory => exact couples_runChangeDirectory arguments
  | help =>
      refine couples_read (fun _ _ _ _ => rfl) fun registry => ?_
      exact couples_bind (couples_logAll _) fun _ => couples_pure _
  | clear => exact couples_bind couples_clear fun _ => couples_pure _
  | printDirectory =>
      refine couples_read (fun _ _ _ _ => rfl) fun path => ?_
      exact couples_bind (couples_log path) fun _ => couples_pure _
  | list =>
      refine couples_read (fun _ _ _ _ => rfl) fun names => ?_
      exact couples_bind (couples_logAll _) fun _ => couples_pure _
  | exit => exact couples_runExit
  | redirect => exact couples_runRedirect arguments
  | run => exact couples_runFile lines balanced arguments
  | comment => exact couples_pure _
  | concatenate => exact couples_runConcatenate arguments

theorem couples_follow (balanced : ∀ line, (other line).Follows .balanced) (command : Command)
    (arguments : List String) (directive : Directive) :
    (follow enter command arguments directive).Couples coupling
      (follow other command arguments directive) := by
  have nested : ∀ script, (follow.nested enter script).Couples coupling
      (follow.nested other script) := by
    intro script
    refine couples_bind (couples_playNested lines balanced script) fun result => ?_
    cases result <;> exact couples_pure _
  cases directive with
  | effect effect => exact couples_bind (couples_perform arguments effect) fun _ => couples_pure _
  | line text => exact couples_bind (lines text) fun _ => couples_pure _
  | lineOfArguments => exact couples_bind (lines _) fun _ => couples_pure _
  | nestedScript script => exact nested script
  | nestedScriptOfArguments copies => exact nested _
  | script script =>
      refine couples_bind (couples_playScript lines script) fun report => ?_
      exact couples_bind (couples_log _) fun _ => couples_pure _
  | logFile path =>
      refine couples_read (fun _ _ _ _ => rfl) fun text => ?_
      cases text with
      | error error => exact couples_pure _
      | ok text => exact couples_bind (couples_log text) fun _ => couples_pure _
  | enterDirectory path =>
      refine couples_bind (couples_changeDirectory path) fun result => ?_
      cases result <;> exact couples_pure _
  | logCommand => exact couples_bind (couples_log _) fun _ => couples_pure _
  | answer message => exact couples_pure _
  | failUsage reason => exact couples_pure _
  | failConfiguration reason => exact couples_pure _

theorem couples_handle (balanced : ∀ line, (other line).Follows .balanced) (command : Command)
    (arguments : List String) :
    (handle enter command arguments).Couples coupling (handle other command arguments) := by
  unfold handle
  cases command.handler with
  | builtin builtin => exact couples_runBuiltin lines balanced command arguments builtin
  | directives directives =>
      induction directives with
      | nil => exact couples_pure _
      | cons directive directives inductionHypothesis =>
          refine couples_bind (couples_follow lines balanced command arguments directive) ?_
          intro reply
          cases reply with
          | some reply => exact couples_pure reply
          | none => exact inductionHypothesis

theorem couples_dispatch (balanced : ∀ line, (other line).Follows .balanced) (line : String)
    (command : Command) (arguments : List String) :
    (dispatch enter line command arguments).Couples coupling
      (dispatch other line command arguments) := by
  intro first second alike outcome reached admitted
  have counted : coupling.Alike (first.apply .commandCounted) (second.apply .commandCounted) :=
    coupling.apply alike nofun
  rcases Nat.lt_or_ge first.meter.commands first.limits.commands with left | spent
  · rw [dispatch_outcome_of_left first left] at reached
    obtain ⟨handling, handled, rfl⟩ := Option.map_eq_some_iff.mp reached
    obtain ⟨result, done, handles⟩ := couples_handle lines balanced command arguments _ _ counted
      handling handled fun event member => admitted event (List.mem_append_right _ member)
    rw [dispatch_outcome_of_left second (coupling.left alike left), done]
    refine ⟨_, rfl, handles.value, ?_, handles.alike⟩
    simp [Outcome.after, calling, handles.journal, Event.mapDepth]
  · rw [dispatch_outcome_of_spent first spent] at reached
    cases reached
    -- Reaching a limit is admitted only if the second session reaches the same one.
    obtain ⟨limit, spentToo⟩ := coupling.spent alike
      (admitted _ (List.mem_cons_of_mem _ List.mem_cons_self)) spent
    rw [dispatch_outcome_of_spent second spentToo, limit]
    exact ⟨_, rfl, rfl, rfl, counted⟩

theorem couples_enterStep (balanced : ∀ line, (other line).Follows .balanced) (line : String) :
    (enterStep enter line).Couples coupling (enterStep other line) := by
  refine couples_bind ?_ fun _ => couples_bind ?_ fun reply =>
    couples_bind ?_ fun _ => couples_pure reply
  · refine couples_bind (couples_note _ rfl) fun _ => ?_
    exact couples_read (fun _ _ _ _ => rfl) fun prompt => couples_log _
  · unfold interpret
    split
    next => exact couples_pure _
    next => exact couples_pure _
    next keyword arguments _ =>
      refine couples_read (fun _ _ _ _ => rfl) fun command => ?_
      cases command with
      | some command => exact couples_dispatch lines balanced line command arguments
      | none =>
          refine couples_bind (couples_note _ rfl) fun _ => ?_
          exact couples_bind (couples_log _) fun _ => couples_pure _
  · refine couples_bind ?_ fun _ => couples_note _ rfl
    cases reply with
    | ok message => exact couples_pure ()
    | error error => exact couples_bind (couples_note _ rfl) fun _ => couples_log _

end

/-- Room for more open lines makes no difference to a line that has come to an end with less. -/
theorem couples_enterWithin {nesting more : Nat} (room : nesting ≤ more) (line : String) :
    (enterWithin nesting line).Couples coupling (enterWithin more line) := by
  induction nesting generalizing more line with
  | zero => rintro first second alike _ ⟨⟩
  | succ nesting inductionHypothesis =>
      obtain ⟨more, rfl⟩ := Nat.exists_eq_add_one.mpr (Nat.lt_of_lt_of_le nesting.succ_pos room)
      exact couples_enterStep (inductionHypothesis (Nat.le_of_succ_le_succ room))
        (Course.balanced_isLocal.follows_enterWithin more) line

/-- A line is coupled with itself if the second session has as much room for open lines. -/
theorem couples_enter_of_le {line : String}
    (room : ∀ {first second}, coupling.Alike first second →
      first.nestingBound line ≤ second.nestingBound line) :
    (enter line).Couples coupling (enter line) := by
  intro first second alike outcome reached admitted
  rw [enter_outcome] at reached ⊢
  exact couples_enterWithin (room alike) line first second alike outcome reached admitted

section

variable (lines : ∀ line, (enter line).Couples coupling (enter line))
include lines

theorem couples_press (key : Key) : (press key).Couples coupling (press key) := by
  unfold press
  split
  next =>
    refine couples_read (fun _ _ _ _ => rfl) fun line => couples_bind ?_ fun _ => ?_
    · unfold remember
      split
      next => exact couples_pure ()
      next => exact couples_note _ rfl
    · exact couples_bind (lines line) fun _ => couples_note _ rfl
  next => exact couples_read (fun _ _ _ _ => rfl) fun input => couples_note _ rfl

theorem couples_submit (text : String) : (submit text).Couples coupling (submit text) := by
  refine couples_bind ?_ fun _ => couples_press lines .enter
  apply couples_fold
  exact fun _ c _ => couples_press lines (.character c)

/-- Whatever is asked of a session is coupled with itself if lines are. -/
theorem couples_request (request : Request) : request.perform.Couples coupling request.perform := by
  have balanced := Course.balanced_isLocal.follows_enter
  cases request with
  | line text => exact couples_bind (lines text) fun _ => couples_pure _
  | script text => exact couples_bind (couples_playScript lines text) fun _ => couples_pure _
  | nestedScript text =>
      exact couples_bind (couples_playNested lines balanced text) fun _ => couples_pure _
  | key pressed =>
      refine couples_bind (couples_press lines pressed) fun _ => ?_
      exact couples_read (fun _ _ _ _ => rfl) fun input => couples_pure _
  | submit text => exact couples_bind (couples_submit lines text) fun _ => couples_pure _
  | changeDirectory path =>
      exact couples_bind (couples_changeDirectory path) fun _ => couples_pure _
  | call keyword arguments =>
      refine couples_read (fun _ _ _ _ => rfl) fun command => ?_
      cases command with
      | none => exact couples_pure _
      | some command =>
          exact couples_bind (couples_handle lines balanced command arguments) fun _ =>
            couples_pure _
  | log text => exact couples_bind (couples_log text) fun _ => couples_pure _
  | clear => exact couples_bind couples_clear fun _ => couples_pure _

end

end SessionM

/-- Every session beside itself. -/
def Coupling.itself : Coupling where
  Alike first second := second = first
  Admits _ := True
  depth := id
  same := by rintro first _ rfl; exact ⟨_, _, _, rfl⟩
  depth_eq := by rintro first _ rfl; rfl
  room := by rintro first _ rfl room; exact room
  left := by rintro first _ rfl left; exact left
  full := by rintro first _ rfl - full; exact ⟨rfl, full⟩
  spent := by rintro first _ rfl - spent; exact ⟨rfl, spent⟩
  apply := by rintro first _ _ rfl -; rfl

theorem map_mapDepth_id (journal : List Event) : journal.map (.mapDepth id) = journal := by
  have same : ∀ event : Event, event.mapDepth id = event := by
    intro event
    cases event <;> rfl
  exact (List.map_congr_left fun event _ => same event).trans (List.map_id _)

theorem Coupling.Matches.eq_of_itself {α : Type} {first second : Outcome α}
    (same : Coupling.itself.Matches first second) : second = first := by
  obtain ⟨value, journal, alike⟩ := same
  cases first
  cases second
  cases value
  cases journal.trans (map_mapDepth_id _)
  cases alike
  rfl

namespace SessionM

theorem outcome_of_couples_itself {α : Type} {step other : SessionM α}
    (couples : step.Couples .itself other) {session : Session} {outcome : Outcome α}
    (reached : step.outcome session = some outcome) : other.outcome session = some outcome := by
  obtain ⟨result, done, same⟩ := couples session session rfl outcome reached fun _ _ => trivial
  rw [done, same.eq_of_itself]

variable {session : Session} {nesting more : Nat}

/-- A line that has come to an end comes to the same end with more room. -/
theorem enterWithin_outcome_of_le {line : String} {outcome : Outcome Reply} (room : nesting ≤ more)
    (reached : (enterWithin nesting line).outcome session = some outcome) :
    (enterWithin more line).outcome session = some outcome :=
  outcome_of_couples_itself (couples_enterWithin room line) reached

/-- A line that ends with one room and with another comes to the same end. -/
theorem enterWithin_outcome_unique {line : String} {first second : Outcome Reply}
    (reached : (enterWithin nesting line).outcome session = some first)
    (reachedToo : (enterWithin more line).outcome session = some second) : first = second := by
  have here := enterWithin_outcome_of_le (Nat.le_max_left nesting more) reached
  have there := enterWithin_outcome_of_le (Nat.le_max_right nesting more) reachedToo
  exact Option.some.inj (here.symm.trans there)

/-- A nested script that has come to an end comes to the same end with more room for its lines. -/
theorem playNested_outcome_of_le {script : String} {outcome : Outcome (Except Error Report)}
    (room : nesting ≤ more)
    (reached : (playNested (enterWithin nesting) script).outcome session = some outcome) :
    (playNested (enterWithin more) script).outcome session = some outcome :=
  outcome_of_couples_itself
    (couples_playNested (couples_enterWithin room)
      (Course.balanced_isLocal.follows_enterWithin more) script) reached

end SessionM

end VirtualTerminal
