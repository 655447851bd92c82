import Mathlib.Data.List.Forall2
import VirtualTerminal.Proofs.Command.Registration
import VirtualTerminal.Proofs.Session.Failure

/-!
# Farewells reach the host

Of the builtins only those that exit and redirect call a handler of the host, and these are the only
ones whose lines come back with a message.  What the handler does enters no lines, so between the
call and the end of the line that made it no other line is entered or left.  So the calls of a whole
journal are those of the lines that said goodbye, in their order.
-/

namespace VirtualTerminal

/-- A reply without a message for the host. -/
def Reply.isMute : Reply → Bool
  | .ok (some _) => false
  | _ => true

namespace Event

/-- An event by which effects tell what they did. -/
def isOfEffect : Event → Bool
  | .linesLogged _ | .logCleared | .directoryChanged .. => true
  | _ => false

/-- An event that is no call of a handler and does not end a line with a message. -/
def isMute : Event → Bool
  | .hostCalled _ => false
  | .lineLeft _ reply => reply.isMute
  | _ => true

theorem isMute_of_isOfEffect {event : Event} (own : event.isOfEffect = true) :
    event.isMute = true := by
  cases event <;> first | rfl | cases own

/-- The line that says goodbye. -/
def farewell? : Event → Option String
  | .lineLeft line reply => if reply = .goodbye then some line else none
  | _ => none

theorem farewell?_of_isMute {event : Event} (mute : event.isMute = true) :
    event.farewell? = none ∧ event.hostCall? = none := by
  cases event with
  | lineLeft line reply =>
      refine ⟨if_neg ?_, rfl⟩
      rintro rfl
      cases mute
  | hostCalled call => cases mute
  | _ => exact ⟨rfl, rfl⟩

end Event

/-- The lines of a journal that said goodbye, in the order in which they ended. -/
def farewells (journal : List Event) : List String :=
  journal.filterMap Event.farewell?

namespace HostCall

/-- The tokens by which a command asks for a call: the keyword that exits with whatever arguments, or
the one that redirects with the path alone. -/
def IsAskedBy : HostCall → List String → Prop
  | .exit, tokens => tokens.head? = some "exit"
  | .redirect path, tokens => tokens = ["redirect", path]

def IsMadeBy (call : HostCall) (line : String) : Prop :=
  ∃ tokens, Line.tokens line = .ok tokens ∧ call.IsAskedBy tokens

end HostCall

/-- A journal in which a handler is called just where a line says goodbye.  Each call is made by such
a line, and nothing but what the handler does stands between the call and the end of the line. -/
inductive Notified : List Event → Prop
  | nothing : Notified []
  | mute {event : Event} {rest : List Event} (mute : event.isMute = true)
      (later : Notified rest) : Notified (event :: rest)
  | farewell {call : HostCall} {line : String} {effects rest : List Event}
      (made : call.IsMadeBy line) (own : effects.all Event.isOfEffect = true)
      (later : Notified rest) :
      Notified (.hostCalled call :: (effects ++ .lineLeft line .goodbye :: rest))

namespace Notified

variable {first second journal : List Event}

theorem append (before : Notified first) (after : Notified second) :
    Notified (first ++ second) := by
  induction before with
  | nothing => exact after
  | mute mute _ inductionHypothesis => exact .mute mute inductionHypothesis
  | farewell made own _ inductionHypothesis =>
      rw [List.cons_append, List.append_assoc, List.cons_append]
      exact .farewell made own inductionHypothesis

theorem mute_append (mute : first.all Event.isMute = true) (later : Notified second) :
    Notified (first ++ second) := by
  induction first with
  | nil => exact later
  | cons event first inductionHypothesis =>
      rw [List.all_cons, Bool.and_eq_true] at mute
      exact .mute mute.1 (inductionHypothesis mute.2)

theorem of_mute (mute : journal.all Event.isMute = true) : Notified journal := by
  rw [← journal.append_nil]
  exact mute_append mute .nothing

theorem mute_of_own (own : journal.all Event.isOfEffect = true) :
    journal.all Event.isMute = true := by
  rw [List.all_eq_true] at own ⊢
  exact fun event member => Event.isMute_of_isOfEffect (own event member)

theorem farewells_of_mute (mute : journal.all Event.isMute = true) :
    farewells journal = [] ∧ hostCalls journal = [] := by
  rw [List.all_eq_true] at mute
  rw [farewells, hostCalls, List.filterMap_eq_nil_iff, List.filterMap_eq_nil_iff]
  exact ⟨fun event member => (Event.farewell?_of_isMute (mute event member)).1,
    fun event member => (Event.farewell?_of_isMute (mute event member)).2⟩

/-- The calls are those of the lines that said goodbye, one for each. -/
theorem forall₂_hostCalls (notified : Notified journal) :
    List.Forall₂ HostCall.IsMadeBy (hostCalls journal) (farewells journal) := by
  induction notified with
  | nothing => exact .nil
  | mute mute _ inductionHypothesis =>
      obtain ⟨unsaid, uncalled⟩ := Event.farewell?_of_isMute mute
      rw [hostCalls, farewells, List.filterMap_cons_none uncalled, List.filterMap_cons_none unsaid]
      exact inductionHypothesis
  | @farewell call line effects rest made own _ inductionHypothesis =>
      obtain ⟨unsaid, uncalled⟩ := farewells_of_mute (mute_of_own own)
      have calls : hostCalls (.hostCalled call :: (effects ++ .lineLeft line .goodbye :: rest)) =
          call :: hostCalls rest := by
        show call :: hostCalls (effects ++ _) = _
        rw [hostCalls_append, uncalled]
        rfl
      have lines : farewells (.hostCalled call :: (effects ++ .lineLeft line .goodbye :: rest)) =
          line :: farewells rest := by
        show farewells (effects ++ _) = _
        rw [farewells, List.filterMap_append, ← farewells, unsaid]
        rfl
      rw [calls, lines]
      exact .cons made inductionHypothesis

end Notified

/-- What a command does that was called by certain tokens, and what it replies: no line of it calls a
handler but for its own farewell, or it calls one itself and says goodbye. -/
inductive Noticed (tokens : List String) : Reply → List Event → Prop
  | mute {reply : Reply} {journal : List Event} (mute : reply.isMute = true)
      (notified : Notified journal) : Noticed tokens reply journal
  | farewell {call : HostCall} {effects : List Event} (asked : call.IsAskedBy tokens)
      (own : effects.all Event.isOfEffect = true) :
      Noticed tokens .goodbye (.hostCalled call :: effects)

namespace SessionM

variable {α β : Type} {session : Session}

/-! ### Effects -/

theorem isOfEffect_of_changeDirectory {path : String} {outcome : Outcome (Except Error Unit)}
    (reached : (changeDirectory path).outcome session = some outcome) :
    outcome.journal.all Event.isOfEffect = true := by
  cases found : session.findDirectory path with
  | ok id =>
      rw [changeDirectory_outcome_of_found found] at reached
      cases reached
      rfl
  | error error =>
      rw [changeDirectory_outcome_of_missing found] at reached
      cases reached
      rfl

theorem isOfEffect_of_perform {arguments : List String} {effect : Effect} {outcome : Outcome Unit}
    (reached : (perform arguments effect).outcome session = some outcome) :
    outcome.journal.all Event.isOfEffect = true := by
  cases effect with
  | changeDirectory path =>
      rw [perform, bind_pure_outcome] at reached
      obtain ⟨changed, changing, rfl⟩ := Option.map_eq_some_iff.mp reached
      exact isOfEffect_of_changeDirectory changing
  | _ =>
      cases reached
      rfl

theorem isOfEffect_of_performAll {arguments : List String} {effects : List Effect}
    {outcome : Outcome Unit}
    (reached : (performAll arguments effects).outcome session = some outcome) :
    outcome.journal.all Event.isOfEffect = true := by
  induction effects generalizing session outcome with
  | nil =>
      cases reached
      rfl
  | cons effect effects inductionHypothesis =>
      obtain ⟨first, rest, started, ended, rfl⟩ := bind_outcome_eq_some_iff.mp reached
      rw [Outcome.after, List.all_append, Bool.and_eq_true]
      exact ⟨isOfEffect_of_perform started, inductionHypothesis ended⟩

/-- A handler is called once, and then does what it does. -/
theorem exists_effects_of_callHost {call : HostCall} {effects : List Effect}
    {outcome : Outcome Unit} (reached : (callHost call effects).outcome session = some outcome) :
    ∃ own, outcome.journal = .hostCalled call :: own ∧ own.all Event.isOfEffect = true := by
  rw [callHost.eq_def, note_bind] at reached
  obtain ⟨performed, performing, rfl⟩ := Option.map_eq_some_iff.mp reached
  refine ⟨performed.journal, rfl, ?_⟩
  cases call with
  | exit => exact isOfEffect_of_performAll performing
  | redirect path => exact isOfEffect_of_performAll performing

/-! ### Commands -/

/-- Where the builtins are the commands, a step comes to a good value, and a handler is called just
where a line says goodbye. -/
def Notifies (step : SessionM α) (good : α → Prop) : Prop :=
  ∀ session outcome, session.registry = .builtins → step.outcome session = some outcome →
    good outcome.value ∧ Notified outcome.journal

section

variable {good : α → Prop}

theorem notifies_pure {value : α} (suits : good value) : Notifies (pure value) good := by
  rintro _ _ _ ⟨⟩
  exact ⟨suits, .nothing⟩

theorem notifies_bind {first : SessionM β} {next : β → SessionM α}
    (before : first.Notifies fun _ => True) (after : ∀ value, (next value).Notifies good) :
    (first >>= next).Notifies good := by
  intro session outcome builtins reached
  obtain ⟨start, last, started, ended, rfl⟩ := bind_outcome_eq_some_iff.mp reached
  have kept : start.session.registry = .builtins := by
    rw [outcome_toSurroundings started, builtins]
  obtain ⟨suits, later⟩ := after start.value start.session last kept ended
  exact ⟨suits, (before session start builtins started).2.append later⟩

theorem notifies_read {view : Session → β} {next : β → SessionM α}
    (after : ∀ value, (next value).Notifies good) : (read view >>= next).Notifies good :=
  fun session outcome builtins reached =>
    after (view session) session outcome builtins reached

theorem notifies_note {event : Event} (mute : event.isMute = true) :
    (note event).Notifies fun _ => True := by
  rintro _ _ _ ⟨⟩
  exact ⟨trivial, .mute mute .nothing⟩

theorem notifies_of_isOfEffect {step : SessionM α}
    (own : ∀ session outcome, step.outcome session = some outcome →
      outcome.journal.all Event.isOfEffect = true) : step.Notifies fun _ => True :=
  fun session outcome _ reached =>
    ⟨trivial, .of_mute (Notified.mute_of_own (own session outcome reached))⟩

end

theorem notifies_changeDirectory (path : String) :
    (changeDirectory path).Notifies fun _ => True :=
  notifies_of_isOfEffect fun _ _ => isOfEffect_of_changeDirectory

theorem notifies_act (arguments : List String) (action : Action) :
    (act arguments action).Notifies fun _ => True := by
  cases action with
  | greet => exact notifies_note rfl
  | effects effects => exact notifies_of_isOfEffect fun _ _ => isOfEffect_of_performAll

theorem notifies_runChangeDirectory (arguments : List String) :
    (runChangeDirectory arguments).Notifies (·.isMute = true) := by
  unfold runChangeDirectory
  split
  next path =>
    split
    next => exact notifies_pure rfl
    next =>
      refine notifies_bind (notifies_changeDirectory path) fun result => ?_
      cases result <;> exact notifies_pure rfl
  next => exact notifies_pure rfl

theorem notifies_runConcatenate (arguments : List String) :
    (runConcatenate arguments).Notifies (·.isMute = true) := by
  unfold runConcatenate
  split
  next path =>
    refine notifies_read fun text => ?_
    exact notifies_bind (notifies_note rfl) fun _ => notifies_pure rfl
  next => exact notifies_pure rfl

section

variable {enter : String → SessionM Reply}
  (lines : ∀ line, (enter line).Notifies fun _ => True)
include lines

theorem notifies_playScript (script : String) :
    (playScript enter script).Notifies fun _ => True := by
  have played : ∀ lines report, (playFrom enter report lines).Notifies fun _ => True := by
    intro texts
    induction texts with
    | nil => exact fun report => notifies_pure trivial
    | cons line texts inductionHypothesis =>
        intro report
        refine notifies_bind ?_ inductionHypothesis
        exact notifies_bind (lines line) fun _ => notifies_pure trivial
  refine notifies_read fun depth => notifies_bind (notifies_note rfl) fun _ => ?_
  refine notifies_bind (played (Text.lines script) {}) fun report => ?_
  exact notifies_bind (notifies_note rfl) fun _ => notifies_pure trivial

theorem notifies_playNested (script : String) :
    (playNested enter script).Notifies fun _ => True := by
  refine notifies_read fun limit => ?_
  cases limit with
  | some limit => exact notifies_bind (notifies_note rfl) fun _ => notifies_pure trivial
  | none =>
      refine notifies_bind (notifies_note rfl) fun _ => ?_
      refine notifies_bind (notifies_playScript lines script) fun report => ?_
      exact notifies_bind (notifies_note rfl) fun _ => notifies_pure trivial

theorem notifies_runFile (arguments : List String) :
    (runFile enter arguments).Notifies (·.isMute = true) := by
  unfold runFile
  split
  next => exact notifies_pure rfl
  next path arguments =>
    refine notifies_read fun file => ?_
    rcases file with error | ⟨name, script | executable⟩
    · exact notifies_pure rfl
    · refine notifies_bind (notifies_playNested lines script) fun result => ?_
      cases result <;> exact notifies_pure rfl
    · refine notifies_bind (notifies_note rfl) fun _ => ?_
      exact notifies_bind (notifies_act arguments executable.action) fun _ => notifies_pure rfl

end

theorem noticed_of_callHost {call : HostCall} {effects : List Effect} {tokens : List String}
    {handling : Outcome Reply} (asked : call.IsAskedBy tokens)
    (handled : (callHost call effects >>= fun _ => pure Reply.goodbye).outcome session =
      some handling) : Noticed tokens handling.value handling.journal := by
  rw [bind_pure_outcome] at handled
  obtain ⟨called, calling, rfl⟩ := Option.map_eq_some_iff.mp handled
  obtain ⟨own, journal, effect⟩ := exists_effects_of_callHost calling
  rw [journal]
  exact .farewell asked effect

theorem noticed_of_runExit {arguments : List String} {handling : Outcome Reply}
    (handled : runExit.outcome session = some handling) :
    Noticed ("exit" :: arguments) handling.value handling.journal := by
  have asked : HostCall.IsAskedBy .exit ("exit" :: arguments) := rfl
  rw [runExit, read_bind] at handled
  cases handler : session.host.exit with
  | none =>
      rw [handler] at handled
      cases handled
      exact .mute rfl .nothing
  | some effects =>
      rw [handler] at handled
      exact noticed_of_callHost asked handled

theorem noticed_of_runRedirect {arguments : List String} {handling : Outcome Reply}
    (handled : (runRedirect arguments).outcome session = some handling) :
    Noticed ("redirect" :: arguments) handling.value handling.journal := by
  unfold runRedirect at handled
  split at handled
  next path =>
    have asked : HostCall.IsAskedBy (.redirect path) ["redirect", path] := rfl
    rw [read_bind] at handled
    cases handler : session.host.redirect with
    | none =>
        rw [handler] at handled
        cases handled
        exact .mute rfl .nothing
    | some effects =>
        rw [handler] at handled
        exact noticed_of_callHost asked handled
  next =>
    cases handled
    exact .mute rfl .nothing

theorem noticed_of_notifies {step : SessionM Reply} {tokens : List String}
    {handling : Outcome Reply} (builtins : session.registry = .builtins)
    (notifies : step.Notifies (·.isMute = true)) (handled : step.outcome session = some handling) :
    Noticed tokens handling.value handling.journal :=
  have ⟨mute, notified⟩ := notifies session handling builtins handled
  .mute mute notified

section

variable {enter : String → SessionM Reply}
  (lines : ∀ line, (enter line).Notifies fun _ => True)
include lines

/-- What a builtin does that was called by its keyword. -/
theorem noticed_of_runBuiltin (builtins : session.registry = .builtins) {command : Command}
    {arguments : List String} {builtin : Builtin} {handling : Outcome Reply}
    (handled : (runBuiltin enter command arguments builtin).outcome session = some handling) :
    Noticed (builtin.keyword :: arguments) handling.value handling.journal := by
  cases builtin with
  | exit => exact noticed_of_runExit handled
  | redirect => exact noticed_of_runRedirect handled
  | run => exact noticed_of_notifies builtins (notifies_runFile lines arguments) handled
  | changeDirectory =>
      exact noticed_of_notifies builtins (notifies_runChangeDirectory arguments) handled
  | help =>
      refine noticed_of_notifies builtins (notifies_read fun registry => ?_) handled
      exact notifies_bind (notifies_note rfl) fun _ => notifies_pure rfl
  | clear =>
      refine noticed_of_notifies builtins ?_ handled
      exact notifies_bind (notifies_note rfl) fun _ => notifies_pure rfl
  | printDirectory =>
      refine noticed_of_notifies builtins (notifies_read fun path => ?_) handled
      exact notifies_bind (notifies_note rfl) fun _ => notifies_pure rfl
  | list =>
      refine noticed_of_notifies builtins (notifies_read fun names => ?_) handled
      exact notifies_bind (notifies_note rfl) fun _ => notifies_pure rfl
  | comment => exact noticed_of_notifies builtins (notifies_pure rfl) handled
  | concatenate =>
      exact noticed_of_notifies builtins (notifies_runConcatenate arguments) handled

/-- The command that a line calls is one of the builtins, called by its keyword. -/
theorem noticed_of_handle (builtins : session.registry = .builtins) {keyword : String}
    {command : Command} {arguments : List String} {handling : Outcome Reply}
    (registered : session.registry.get? keyword = some command)
    (handled : (handle enter command arguments).outcome session = some handling) :
    Noticed (keyword :: arguments) handling.value handling.journal := by
  rw [builtins] at registered
  obtain ⟨builtin, rfl, rfl⟩ := Registry.exists_builtin_of_get? registered
  exact noticed_of_runBuiltin lines builtins handled

omit lines in
theorem isMute_closing {line : String} {reply : Reply} (mute : reply.isMute = true) :
    (closing line reply).all Event.isMute = true := by
  rcases reply with error | none | message
  · rfl
  · rfl
  · cases mute

theorem notified_of_entered (builtins : session.registry = .builtins) {line : String}
    {reply : Reply} {journal : List Event} (entered : Entered enter session line reply journal) :
    Notified journal := by
  cases entered with
  | uncalled _ remarked => cases remarked <;> exact .of_mute rfl
  | refused => exact .of_mute rfl
  | @handled command arguments handling called left handled =>
      obtain ⟨keyword, tokens, registered⟩ := Registry.exists_keyword_of_called? called
      have here : (session.replay (session.opening line ++
          calling line command arguments)).registry = .builtins := by
        rw [Session.replay_toSurroundings, builtins]
      rw [builtins, ← here] at registered
      have noticed := noticed_of_handle lines here registered handled
      rw [List.append_assoc, ← List.append_assoc]
      refine .mute_append rfl ?_
      generalize handling.value = reply, handling.journal = journal at noticed ⊢
      cases noticed with
      | mute mute notified => exact notified.append (.of_mute (isMute_closing mute))
      | farewell asked own => exact .farewell ⟨_, tokens, asked⟩ own .nothing

end

theorem notifies_enterWithin (nesting : Nat) (line : String) :
    (enterWithin nesting line).Notifies fun _ => True := by
  induction nesting generalizing line with
  | zero => rintro session outcome _ ⟨⟩
  | succ nesting inductionHypothesis =>
      intro session outcome builtins reached
      exact ⟨trivial, notified_of_entered inductionHypothesis builtins (entered_of_outcome reached)⟩

theorem notifies_enter (line : String) : (SessionM.enter line).Notifies fun _ => True := by
  intro session outcome builtins reached
  rw [enter_outcome] at reached
  exact notifies_enterWithin _ line session outcome builtins reached

/-! ### Requests -/

theorem notifies_press (key : Key) : (press key).Notifies fun _ => True := by
  unfold press
  split
  next =>
    refine notifies_read fun line => notifies_bind ?_ fun _ => ?_
    · unfold remember
      split
      next => exact notifies_pure trivial
      next => exact notifies_note rfl
    · exact notifies_bind (notifies_enter line) fun _ => notifies_note rfl
  next => exact notifies_read fun input => notifies_note rfl

theorem notifies_submit (text : String) : (submit text).Notifies fun _ => True := by
  have typed : ∀ characters : List Char,
      (fold (fun _ c => press (.character c)) () characters).Notifies fun _ => True := by
    intro characters
    induction characters with
    | nil => exact notifies_pure trivial
    | cons c characters inductionHypothesis =>
        exact notifies_bind (notifies_press (.character c)) fun _ => inductionHypothesis
  exact notifies_bind (typed text.toList) fun _ => notifies_press .enter

theorem notifies_perform {request : Request}
    (entered : ∀ keyword arguments, request ≠ .call keyword arguments) :
    request.perform.Notifies fun _ => True := by
  cases request with
  | line text => exact notifies_bind (notifies_enter text) fun _ => notifies_pure trivial
  | script text =>
      exact notifies_bind (notifies_playScript notifies_enter text) fun _ => notifies_pure trivial
  | nestedScript text =>
      exact notifies_bind (notifies_playNested notifies_enter text) fun _ => notifies_pure trivial
  | key key =>
      refine notifies_bind (notifies_press key) fun _ => ?_
      exact notifies_read fun input => notifies_pure trivial
  | submit text => exact notifies_bind (notifies_submit text) fun _ => notifies_pure trivial
  | changeDirectory path =>
      exact notifies_bind (notifies_changeDirectory path) fun _ => notifies_pure trivial
  | call keyword arguments => exact absurd rfl (entered keyword arguments)
  | log text => exact notifies_bind (notifies_note rfl) fun _ => notifies_pure trivial
  | clear => exact notifies_bind (notifies_note rfl) fun _ => notifies_pure trivial

/-- A command that the host calls itself does what it does in a line. -/
theorem noticed_of_call (builtins : session.registry = .builtins) {keyword : String}
    {arguments : List String} {outcome : Outcome Answer}
    (reached : (Request.call keyword arguments).perform.outcome session = some outcome) :
    outcome.value = .noSuchCommand ∧ outcome.journal = [] ∨
      ∃ reply, outcome.value = .reply reply ∧
        Noticed (keyword :: arguments) reply outcome.journal := by
  rw [Request.perform, read_bind] at reached
  cases registered : session.registry.get? keyword with
  | none =>
      rw [registered] at reached
      cases reached
      exact .inl ⟨rfl, rfl⟩
  | some command =>
      simp only [registered, map_eq_pure_bind, bind_pure_outcome] at reached
      obtain ⟨handling, handled, rfl⟩ := Option.map_eq_some_iff.mp reached
      exact .inr ⟨_, rfl, noticed_of_handle notifies_enter builtins registered handled⟩

end SessionM

/-- The tokens of a command that said goodbye when the host called it without a line. -/
def Request.farewell? : Request → Answer → Option (List String)
  | .call keyword arguments, .reply reply =>
      if reply = .goodbye then some (keyword :: arguments) else none
  | _, _ => none

open SessionM

/-- Where the commands are just the builtins, whatever is asked of a session ends, and the host is
called once for each line that says goodbye, in the order of these lines: to exit by a line whose
first token says so, to redirect by one that names just the path; and each call is made by its
line, since nothing but what the handler does comes in between.  So no other line calls the host.  A
command that the host calls itself is no line: if it says goodbye it has made the only call. -/
theorem farewells_reach_host {session : Session} (builtins : session.registry = .builtins)
    (request : Request) :
    ∃ outcome, request.perform.outcome session = some outcome ∧
      match request.farewell? outcome.value with
      | none => Notified outcome.journal ∧
          List.Forall₂ HostCall.IsMadeBy (hostCalls outcome.journal) (farewells outcome.journal)
      | some tokens => ∃ call effects, outcome.journal = .hostCalled call :: effects ∧
          call.IsAskedBy tokens ∧ effects.all Event.isOfEffect = true ∧
          hostCalls outcome.journal = [call] := by
  have nests : ∀ command ∈ session.registry.toList, command.entersLines = false := by
    rw [builtins]
    decide +kernel
  obtain ⟨outcome, reached⟩ := perform_ends nests request
  refine ⟨outcome, reached, ?_⟩
  have lines : ∀ {journal}, Notified journal → Notified journal ∧
      List.Forall₂ HostCall.IsMadeBy (hostCalls journal) (farewells journal) :=
    fun notified => ⟨notified, notified.forall₂_hostCalls⟩
  cases request with
  | call keyword arguments =>
      rcases noticed_of_call builtins reached with ⟨answer, nothing⟩ | ⟨reply, answer, noticed⟩
      · rw [answer, nothing]
        exact lines .nothing
      · rw [answer]
        generalize outcome.journal = journal at noticed ⊢
        cases noticed with
        | mute mute notified =>
            have unsaid : (Request.call keyword arguments).farewell? (.reply reply) = none := by
              refine if_neg ?_
              rintro rfl
              cases mute
            rw [unsaid]
            exact lines notified
        | @farewell call effects asked own =>
            have said : (Request.call keyword arguments).farewell? (.reply .goodbye) =
                some (keyword :: arguments) := by simp [Request.farewell?]
            have silent : hostCalls effects = [] :=
              (Notified.farewells_of_mute (Notified.mute_of_own own)).2
            rw [said]
            exact ⟨call, effects, rfl, asked, own, congrArg (List.cons call) silent⟩
  | _ => exact lines (notifies_perform (by nofun) session outcome builtins reached).2

/-- A session in which files exit and redirect, among lines that fail. -/
def partingSession : Session :=
  let again := .file { name := "again", content := .text "exit now\nredirect a b" } .nil
  Config.session {
    layout := { entries := .file {
      name := "leave"
      content := .text "cd nowhere\nredirect\nredirect /home\nrun again" } again }
    host := { exit := some [.log "Bye."], redirect := some [.logArguments " ", .clear] } }

/-- One line of each script notifies the host; those that fail do not. -/
theorem farewells_reach_host_nested :
    partingSession.registry = .builtins ∧
    ∃ outcome, (Request.line "run leave").perform.outcome partingSession = some outcome ∧
      Notified outcome.journal ∧
      hostCalls outcome.journal = [.redirect "/home", .exit] ∧
      farewells outcome.journal = ["redirect /home", "exit now"] ∧
      List.Forall₂ HostCall.IsMadeBy [.redirect "/home", .exit] ["redirect /home", "exit now"] := by
  have builtins : partingSession.registry = .builtins := rfl
  have shown : ((Request.line "run leave").perform.outcome partingSession).any (fun outcome =>
      outcome.value = .reply .nothing ∧
        hostCalls outcome.journal = [.redirect "/home", .exit] ∧
        farewells outcome.journal = ["redirect /home", "exit now"]) = true := by decide +kernel
  obtain ⟨outcome, reached, told⟩ := farewells_reach_host builtins (.line "run leave")
  obtain ⟨notified, calls⟩ := told
  obtain ⟨other, same, holds⟩ := (Option.any_eq_true _ _).mp shown
  obtain rfl := Option.some.inj (reached.symm.trans same)
  obtain ⟨-, called, said⟩ := of_decide_eq_true holds
  rw [called, said] at calls
  exact ⟨builtins, outcome, reached, notified, called, said, calls⟩

/-- A command that the host calls itself may call the host without a line. -/
theorem calls_without_lines :
    partingSession.registry = .builtins ∧ partingSession.host.exit.isSome = true ∧
    partingSession.host.redirect.isSome = true ∧
    ∃ outcome, (Request.call "exit" []).perform.outcome partingSession = some outcome ∧
      outcome.value = .reply .goodbye ∧ hostCalls outcome.journal = [.exit] ∧
      ∀ line, .lineEntered line ∉ outcome.journal := by
  have shown : ((Request.call "exit" []).perform.outcome partingSession).any (fun outcome =>
      outcome.value = .reply .goodbye ∧
        outcome.journal = [.hostCalled .exit, .linesLogged ["Bye."]]) = true := by decide +kernel
  obtain ⟨outcome, reached, holds⟩ := (Option.any_eq_true _ _).mp shown
  obtain ⟨answer, journal⟩ := of_decide_eq_true holds
  refine ⟨rfl, rfl, rfl, outcome, reached, answer, ?_, ?_⟩
  · rw [journal]
    rfl
  · intro line
    simp [journal]

end VirtualTerminal
