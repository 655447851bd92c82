import VirtualTerminal.Proofs.Line.Blank
import VirtualTerminal.Proofs.Session.Typing

/-!
# The history

The history lists what was in the buffer whenever Enter was pressed, the lines without tokens left
out.  Keys are all that edits the buffer, so that what is entered can be told from the requests
alone.
-/

namespace VirtualTerminal

open SessionM

/-- A text without control characters. -/
def IsPrintable (text : String) : Prop :=
  ∀ c ∈ text.toList, Text.isControl c = false

structure Session.IsPrintable (session : Session) : Prop where
  input : VirtualTerminal.IsPrintable session.input
  history : ∀ line ∈ session.history, VirtualTerminal.IsPrintable line

namespace Request

/-- The buffer behind a request. -/
def bufferAfter (input : String) : Request → String
  | .key .enter | .submit _ => ""
  | .key pressed => pressed.edit input
  | _ => input

/-- The buffer at the Enter that a request presses, if it does. -/
def submitted? (input : String) : Request → Option String
  | .key .enter => some input
  | .submit text => some (input ++ withoutControls text)
  | _ => none

/-- The buffers at all presses of Enter. -/
def submissions (input : String) : List Request → List String
  | [] => []
  | request :: requests =>
      (request.submitted? input).toList ++ submissions (request.bufferAfter input) requests

end Request

/-- The history keeps the lines that have tokens. -/
theorem flatMap_remembered (lines : List String) :
    lines.flatMap remembered = lines.filter fun line => Line.tokens line ≠ .ok [] := by
  induction lines with
  | nil => rfl
  | cons line lines inductionHypothesis =>
      rw [List.flatMap_cons, inductionHypothesis, remembered]
      by_cases blank : Text.isBlankText line = true
      · have none := (Line.tokens_eq_nil_iff line).mpr blank
        simp [blank, none]
      · have some := mt (Line.tokens_eq_nil_iff line).mp blank
        simp [blank, some]

/-! ### What a request does to the buffer and the history -/

namespace Request

variable {request : Request} {session : Session} {outcome : Outcome Answer}

/-- A request without keys leaves the buffer and the history as they are. -/
theorem typing_of_keyless (keyless : request.pressesKeys = false)
    (reached : request.perform.outcome session = some outcome) :
    outcome.session.input = session.input ∧ outcome.session.history = session.history := by
  have untyped : Untyped outcome.journal :=
    Course.admits_of_outcome (Course.untyped_isLocal.follows_perform_of_keyless
      Course.untyped_isLocal.follows_enter keyless) reached
  rw [outcome_session reached]
  exact session.replay_of_untyped untyped

end Request

theorem SessionM.typing_of_enter {session : Session} {pressed : Outcome Unit}
    (reached : (press .enter).outcome session = some pressed) :
    pressed.session.input = "" ∧
      pressed.session.history = session.history ++ remembered session.input := by
  rw [press_enter_outcome] at reached
  obtain ⟨entered, entering, rfl⟩ := Option.map_eq_some_iff.mp reached
  obtain ⟨-, kept⟩ := replay_of_enter entering (List.prefix_refl _)
  rw [← outcome_session entering] at kept
  exact ⟨rfl, kept⟩

/-- What a request makes of the buffer and the history is told by the buffer before it. -/
theorem Request.typing_of_perform {request : Request} {session : Session}
    {outcome : Outcome Answer} (reached : request.perform.outcome session = some outcome) :
    outcome.session.input = request.bufferAfter session.input ∧
      outcome.session.history =
        session.history ++ (request.submitted? session.input).toList.flatMap remembered := by
  cases request with
  | key key =>
      by_cases entered : key = .enter
      case pos =>
        subst entered
        rw [perform_enter_outcome] at reached
        obtain ⟨pressed, pressing, rfl⟩ := Option.map_eq_some_iff.mp reached
        obtain ⟨input, history⟩ := typing_of_enter pressing
        exact ⟨input, by simpa [submitted?] using history⟩
      case neg =>
        rw [perform, bind_outcome_of_reached (press_outcome_of_ne_enter entered session)] at reached
        cases reached
        cases key with
        | enter => exact absurd rfl entered
        | _ => exact ⟨rfl, (List.append_nil _).symm⟩
  | submit text =>
      rw [perform, bind_pure_outcome, submit_outcome, Option.map_map] at reached
      obtain ⟨pressed, pressing, rfl⟩ := Option.map_eq_some_iff.mp reached
      obtain ⟨input, history⟩ := typing_of_enter pressing
      exact ⟨input, by simpa [submitted?, Outcome.after] using history⟩
  | _ =>
      obtain ⟨input, history⟩ := typing_of_keyless rfl reached
      exact ⟨input, history.trans (List.append_nil _).symm⟩

/-- So what any requests make of the buffer and the history is told by the buffer at the start. -/
theorem Request.typing_of_performAll {requests : List Request} {session : Session}
    {outcome : Outcome (List Answer)}
    (reached : (performAll requests).outcome session = some outcome) :
    outcome.session.input = requests.foldl bufferAfter session.input ∧
      outcome.session.history =
        session.history ++ (submissions session.input requests).flatMap remembered := by
  induction requests generalizing session outcome with
  | nil =>
      cases reached
      exact ⟨rfl, (List.append_nil _).symm⟩
  | cons request requests inductionHypothesis =>
      rw [performAll_cons] at reached
      obtain ⟨first, rest, performed, following, rfl⟩ := bind_outcome_eq_some_iff.mp reached
      rw [bind_pure_outcome] at following
      obtain ⟨last, done, rfl⟩ := Option.map_eq_some_iff.mp following
      obtain ⟨input, history⟩ := typing_of_perform performed
      obtain ⟨inputLater, historyLater⟩ := inductionHypothesis done
      rw [input] at inputLater historyLater
      refine ⟨inputLater, ?_⟩
      show last.session.history = _
      rw [historyLater, history, submissions, List.flatMap_append, List.append_assoc]

/-! ### Throughout a run -/

/-- All that edits the buffer or adds to the history is done by keys. -/
def Keyed (session : Session) (journal : List Event) : Prop :=
  Throughout (fun now event _ => event.isTyping = true → event.IsKeystroke now) session journal

namespace Keyed

variable {session : Session} {event : Event} {first second : List Event}

theorem single (quiet : event.isTyping = false) : Keyed session [event] :=
  ⟨fun typing => absurd (quiet.symm.trans typing) Bool.false_ne_true, trivial⟩

theorem keystroke (happens : event.IsKeystroke session) : Keyed session [event] :=
  ⟨fun _ => happens, trivial⟩

theorem effect (happens : event.IsEffect session) : Keyed session [event] := by
  cases happens <;> exact single rfl

theorem append (before : Keyed session first) (after : Keyed (session.replay first) second) :
    Keyed session (first ++ second) :=
  Throughout.append (fun _ _ _ _ holds => holds) before after

end Keyed

def Course.keyed : Course :=
  .ofJournals Keyed (fun _ => trivial) .append .effect

theorem Course.keyed_isLocal : Course.keyed.IsLocal where
  started _ := ofJournals_some (.single rfl)
  finished _ _ := ofJournals_some (.single rfl)
  refused _ := ofJournals_some (.single rfl)
  nested _ inside := ofJournals_map inside fun _ keyed => ⟨nofun, keyed.append (.single rfl)⟩
  entered _ _ := ofJournals_some (.single rfl)
  remark := by
    intro session event happens
    cases happens <;> exact ofJournals_some (.single rfl)
  endless _ := ofJournals_none

theorem Course.follows_performAll_keyed (requests : List Request) :
    (Request.performAll requests).Follows .keyed :=
  keyed_isLocal.follows_performAll (fun happens => ofJournals_some (.keystroke happens)) requests

theorem isPrintable_empty : IsPrintable "" := by
  simp [IsPrintable]

/-- No key puts a control character into the buffer. -/
theorem IsPrintable.edit {input : String} (printable : IsPrintable input) (key : Key) :
    IsPrintable (key.edit input) := by
  intro c member
  cases key with
  | character typed =>
      rw [Key.edit] at member
      split at member
      next => exact printable c member
      next seen =>
        rw [String.toList_push, List.mem_append, List.mem_singleton] at member
        rcases member with before | rfl
        · exact printable c before
        · exact Bool.eq_false_iff.mpr seen
  | backspace =>
      rw [Key.edit, String.toList_ofList] at member
      exact printable c (List.mem_of_mem_dropLast member)
  | enter => exact printable c member
  | other name => exact printable c member

theorem Session.IsPrintable.apply {session : Session} {event : Event}
    (printable : session.IsPrintable) (keyed : event.isTyping = true → event.IsKeystroke session) :
    (session.apply event).IsPrintable := by
  cases event with
  | inputChanged input =>
      refine ⟨?_, printable.history⟩
      cases keyed rfl with
      | inputChanged key => exact printable.input.edit key
      | inputEmptied => exact isPrintable_empty
  | lineRemembered line =>
      refine ⟨printable.input, ?_⟩
      cases keyed rfl with
      | lineRemembered seen =>
          intro line member
          rcases List.mem_append.mp member with before | last
          · exact printable.history line before
          · exact List.mem_singleton.mp last ▸ printable.input
  | _ => exact ⟨printable.input, printable.history⟩

theorem Session.IsPrintable.replay {session : Session} {journal : List Event}
    (printable : session.IsPrintable) (keyed : Keyed session journal) :
    (session.replay journal).IsPrintable := by
  induction journal generalizing session with
  | nil => exact printable
  | cons event journal inductionHypothesis =>
      exact inductionHypothesis (printable.apply keyed.1) keyed.2

/-- An event that adds to the history adds the buffer, which has tokens then. -/
theorem Event.IsKeystroke.of_history_ne {session : Session} {event : Event}
    (keyed : event.isTyping = true → event.IsKeystroke session)
    (changed : (session.apply event).history ≠ session.history) :
    event = .lineRemembered session.input ∧ Line.tokens session.input ≠ .ok [] := by
  cases event with
  | lineRemembered line =>
      cases keyed rfl with
      | lineRemembered seen =>
          refine ⟨rfl, fun none => ?_⟩
          exact Bool.false_ne_true (seen.symm.trans ((Line.tokens_eq_nil_iff _).mp none))
  | _ => exact absurd rfl changed

/-- Whatever is asked of a session from its start on:

* Behind any number of requests the buffer holds what keys have left there, and the history lists
  the buffers at which Enter was pressed, in this order, those left out that split into no tokens.
* An event on the way that changes the history adds the buffer as it is then, which has tokens.
* At no point there is a control character in the buffer or in a line of the history.
-/
theorem history_lists_submissions (config : Config) {requests : List Request}
    {outcome : Outcome (List Answer)}
    (reached : (Request.performAll requests).outcome config.session = some outcome) :
    (∀ before after, requests = before ++ after → ∃ earlier,
      (Request.performAll before).outcome config.session = some earlier ∧
        earlier.session.input = before.foldl Request.bufferAfter "" ∧
        earlier.session.history =
          (Request.submissions "" before).filter fun line => Line.tokens line ≠ .ok []) ∧
    (∀ past event rest, outcome.journal = past ++ event :: rest →
      let now := config.session.replay past
      (now.apply event).history ≠ now.history →
        event = .lineRemembered now.input ∧ Line.tokens now.input ≠ .ok []) ∧
    ∀ past rest, outcome.journal = past ++ rest → (config.session.replay past).IsPrintable := by
  have keyed : Keyed config.session outcome.journal :=
    Course.admits_of_outcome (Course.follows_performAll_keyed requests) reached
  refine ⟨?_, ?_, ?_⟩
  · rintro before after rfl
    rw [Request.performAll_append] at reached
    obtain ⟨earlier, -, performed, -, -⟩ := bind_outcome_eq_some_iff.mp reached
    obtain ⟨input, history⟩ := Request.typing_of_performAll performed
    refine ⟨earlier, performed, input, ?_⟩
    rw [history, flatMap_remembered]
    exact List.nil_append _
  · intro past event rest split now changed
    exact Event.IsKeystroke.of_history_ne
      (Throughout.iff_forall_split.mp keyed past event rest split) changed
  · intro past rest split
    have start : config.session.IsPrintable := ⟨isPrintable_empty, nofun⟩
    rw [split] at keyed
    exact start.replay (Throughout.left (fun _ _ _ _ holds => holds) keyed)

/-- Lines that are typed, among them one with a tab in it, one of blanks, one of nothing but quotes
and one that cannot be read, and a line that is entered without keys. -/
def mixedRequests : List Request := [
  .key (.character 'l'), .key (.character '\t'), .key (.character 's'), .key .enter,
  .submit "  ", .submit "\"\"", .submit "cd \"attic", .line "pwd"]

/-- Only the blank line and the one that was not typed are left out. -/
theorem history_lists_submissions_mixed :
    Request.submissions "" mixedRequests = ["ls", "  ", "\"\"", "cd \"attic"] ∧
    ∃ outcome, (Request.performAll mixedRequests).outcome ({} : Config).session = some outcome ∧
      outcome.session.history = ["ls", "\"\"", "cd \"attic"] ∧
      outcome.session.IsPrintable := by
  have ends : ((Request.performAll mixedRequests).outcome ({} : Config).session).isSome = true := by
    decide +kernel
  have kept : ((Request.submissions "" mixedRequests).filter fun line =>
      Line.tokens line ≠ .ok []) = ["ls", "\"\"", "cd \"attic"] := by decide +kernel
  obtain ⟨outcome, reached⟩ := Option.isSome_iff_exists.mp ends
  obtain ⟨lists, -, printable⟩ := history_lists_submissions {} reached
  obtain ⟨last, same, -, history⟩ := lists mixedRequests [] (List.append_nil _).symm
  obtain rfl := Option.some.inj (reached.symm.trans same)
  refine ⟨by decide +kernel, outcome, reached, history.trans kept, ?_⟩
  rw [outcome_session reached]
  exact printable outcome.journal [] (List.append_nil _).symm

end VirtualTerminal
