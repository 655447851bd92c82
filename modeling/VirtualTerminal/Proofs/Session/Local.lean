import VirtualTerminal.Proofs.Session.Course
import VirtualTerminal.Proofs.Session.Outcome

/-!
# Courses of lines and scripts

What a course must admit for scripts, lines and requests to follow it.  A course is local if it
judges one event at a time, save that what a nested script does stands between the event that opens
the script and the one that closes it; everything follows a local course.
-/

namespace VirtualTerminal

structure Course.AdmitsScripts (course : Course) : Prop where
  started : ∀ session, course.Holds session (some [.scriptStarted session.meter.depth])
  finished : ∀ session report, course.Holds session (some [.scriptFinished report])
  refused : ∀ {session}, session.limits.depth ≤ session.meter.depth →
    course.Holds session (some [.limitReached (.depth session.limits.depth)])
  nested : ∀ {session next}, session.meter.depth < session.limits.depth →
    course.Holds (session.apply .nestedScriptOpened) next →
    course.Holds session (next.map fun journal =>
      .nestedScriptOpened :: (journal ++ [.nestedScriptClosed]))

/-- What a line does apart from its start and its command. -/
inductive Event.IsRemark (session : Session) : Event → Prop
  | commandNotFound (keyword : String) : IsRemark session (.commandNotFound keyword)
  | commandCounted : IsRemark session .commandCounted
  | commandsSpent (spent : session.limits.commands < session.meter.commands) :
      IsRemark session (.limitReached (.commands session.limits.commands))
  | commandDispatched (left : session.meter.commands ≤ session.limits.commands)
      (keyword : String) (arguments : Nat) (line : String) :
      IsRemark session (.commandDispatched keyword arguments line)
  | commandFailed (error : Error) : IsRemark session (.commandFailed error)
  | lineLeft (line : String) (reply : Reply) : IsRemark session (.lineLeft line reply)

structure Course.AdmitsLines (course : Course) : Prop extends course.AdmitsScripts where
  entered : ∀ session line, course.Holds session (some [.lineEntered line])
  remark : ∀ {session event}, event.IsRemark session → course.Holds session (some [event])

structure Course.IsLocal (course : Course) : Prop extends course.AdmitsLines where
  endless : ∀ session, course.Holds session none

/-- What keys do by themselves. -/
inductive Event.IsKeystroke (session : Session) : Event → Prop
  | inputChanged (key : Key) : IsKeystroke session (.inputChanged (key.edit session.input))
  | inputEmptied : IsKeystroke session (.inputChanged "")
  | lineRemembered (seen : Text.isBlankText session.input = false) :
      IsKeystroke session (.lineRemembered session.input)

/-- The request presses keys. -/
def Request.pressesKeys : Request → Bool
  | .key _ | .submit _ => true
  | _ => false

namespace Course

open SessionM

variable {course : Course} {enter : String → SessionM Reply}

section

variable (lines : ∀ line, (SessionM.enter line).Follows course)
  (typing : ∀ {session event}, event.IsKeystroke session → course.Holds session (some [event]))
include lines typing

theorem follows_press (key : Key) : (press key).Follows course := by
  unfold press
  split
  next =>
    apply follows_read
    intro session
    refine holds_bind ?_ fun outcome _ => ?_
    · unfold remember
      split
      next => exact follows_pure () session
      next seen => exact typing (.lineRemembered (Bool.eq_false_iff.mpr seen))
    · exact follows_bind (lines _) (fun _ _ => typing .inputEmptied) outcome.session
  next => exact follows_read fun session => typing (.inputChanged _)

theorem follows_submit (text : String) : (submit text).Follows course := by
  apply follows_bind
  · apply follows_fold
    exact fun _ c _ => follows_press lines typing (.character c)
  · exact fun _ => follows_press lines typing .enter

end

namespace AdmitsScripts

variable (scripts : course.AdmitsScripts)
include scripts

theorem follows_playScript (script : String)
    (lines : ∀ line ∈ Text.lines script, (enter line).Follows course) :
    (playScript enter script).Follows course := by
  apply follows_read
  intro session
  refine holds_bind (scripts.started session) fun outcome _ =>
    follows_bind ?_ (fun report => ?_) _
  · apply follows_fold
    intro report line member
    exact follows_bind (lines line member) fun _ => follows_pure _
  · exact follows_bind (fun session => scripts.finished session report) fun _ => follows_pure _

theorem follows_playNested (lines : ∀ line, (enter line).Follows course) (script : String) :
    (playNested enter script).Follows course := by
  intro session
  rcases Nat.lt_or_ge session.meter.depth session.limits.depth with room | full
  · have played := scripts.follows_playScript script (fun line _ => lines line)
    have body := scripts.nested room (played _)
    rw [journal?, playNested_outcome_of_room room, Option.map_map]
    rw [journal?, Option.map_map] at body
    exact body
  · rw [journal?, playNested_outcome_of_full full]
    exact scripts.refused full

theorem follows_handle (lines : ∀ line, (enter line).Follows course) (command : Command)
    (arguments : List String) : (handle enter command arguments).Follows course :=
  Course.follows_handle (scripts.follows_playNested lines) command arguments (fun _ => lines)
    fun _ script => scripts.follows_playScript script fun line _ => lines line

/-- Lines follow a course if it admits what comes of a line whose command follows it. -/
theorem follows_enterWithin (endless : ∀ session, course.Holds session none)
    (entered : ∀ {nesting session line reply journal},
      Entered (enterWithin nesting) session line reply journal →
      (∀ command arguments, (handle (enterWithin nesting) command arguments).Follows course) →
      course.Holds session (some journal))
    (nesting : Nat) (line : String) : (enterWithin nesting line).Follows course := by
  induction nesting generalizing line with
  | zero => exact fun session => endless session
  | succ nesting inductionHypothesis =>
      intro session
      rw [enterWithin, journal?]
      cases reached : (enterStep (enterWithin nesting) line).outcome session with
      | none => exact endless session
      | some outcome =>
          exact entered (entered_of_outcome reached) (scripts.follows_handle inductionHypothesis)

section

variable (lines : ∀ line, (SessionM.enter line).Follows course)
include lines

theorem follows_perform_of_keyless {request : Request} (keyless : request.pressesKeys = false) :
    request.perform.Follows course := by
  cases request with
  | line text => exact follows_bind (lines text) fun _ => follows_pure _
  | script text =>
      have played := scripts.follows_playScript text fun line _ => lines line
      exact follows_bind played fun _ => follows_pure _
  | nestedScript text =>
      exact follows_bind (scripts.follows_playNested lines text) fun _ => follows_pure _
  | key key => cases keyless
  | submit text => cases keyless
  | changeDirectory path =>
      exact follows_bind (follows_changeDirectory path) fun _ => follows_pure _
  | call keyword arguments =>
      apply follows_read
      intro session
      cases session.registry.get? keyword with
      | none => exact follows_pure _ session
      | some command =>
          exact follows_bind (scripts.follows_handle lines command arguments)
            (fun _ => follows_pure _) session
  | log text => exact follows_bind (follows_log text) fun _ => follows_pure _
  | clear => exact follows_bind follows_clear fun _ => follows_pure _

variable
  (typing : ∀ {session event}, event.IsKeystroke session → course.Holds session (some [event]))
include typing

/-- Requests follow a course if lines do. -/
theorem follows_perform (request : Request) : request.perform.Follows course := by
  cases request with
  | key key =>
      apply follows_bind (follows_press lines typing key)
      exact fun _ => follows_read fun session => follows_pure _ session
  | submit text =>
      exact follows_bind (follows_submit lines typing text) fun _ => follows_pure _
  | _ => exact scripts.follows_perform_of_keyless lines rfl

end

end AdmitsScripts

namespace AdmitsLines

variable (admits : course.AdmitsLines)
include admits

theorem follows_remark {event : Event} (happens : ∀ session, event.IsRemark session) :
    (note event).Follows course :=
  fun session => admits.remark (happens session)

theorem follows_dispatch (lines : ∀ line, (enter line).Follows course) (line : String)
    (command : Command) (arguments : List String) :
    (dispatch enter line command arguments).Follows course := by
  apply follows_bind (admits.follows_remark fun _ => .commandCounted)
  intro _
  apply follows_read
  intro session
  rcases Nat.lt_or_ge session.limits.commands session.meter.commands with spent | left
  · rw [show session.meter.commandError? session.limits = some _ from if_pos spent]
    refine holds_bind (admits.remark (.commandsSpent spent)) fun outcome _ => ?_
    exact follows_pure _ outcome.session
  · rw [Meter.commandError?_eq_none_iff.mpr left]
    refine holds_bind (admits.remark (.commandDispatched left _ _ _)) fun outcome _ => ?_
    exact admits.follows_handle lines command arguments outcome.session

/-- A line follows a course if the command that it calls does. -/
theorem follows_enterStep (line : String)
    (dispatched : ∀ session command arguments,
      session.registry.called? line = some (command, arguments) →
      course.Holds session ((dispatch enter line command arguments).journal? session)) :
    (enterStep enter line).Follows course := by
  refine follows_bind ?_ fun _ => follows_bind ?_ fun reply =>
    follows_bind ?_ fun _ => follows_pure reply
  · apply follows_bind fun session => admits.entered session line
    exact fun _ => follows_read fun session => follows_log _ session
  · unfold interpret
    split
    next => exact follows_pure _
    next => exact follows_pure _
    next keyword arguments tokens =>
      apply follows_read
      intro session
      cases registered : session.registry.get? keyword with
      | some command =>
          apply dispatched session command arguments
          simp only [Registry.called?, tokens, registered, Option.map_some]
      | none =>
          have remarked := admits.follows_remark fun _ => .commandNotFound keyword
          refine follows_bind remarked (fun _ => ?_) session
          exact follows_bind (follows_log _) fun _ => follows_pure _
  · refine follows_bind ?_ fun _ => admits.follows_remark fun _ => .lineLeft line reply
    cases reply with
    | ok message => exact follows_pure ()
    | error error =>
        exact follows_bind (admits.follows_remark fun _ => .commandFailed error) fun _ =>
          follows_log _

end AdmitsLines

namespace IsLocal

variable (loc : course.IsLocal)
include loc

theorem follows_enterWithin (nesting : Nat) (line : String) :
    (enterWithin nesting line).Follows course := by
  induction nesting generalizing line with
  | zero => exact fun session => loc.endless session
  | succ nesting inductionHypothesis =>
      exact loc.follows_enterStep line fun session command arguments _ =>
        loc.follows_dispatch inductionHypothesis line command arguments session

theorem follows_enter (line : String) : (SessionM.enter line).Follows course :=
  follows_read fun session => loc.follows_enterWithin (session.nestingBound line) line session

section

variable
  (typing : ∀ {session event}, event.IsKeystroke session → course.Holds session (some [event]))
include typing

theorem follows_perform (request : Request) : request.perform.Follows course :=
  loc.toAdmitsScripts.follows_perform loc.follows_enter typing request

theorem follows_performAll (requests : List Request) :
    (Request.performAll requests).Follows course := by
  induction requests with
  | nil => exact follows_pure []
  | cons request requests inductionHypothesis =>
      apply follows_bind (loc.follows_perform typing request)
      exact fun _ => follows_bind inductionHypothesis fun _ => follows_pure _

end

end IsLocal

end Course

end VirtualTerminal
