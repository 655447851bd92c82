import VirtualTerminal.Proofs.Session.Coupling
import VirtualTerminal.Proofs.Session.Termination

/-!
# Script files

Running a script file does what entering its lines one after the other does.  The lines are the
same; in the file they are one script deeper and share the commands of the line that runs it, while
each line of its own has all its commands still to spend.  So whatever the limits allow inside the
file they allow outside as well.
-/

namespace VirtualTerminal

/-- One script less is open outside than inside, and no more commands are counted. -/
structure Meter.IsOutside (outer inner : Meter) : Prop where
  depth : inner.depth = outer.depth + 1
  commands : outer.commands ≤ inner.commands

namespace Meter.IsOutside

variable {outer inner : Meter}

theorem count (outside : outer.IsOutside inner) : outer.count.IsOutside inner.count where
  depth := outside.depth
  commands := Nat.succ_le_succ outside.commands

theorem deeper (outside : outer.IsOutside inner) : outer.deeper.IsOutside inner.deeper where
  depth := congrArg Nat.succ outside.depth
  commands := outside.commands

theorem shallower (outside : outer.IsOutside inner) (positive : 0 < outer.depth) :
    outer.shallower.IsOutside inner.shallower where
  depth := by
    rw [Meter.shallower, Meter.shallower, outside.depth]
    exact (Nat.sub_add_cancel positive).symm
  commands := outside.commands

/-- No line inside a script gives the commands back; outside one may. -/
theorem atLine (outside : outer.IsOutside inner) : outer.atLine.IsOutside inner.atLine := by
  have nested : inner.depth ≠ 0 := outside.depth ▸ Nat.succ_ne_zero outer.depth
  rw [show inner.atLine = inner from if_neg nested]
  constructor
  case depth => rw [Meter.depth_atLine, outside.depth]
  case commands =>
    unfold Meter.atLine
    split
    next => exact Nat.zero_le _
    next => exact outside.commands

end Meter.IsOutside

/-- The second session is the first from outside a script that is open in the first. -/
def Session.IsInside (inner outer : Session) : Prop :=
  ∃ meter : Meter, meter.IsOutside inner.meter ∧ outer = { inner with meter := meter }

theorem Session.IsInside.apply {inner outer : Session} {event : Event}
    (inside : inner.IsInside outer)
    (closes : event = .nestedScriptClosed → 0 < outer.meter.depth) :
    (inner.apply event).IsInside (outer.apply event) := by
  obtain ⟨meter, outside, rfl⟩ := inside
  cases event with
  | lineEntered line => exact ⟨_, outside.atLine, rfl⟩
  | commandCounted => exact ⟨_, outside.count, rfl⟩
  | nestedScriptOpened => exact ⟨_, outside.deeper, rfl⟩
  | nestedScriptClosed => exact ⟨_, outside.shallower (closes rfl), rfl⟩
  | _ => exact ⟨_, outside, rfl⟩

/-- A session inside a script beside the same outside, where that inside reaches no limit. -/
def Coupling.outwards : Coupling where
  Alike := Session.IsInside
  Admits event := ∀ limit, event ≠ .limitReached limit
  depth := Nat.pred
  same := fun ⟨meter, _, outer⟩ => ⟨_, _, meter, outer⟩
  depth_eq := by
    rintro inner _ ⟨meter, outside, rfl⟩
    exact (congrArg Nat.pred outside.depth).symm
  room := by
    rintro inner _ ⟨meter, outside, rfl⟩ room
    rw [outside.depth] at room
    exact Nat.lt_of_succ_lt room
  left := by
    rintro inner _ ⟨meter, outside, rfl⟩ left
    exact Nat.lt_of_le_of_lt outside.commands left
  full _ unlimited := absurd rfl (unlimited _)
  spent _ unlimited := absurd rfl (unlimited _)
  apply := Session.IsInside.apply

namespace SessionM

/-- A line inside a script is coupled with the same line outside; `enter` finds room for it. -/
theorem couples_enter (nesting : Nat) (line : String) :
    (enterWithin nesting line).Couples .outwards (enter line) := by
  intro inner outer alike outcome reached admitted
  have ⟨meter, outside, same⟩ := alike
  have nested : 0 < inner.meter.depth :=
    Nat.lt_of_lt_of_eq (Nat.succ_pos meter.depth) outside.depth.symm
  have room : inner.limits.commands + 1 ≤ outer.nestingBound line := by
    have bound := outer.commands_lt_nestingBound line
    rwa [same] at bound ⊢
  rw [enter_outcome]
  exact couples_enterWithin room line inner outer alike outcome
    (enterWithin_outcome_of_nested nested reached) admitted

/-- So it is with a line that is entered: its bound on open lines does not count commands. -/
theorem enter_outcome_atLine (session : Session) (line : String) :
    (enter line).outcome { session with meter := session.meter.atLine } =
      (enter line).outcome session := by
  rw [enter_outcome, enter_outcome]
  exact enterStep_outcome_atLine _ session line

/-- A script outside nested scripts does not see it either: its first line resets the count. -/
theorem playScript_outcome_atLine (session : Session) (script : String) :
    (playScript enter script).outcome { session with meter := session.meter.atLine } =
      (playScript enter script).outcome session := by
  obtain ⟨first, rest, lines⟩ : ∃ first rest, Text.lines script = first :: rest := ⟨_, _, rfl⟩
  have entered : (enter first).outcome
        (({ session with meter := session.meter.atLine } : Session).apply
          (.scriptStarted session.meter.depth)) =
      (enter first).outcome (session.apply (.scriptStarted session.meter.depth)) :=
    enter_outcome_atLine session first
  simp only [playScript, playLines, lines, fold_cons, bind_assoc, read_bind, note_bind,
    Meter.depth_atLine]
  rw [bind_outcome, bind_outcome, entered]

end SessionM

open SessionM

variable {enter : String → SessionM Reply} {session : Session} {line path script : String}
  {command : Command} {further : List String}

/-- A text file that is run reaches a limit, or its lines are played. -/
theorem played_of_runFile {running : Outcome Reply}
    (found : session.findText path = .ok script)
    (reached : (runFile enter (path :: further)).outcome session = some running)
    (unlimited : ∀ limit, .limitReached limit ∉ running.journal) :
    running.value = .nothing ∧
      ∃ played,
        (playScript enter script).outcome (session.apply .nestedScriptOpened) = some played ∧
        running.journal = .nestedScriptOpened :: (played.journal ++ [.nestedScriptClosed]) := by
  obtain ⟨name, file⟩ := Session.findFile_of_findText found
  rw [runFile, read_bind, file] at reached
  obtain ⟨nested, ending, tried, ended, rfl⟩ := bind_outcome_eq_some_iff.mp reached
  rcases Nat.lt_or_ge session.meter.depth session.limits.depth with room | full
  · rw [playNested_outcome_of_room room] at tried
    obtain ⟨played, playing, rfl⟩ := Option.map_eq_some_iff.mp tried
    cases ended
    exact ⟨rfl, played, playing, List.append_nil _⟩
  · rw [playNested_outcome_of_full full] at tried
    cases tried
    exact absurd List.mem_cons_self (unlimited _)

/-- A line that runs a text file reaches a limit, or plays the lines of the file. -/
theorem played_of_entered {reply : Reply} {journal : List Event}
    (called : session.registry.called? line = some (command, path :: further))
    (builtin : command.handler = .builtin .run)
    (found : session.findText path = .ok script)
    (entered : Entered enter session line reply journal)
    (unlimited : ∀ limit, .limitReached limit ∉ journal) :
    reply = .nothing ∧
      ∃ played, (playScript enter script).outcome
          ((session.replay (session.opening line ++ calling line command (path :: further))).apply
            .nestedScriptOpened) = some played ∧
        journal = session.opening line ++ calling line command (path :: further) ++
          (.nestedScriptOpened :: (played.journal ++ [.nestedScriptClosed]) ++
            closing line .nothing) := by
  cases entered with
  | uncalled uncalled => exact absurd (uncalled.symm.trans called) nofun
  | refused =>
      have refused : .limitReached (.commands session.limits.commands) ∈ session.refusal line := by
        simp [Session.refusal]
      exact absurd refused (unlimited _)
  | @handled _ _ handling other left handled =>
      cases called.symm.trans other
      have here : (session.replay
          (session.opening line ++ calling line command (path :: further))).findText path =
          .ok script := found
      rw [handle, builtin] at handled
      obtain ⟨nothing, played, playing, inside⟩ := played_of_runFile here handled
        fun limit member => unlimited limit (by simp [member])
      refine ⟨nothing, played, playing, ?_⟩
      rw [nothing, inside]

theorem Session.isInside_opened (session : Session) (line : String) (command : Command)
    (arguments : List String) :
    ((session.replay (session.opening line ++ calling line command arguments)).apply
      .nestedScriptOpened).IsInside (session.replay (session.opening line)) :=
  ⟨session.meter.atLine, ⟨rfl, Nat.le_succ _⟩, rfl⟩

/-- At whatever depth a line runs a text file, it comes to an end, be there commands that enter each
other without end or not.  If it reaches no limit on the way it succeeds without a message, and what
it leaves, the meter apart, is what the text leaves when it is played as a script behind the echo of
the line: the log, the working directory, the prompt, the input and the history; and the host is
called in the same way. -/
theorem run_leaves_what_script_leaves (registered : session.registry.get? "run" = some command)
    (builtin : command.handler = .builtin .run)
    (tokens : Line.tokens line = .ok ("run" :: path :: further))
    (found : session.findText path = .ok script) :
    ∃ outcome, (SessionM.enter line).outcome session = some outcome ∧
      ((∀ limit, .limitReached limit ∉ outcome.journal) →
        outcome.value = .ok none ∧
        ∃ played, (playScript SessionM.enter script).outcome
            { session with log := session.log ++ (session.prompt ++ line) ++ "\n" } = some played ∧
          outcome.session = { played.session with meter := outcome.session.meter } ∧
          hostCalls outcome.journal = hostCalls played.journal) := by
  have called : session.registry.called? line = some (command, path :: further) := by
    simp [Registry.called?, tokens, registered]
  obtain ⟨outcome, reached⟩ := enter_ends_of_called fun other arguments calls => by
    cases called.symm.trans calls
    simp [Command.entersLines, builtin]
  refine ⟨outcome, reached, fun unlimited => ?_⟩
  obtain ⟨nesting, bound⟩ : ∃ nesting, session.nestingBound line = nesting + 1 := ⟨_, rfl⟩
  rw [enter_outcome, bound] at reached
  obtain ⟨nothing, inner, playing, journal⟩ :=
    played_of_entered called builtin found (entered_of_outcome reached) unlimited
  obtain ⟨outer, done, plays⟩ :=
    couples_playScript (couples_enter nesting) script _ _
      (session.isInside_opened line command (path :: further)) inner playing
      fun event member limit same => unlimited limit (by simp [journal, ← same, member])
  obtain ⟨meter, -, same⟩ := plays.alike
  have closed : outcome.session = inner.session.apply .nestedScriptClosed := by
    rw [outcome_session reached, journal, outcome_session playing]
    simp [closing, failure, Session.apply, Reply.nothing]
  refine ⟨nothing, outer, ?_, ?_, ?_⟩
  · -- Outside, the first line of the script gives the commands back.
    rw [← playScript_outcome_atLine]
    exact done
  · rw [closed, same]
    rfl
  · rw [journal, plays.journal, hostCalls_map_mapDepth]
    simp [hostCalls, List.filterMap_cons, Event.hostCall?, Session.opening, calling, closing,
      failure, Reply.nothing]

/-- A script that moves, fails, runs another script and asks the host to exit. -/
def tour : String :=
  "cd games\ncd nowhere\nrun ../return\nagain exit\nclear\nls"

/-- A session with just the room that the tour needs, and a command that enters lines. -/
def touringSession : Session :=
  let files := .file { name := "return", content := .text "cd ..\nunheard of\npwd" } <|
    .directory "games" .nil .nil
  Config.session {
    layout := { entries := .file { name := "tour", content := .text tour } files }
    commands := [{
      keyword := "again"
      name := "Again"
      description := "Enters its arguments as a line."
      handler := .directives [.lineOfArguments] }]
    host := { exit := some [.changeDirectory "games"] }
    limits := { depth := 2, commands := 10 } }

/-- The tour ends in the directory that the host moves to, with the log of its last line. -/
theorem run_leaves_what_script_leaves_tour :
    ∃ outcome, (SessionM.enter "run tour now").outcome touringSession = some outcome ∧
      outcome.value = .ok none ∧
      ∃ played, (playScript SessionM.enter tour).outcome
          { touringSession with log := "/ $ run tour now\n" } = some played ∧
        played.session.directory = 1 ∧
        played.session.log = "/games/ $ ls\n" ∧
        outcome.session = { played.session with meter := outcome.session.meter } ∧
        hostCalls outcome.journal = [.exit] ∧ hostCalls played.journal = [.exit] := by
  have found : touringSession.findText "tour" = .ok tour := by decide +kernel
  have tokens : Line.tokens "run tour now" = .ok ["run", "tour", "now"] := by decide +kernel
  have registered : touringSession.registry.get? "run" = some Builtin.run.command := by
    decide +kernel
  have ends : ((SessionM.enter "run tour now").outcome touringSession).any (fun outcome =>
      outcome.journal.all (fun event => !event matches .limitReached _) ∧
        outcome.session.directory = 1 ∧ outcome.session.log = "/games/ $ ls\n" ∧
        hostCalls outcome.journal = [.exit]) = true := by decide +kernel
  obtain ⟨outcome, reached, holds⟩ := (Option.any_eq_true _ _).mp ends
  obtain ⟨allowed, directory, log, calls⟩ := of_decide_eq_true holds
  have unlimited : ∀ limit, .limitReached limit ∉ outcome.journal := fun limit member =>
    absurd (List.all_eq_true.mp allowed _ member) nofun
  obtain ⟨other, again, leaves⟩ := run_leaves_what_script_leaves registered rfl tokens found
  obtain rfl := Option.some.inj (reached.symm.trans again)
  obtain ⟨nothing, played, playing, left, called⟩ := leaves unlimited
  rw [left] at directory log
  exact ⟨outcome, reached, nothing, played, playing, directory, log, left, calls, called ▸ calls⟩

end VirtualTerminal
