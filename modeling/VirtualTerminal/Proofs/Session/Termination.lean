import VirtualTerminal.Proofs.Session.Coupling

/-!
# Lines that come to an end

A nested line is only entered by a command that was counted and allowed, and inside nested scripts
the count is never reset.  So lines come to an end in every session whose commands enter lines only
through nested scripts.
-/

namespace VirtualTerminal

open SessionM

/-- A step ends, in sessions that have counted `commands` commands and are at least `least` deep, at
the same depth and with no fewer commands counted. -/
def Course.returning (surroundings : Surroundings) (least commands : Nat) : Course where
  Holds session next := session.toSurroundings = surroundings → least ≤ session.meter.depth →
    commands ≤ session.meter.commands → ∃ journal, next = some journal ∧
      (session.replay journal).meter.depth = session.meter.depth ∧
      commands ≤ (session.replay journal).meter.commands
  nothing session _ _ counted := ⟨[], rfl, rfl, counted⟩
  onward := by
    intro session journal next before after same deep counted
    obtain ⟨_, ⟨⟩, depth, further⟩ := before same deep counted
    have sameLater := (session.replay_toSurroundings journal).trans same
    obtain ⟨later, rfl, depthLater, last⟩ := after sameLater (depth ▸ deep) further
    refine ⟨journal ++ later, rfl, ?_⟩
    rw [Session.replay_append]
    exact ⟨depthLater.trans depth, last⟩
  effect := by
    intro session event happens _ _ counted
    refine ⟨[event], rfl, ?_⟩
    cases happens <;> exact ⟨rfl, counted⟩

namespace Course

variable {surroundings : Surroundings} {least commands : Nat} {enter : String → SessionM Reply}

theorem returning_admitsScripts : (returning surroundings least commands).AdmitsScripts where
  started _ _ _ counted := ⟨_, rfl, rfl, counted⟩
  finished _ _ _ _ counted := ⟨_, rfl, rfl, counted⟩
  refused _ _ _ counted := ⟨_, rfl, rfl, counted⟩
  nested := by
    intro session next _ inside same deep counted
    obtain ⟨journal, rfl, depth, further⟩ := inside same (Nat.le_succ_of_le deep) counted
    refine ⟨_, rfl, ?_⟩
    rw [Session.replay_cons, Session.replay_append]
    exact ⟨congrArg Nat.pred depth, further⟩

/-- Inside nested scripts no line resets the count. -/
theorem returning_admitsLines (kept : 0 < least ∨ commands = 0) :
    (returning surroundings least commands).AdmitsLines where
  toAdmitsScripts := returning_admitsScripts
  entered := by
    intro session line _ deep counted
    refine ⟨_, rfl, Meter.depth_atLine, ?_⟩
    rcases kept with positive | rfl
    · have nested : session.meter.depth ≠ 0 := Nat.ne_of_gt (Nat.lt_of_lt_of_le positive deep)
      rw [Session.replay_cons, Session.replay_nil, Session.apply, Meter.atLine, if_neg nested]
      exact counted
    · exact Nat.zero_le _
  remark := by
    intro session event happens _ _ counted
    refine ⟨_, rfl, ?_⟩
    cases happens with
    | commandCounted => exact ⟨rfl, Nat.le_succ_of_le counted⟩
    | _ => exact ⟨rfl, counted⟩

/-- A call ends if handling it does while there are commands left. -/
theorem holds_dispatch_returning {session : Session} {line : String} {command : Command}
    {arguments : List String}
    (handled : commands < surroundings.limits.commands →
      (handle enter command arguments).Follows (returning surroundings least (commands + 1))) :
    (returning surroundings least commands).Holds session
      ((dispatch enter line command arguments).journal? session) := by
  intro same deep counted
  rcases Nat.lt_or_ge session.meter.commands session.limits.commands with left | spent
  · have counting := handled (Nat.lt_of_le_of_lt counted (same ▸ left))
    obtain ⟨journal, found, depth, further⟩ :=
      counting (session.apply .commandCounted) same deep (Nat.succ_le_succ counted)
    obtain ⟨outcome, reached, rfl⟩ := journal?_eq_some_iff.mp found
    refine ⟨_, by rw [journal?, dispatch_outcome_of_left _ left, reached]; rfl, ?_⟩
    exact ⟨depth, Nat.le_of_succ_le further⟩
  · refine ⟨_, by rw [journal?, dispatch_outcome_of_spent _ spent]; rfl, rfl, ?_⟩
    exact Nat.le_succ_of_le counted

/-- A nested script ends at any depth if its lines do one level deeper. -/
theorem follows_playNested_returning
    (lines : ∀ line, (enter line).Follows (returning surroundings (least + 1) commands))
    (script : String) :
    (playNested enter script).Follows (returning surroundings least commands) := by
  intro session same deep counted
  rcases Nat.lt_or_ge session.meter.depth session.limits.depth with room | full
  · have body := returning_admitsScripts.follows_playScript script (fun line _ => lines line)
      (session.apply .nestedScriptOpened)
    obtain ⟨journal, played, depth, further⟩ := body same (Nat.succ_le_succ deep) counted
    obtain ⟨outcome, reached, rfl⟩ := journal?_eq_some_iff.mp played
    refine ⟨_, by rw [journal?, playNested_outcome_of_room room, reached]; rfl, ?_⟩
    rw [Session.replay_cons, Session.replay_append]
    exact ⟨congrArg Nat.pred depth, further⟩
  · refine ⟨_, by rw [journal?, playNested_outcome_of_full full]; rfl, ?_⟩
    exact ⟨rfl, counted⟩

/-- Nested lines end if there is room for as many open lines as there are commands left. -/
theorem follows_enterWithin_returning (nesting : Nat)
    (room : surroundings.limits.commands ≤ commands + nesting) (line : String) :
    (enterWithin (nesting + 1) line).Follows (returning surroundings (least + 1) commands) := by
  induction nesting generalizing commands line with
  | zero =>
      apply (returning_admitsLines (.inl least.succ_pos)).follows_enterStep
      intro session command arguments _
      apply holds_dispatch_returning
      intro left
      omega
  | succ nesting inductionHypothesis =>
      apply (returning_admitsLines (.inl least.succ_pos)).follows_enterStep
      intro session command arguments _
      apply holds_dispatch_returning
      intro left
      have lines : ∀ line, (enterWithin (nesting + 1) line).Follows
          (returning surroundings (least + 1) (commands + 1)) := inductionHypothesis (by omega)
      exact returning_admitsScripts.follows_handle lines command arguments

end Course

theorem Session.commands_lt_nestingBound (session : Session) (line : String) :
    session.limits.commands < session.nestingBound line := by
  unfold Session.nestingBound
  omega

/-- `enter` finds enough room for the lines of nested scripts. -/
theorem Course.follows_enter_returning (surroundings : Surroundings) (line : String) :
    (SessionM.enter line).Follows (.returning surroundings 1 0) := by
  intro session same
  obtain ⟨nesting, bound⟩ : ∃ nesting, session.nestingBound line = nesting + 1 := ⟨_, rfl⟩
  have room : surroundings.limits.commands ≤ 0 + nesting := by
    have enough := session.commands_lt_nestingBound line
    rw [same] at enough
    omega
  rw [journal?, enter_outcome, bound]
  exact Course.follows_enterWithin_returning nesting room line session same

namespace SessionM

variable {session : Session}

/-- A line of a nested script comes to an end with no more lines open than there may be commands. -/
theorem enterWithin_ends_of_nested (nested : 0 < session.meter.depth) (line : String) :
    ∃ outcome, (enterWithin (session.limits.commands + 1) line).outcome session = some outcome := by
  have ends : (enterWithin (session.limits.commands + 1) line).Follows
      (.returning session.toSurroundings 1 0) :=
    Course.follows_enterWithin_returning _ (Nat.le_add_left _ 0) line
  obtain ⟨journal, found, -⟩ := ends session rfl nested (Nat.zero_le _)
  obtain ⟨outcome, done, -⟩ := journal?_eq_some_iff.mp found
  exact ⟨outcome, done⟩

/-- So does a script that is played inside another. -/
theorem playScript_ends_of_nested (nested : 0 < session.meter.depth) (script : String) :
    ∃ outcome, (playScript SessionM.enter script).outcome session = some outcome := by
  have lines := Course.follows_enter_returning session.toSurroundings
  obtain ⟨journal, found, -⟩ := Course.returning_admitsScripts.follows_playScript script
    (fun line _ => lines line) session rfl nested (Nat.zero_le _)
  obtain ⟨outcome, done, -⟩ := journal?_eq_some_iff.mp found
  exact ⟨outcome, done⟩

theorem enterWithin_outcome_of_nested {line : String} {nesting : Nat} {outcome : Outcome Reply}
    (nested : 0 < session.meter.depth)
    (reached : (enterWithin nesting line).outcome session = some outcome) :
    (enterWithin (session.limits.commands + 1) line).outcome session = some outcome := by
  obtain ⟨other, done⟩ := enterWithin_ends_of_nested nested line
  rw [done, enterWithin_outcome_unique done reached]

end SessionM

theorem Registry.mem_toList_of_get? {registry : Registry} {keyword : String} {command : Command}
    (registered : registry.get? keyword = some command) : command ∈ registry.toList := by
  obtain ⟨slot, _, stored⟩ := Option.bind_eq_some_iff.mp registered
  exact Array.mem_toList_iff.mpr (Array.mem_of_getElem? stored)

theorem Registry.mem_toList_of_called? {registry : Registry} {line : String} {command : Command}
    {arguments : List String} (called : registry.called? line = some (command, arguments)) :
    command ∈ registry.toList := by
  obtain ⟨keyword, -, registered⟩ := Registry.exists_keyword_of_called? called
  exact Registry.mem_toList_of_get? registered

/-- A line ends if the command that it calls enters lines only through nested scripts, whatever the
other commands do: inside nested scripts all lines end. -/
theorem enter_ends_of_called {session : Session} {line : String}
    (nests : ∀ command arguments, session.registry.called? line = some (command, arguments) →
      command.entersLines = false) :
    ∃ outcome, (enter line).outcome session = some outcome := by
  obtain ⟨nesting, bound, room⟩ : ∃ nesting, session.nestingBound line = nesting + 2 ∧
      session.limits.commands ≤ 1 + nesting := by
    refine ⟨session.nestingBound line - 2, ?_, ?_⟩ <;> unfold Session.nestingBound <;> omega
  have ends : (enterStep (enterWithin (nesting + 1)) line).Follows
      (.returning session.toSurroundings 0 0) := by
    apply (Course.returning_admitsLines (.inr rfl)).follows_enterStep
    intro now command arguments called same
    apply Course.holds_dispatch_returning (fun _ => ?_) same
    have enters : command.entersLines = false := nests command arguments (same ▸ called)
    apply Course.follows_handle
    · exact Course.follows_playNested_returning
        (Course.follows_enterWithin_returning nesting room)
    · exact fun other => absurd other (by simp [enters])
    · exact fun other => absurd other (by simp [enters])
  obtain ⟨journal, found, -⟩ := ends session rfl (Nat.zero_le _) (Nat.zero_le _)
  obtain ⟨outcome, reached, -⟩ := journal?_eq_some_iff.mp found
  exact ⟨outcome, by rw [enter_outcome, bound]; exact reached⟩

/-- Where commands enter lines only through nested scripts, every line ends. -/
theorem enter_ends {session : Session}
    (nests : ∀ command ∈ session.registry.toList, command.entersLines = false) (line : String) :
    ∃ outcome, (enter line).outcome session = some outcome :=
  enter_ends_of_called fun command _ called =>
    nests command (Registry.mem_toList_of_called? called)

/-- A step ends in sessions with certain surroundings. -/
def Course.ending (surroundings : Surroundings) : Course where
  Holds session next := session.toSurroundings = surroundings → next.isSome = true
  nothing _ _ := rfl
  onward := by
    intro session journal next _ after same
    rw [Option.isSome_map]
    exact after ((session.replay_toSurroundings journal).trans same)
  effect _ _ := rfl

theorem Course.ending_admitsScripts {surroundings : Surroundings} :
    (ending surroundings).AdmitsScripts where
  started _ _ := rfl
  finished _ _ _ := rfl
  refused _ _ := rfl
  nested := by
    intro session next _ inside same
    rw [Option.isSome_map]
    exact inside same

/-- Where commands enter lines only through nested scripts, whatever is asked of a session ends. -/
theorem perform_ends {session : Session}
    (nests : ∀ command ∈ session.registry.toList, command.entersLines = false)
    (request : Request) : ∃ outcome, request.perform.outcome session = some outcome := by
  have lines : ∀ line, (enter line).Follows (.ending session.toSurroundings) := by
    intro line now same
    rw [← congrArg Surroundings.registry same] at nests
    obtain ⟨outcome, reached⟩ := enter_ends nests line
    rw [journal?, reached]
    rfl
  have ends := Course.ending_admitsScripts.follows_perform lines (fun _ _ => rfl) request
    session rfl
  rw [journal?, Option.isSome_map] at ends
  exact Option.isSome_iff_exists.mp ends

end VirtualTerminal
