import Mathlib.Data.Finset.Card
import VirtualTerminal.Command.Registry

/-!
# Registering commands

A registry holds its commands in the order in which their keywords were first registered, and beside
them an index of their places.  Registering a command under a keyword that is known already changes
the command in that place and nothing else.
-/

namespace VirtualTerminal.Registry

/-- The index leads from each keyword to its place and holds nothing else. -/
structure IsIndexed (registry : Registry) : Prop where
  slot?_eq_some_iff : ∀ keyword slot,
    registry.slot? keyword = some slot ↔ registry.keywords[slot]? = some keyword
  stored : ∀ entry ∈ registry.index, registry.slot? entry.1 = some entry.2

variable {registry : Registry} {command : Command} {keyword : String} {slot : Nat}

theorem getElem?_keywords (registry : Registry) (slot : Nat) :
    registry.keywords[slot]? = registry.commands[slot]?.map Command.keyword := by
  simp [keywords, toList]

@[simp]
theorem length_keywords (registry : Registry) : registry.keywords.length = registry.size := by
  simp [keywords, toList, size]

theorem register_of_known (known : registry.slot? command.keyword = some slot) :
    registry.register command =
      { registry with commands := registry.commands.setIfInBounds slot command } := by
  rw [register, known]

theorem register_of_new (new : registry.slot? command.keyword = none) :
    registry.register command = {
      commands := registry.commands.push command
      index := (command.keyword, registry.size) :: registry.index } := by
  rw [register, new]
  rfl

theorem keywords_register_of_new (new : registry.slot? command.keyword = none) :
    (registry.register command).keywords = registry.keywords ++ [command.keyword] := by
  simp [register_of_new new, keywords, toList]

theorem slot?_register_of_known (known : registry.slot? command.keyword = some slot)
    (keyword : String) : (registry.register command).slot? keyword = registry.slot? keyword := by
  rw [register_of_known known]
  rfl

theorem slot?_register_of_new (new : registry.slot? command.keyword = none) (keyword : String) :
    (registry.register command).slot? keyword =
      if keyword = command.keyword then some registry.size else registry.slot? keyword := by
  rw [register_of_new new, slot?, List.lookup_cons]
  by_cases same : keyword = command.keyword
  · simp [same]
  · simp [beq_false_of_ne same, same, slot?]

namespace IsIndexed

theorem empty : IsIndexed {} where
  slot?_eq_some_iff := by simp [slot?, keywords, toList]
  stored := by simp

variable (indexed : registry.IsIndexed)
include indexed

theorem lt_size (known : registry.slot? keyword = some slot) : slot < registry.size := by
  obtain ⟨inside, -⟩ := List.getElem?_eq_some_iff.mp ((indexed.slot?_eq_some_iff _ _).mp known)
  rwa [length_keywords] at inside

theorem slot?_eq_none_iff : registry.slot? keyword = none ↔ keyword ∉ registry.keywords := by
  rw [List.mem_iff_getElem?, Option.eq_none_iff_forall_ne_some, not_exists]
  exact forall_congr' fun slot => not_congr (indexed.slot?_eq_some_iff keyword slot)

theorem keywords_nodup : registry.keywords.Nodup := by
  rw [List.nodup_iff_getElem?_ne_getElem?]
  intro first second before inside same
  have keyword := List.getElem?_eq_getElem inside
  have there := (indexed.slot?_eq_some_iff _ _).mpr keyword
  have here := (indexed.slot?_eq_some_iff _ _).mpr (same.trans keyword)
  exact Nat.ne_of_lt before (Option.some.inj (here.symm.trans there))

theorem keywords_register_of_known (known : registry.slot? command.keyword = some slot) :
    (registry.register command).keywords = registry.keywords := by
  obtain ⟨inside, here⟩ :=
    List.getElem?_eq_some_iff.mp ((indexed.slot?_eq_some_iff _ _).mp known)
  have replaced : (registry.register command).keywords =
      registry.keywords.set slot command.keyword := by
    simp [register_of_known known, keywords, toList]
  rw [replaced, ← here, List.set_getElem_self]

/-- The keywords stay in place, and a new one comes last. -/
theorem keywords_register :
    (registry.register command).keywords =
      if command.keyword ∈ registry.keywords then registry.keywords
      else registry.keywords ++ [command.keyword] := by
  cases found : registry.slot? command.keyword with
  | some slot =>
      have known : command.keyword ∈ registry.keywords :=
        List.mem_of_getElem? ((indexed.slot?_eq_some_iff _ _).mp found)
      rw [if_pos known, indexed.keywords_register_of_known found]
  | none => rw [if_neg (indexed.slot?_eq_none_iff.mp found), keywords_register_of_new found]

theorem register (command : Command) : (registry.register command).IsIndexed := by
  cases found : registry.slot? command.keyword with
  | some place =>
      constructor
      case slot?_eq_some_iff =>
        intro keyword slot
        rw [slot?_register_of_known found, indexed.keywords_register_of_known found]
        exact indexed.slot?_eq_some_iff keyword slot
      case stored =>
        intro entry member
        rw [register_of_known found] at member
        rw [slot?_register_of_known found]
        exact indexed.stored entry member
  | none =>
      have new := indexed.slot?_eq_none_iff.mp found
      constructor
      case slot?_eq_some_iff =>
        intro keyword slot
        rw [slot?_register_of_new found, keywords_register_of_new found, List.getElem?_append,
          length_keywords]
        have before := indexed.slot?_eq_some_iff keyword slot
        by_cases same : keyword = command.keyword
        · subst same
          have absent : registry.keywords[slot]? ≠ some command.keyword :=
            fun held => new (List.mem_of_getElem? held)
          grind
        · have outside : registry.size ≤ slot → registry.keywords[slot]? = none := by
            intro past
            exact List.getElem?_eq_none (by rwa [length_keywords])
          grind
      case stored =>
        intro entry member
        rw [register_of_new found] at member
        rw [slot?_register_of_new found]
        rcases List.mem_cons.mp member with rfl | member
        · exact if_pos rfl
        · have before := indexed.stored entry member
          have other : entry.1 ≠ command.keyword := by
            rintro same
            rw [same, found] at before
            cases before
          rw [if_neg other, before]

/-- The command of a keyword is the one that was just registered under it, or the one before. -/
theorem get?_register :
    (registry.register command).get? keyword =
      if keyword = command.keyword then some command else registry.get? keyword := by
  cases found : registry.slot? command.keyword with
  | some place =>
      have inside : place < registry.commands.size := indexed.lt_size found
      rw [get?, slot?_register_of_known found, register_of_known found]
      by_cases same : keyword = command.keyword
      · simp [same, found, inside]
      · rw [if_neg same, get?]
        cases other : registry.slot? keyword with
        | none => rfl
        | some slot =>
            have apart : place ≠ slot := by
              rintro rfl
              rw [indexed.slot?_eq_some_iff] at found other
              exact same (Option.some.inj (other.symm.trans found))
            simp [apart]
  | none =>
      rw [get?, slot?_register_of_new found, register_of_new found]
      by_cases same : keyword = command.keyword
      · simp [same, size]
      · rw [if_neg same, if_neg same, get?]
        cases other : registry.slot? keyword with
        | none => rfl
        | some slot =>
            have inside : slot < registry.commands.size := indexed.lt_size other
            simp [Array.getElem?_push_lt inside, inside]

theorem registerAll (commands : List Command) : (registry.registerAll commands).IsIndexed := by
  induction commands generalizing registry with
  | nil => exact indexed
  | cons command commands inductionHypothesis =>
      exact inductionHypothesis (indexed.register command)

end IsIndexed

theorem registerAll_concat (commands : List Command) (command : Command) :
    registry.registerAll (commands ++ [command]) =
      (registry.registerAll commands).register command := by
  rw [registerAll_append, registerAll_cons, registerAll_nil]

/-- Keywords stand in the order in which they first came. -/
theorem keywords_registerAll (commands : List Command) :
    (registerAll {} commands).keywords = (commands.map Command.keyword).eraseDups := by
  induction commands using List.reverseRecOn with
  | nil => rfl
  | append_singleton commands command inductionHypothesis =>
      have indexed := IsIndexed.empty.registerAll commands
      have same : command.keyword ∈ (commands.map Command.keyword).eraseDups ↔
          command.keyword ∈ commands.map Command.keyword := List.mem_eraseDups
      rw [registerAll_concat, indexed.keywords_register, inductionHypothesis, List.map_append,
        List.map_singleton, List.eraseDups_append, List.removeAll, List.filter_singleton]
      by_cases known : command.keyword ∈ commands.map Command.keyword
      · rw [if_pos (same.mpr known)]
        simp [known]
      · rw [if_neg (mt same.mp known)]
        simp [known, List.eraseDups_cons]

/-- A keyword calls the command that was last registered under it. -/
theorem get?_registerAll (commands : List Command) (keyword : String) :
    (registerAll {} commands).get? keyword =
      commands.reverse.find? (·.keyword = keyword) := by
  induction commands using List.reverseRecOn with
  | nil => exact get?_empty keyword
  | append_singleton commands command inductionHypothesis =>
      have indexed := IsIndexed.empty.registerAll commands
      rw [registerAll_concat, indexed.get?_register, inductionHypothesis, List.reverse_append,
        List.reverse_singleton, List.singleton_append, List.find?_cons]
      by_cases same : command.keyword = keyword
      · simp [same]
      · simp [same, Ne.symm same]

/-- A keyword of the builtins calls the builtin that has it. -/
theorem exists_builtin_of_get? {keyword : String} {command : Command}
    (registered : builtins.get? keyword = some command) :
    ∃ builtin : Builtin, command = builtin.command ∧ keyword = builtin.keyword := by
  have looked : (Builtin.all.map Builtin.command).reverse.find? (·.keyword = keyword) =
      some command := (get?_registerAll _ keyword).symm.trans registered
  have listed := List.mem_reverse.mp (List.mem_of_find?_eq_some looked)
  obtain ⟨builtin, -, rfl⟩ := List.mem_map.mp listed
  have same : builtin.command.keyword = keyword := by simpa using List.find?_some looked
  exact ⟨builtin, rfl, same.symm⟩

theorem eq_registerAll_of_builtins (commands : List Command) :
    builtins.registerAll commands =
      registerAll {} (Builtin.all.map Builtin.command ++ commands) :=
  (registerAll_append {} _ commands).symm

/-- What there is of a registry once commands were registered one after the other. -/
structure Records (registry : Registry) (registered : List Command) : Prop where
  keywords_nodup : registry.keywords.Nodup
  keywords_eq : registry.keywords = (registered.map Command.keyword).eraseDups
  size_eq : registry.size = (registered.map Command.keyword).toFinset.card
  slot?_eq_some_iff : ∀ keyword slot, registry.slot? keyword = some slot ↔
    ∃ command, registry.commands[slot]? = some command ∧ command.keyword = keyword
  stored : ∀ entry ∈ registry.index,
    registry.slot? entry.1 = some entry.2 ∧ entry.2 < registry.size
  get?_eq_some_iff : ∀ keyword command, registry.get? keyword = some command ↔
    ∃ before after, registered = before ++ command :: after ∧ command.keyword = keyword ∧
      ∀ later ∈ after, later.keyword ≠ keyword
  get?_eq_none_iff : ∀ keyword, registry.get? keyword = none ↔
    ∀ command ∈ registered, command.keyword ≠ keyword

theorem records_registerAll (commands : List Command) :
    (registerAll {} commands).Records commands := by
  have indexed := IsIndexed.empty.registerAll commands
  constructor
  case keywords_nodup => exact indexed.keywords_nodup
  case keywords_eq => exact keywords_registerAll commands
  case size_eq =>
    rw [← length_keywords, ← List.toFinset_card_of_nodup indexed.keywords_nodup,
      keywords_registerAll]
    congr 1
    ext keyword
    rw [List.mem_toFinset, List.mem_toFinset, List.mem_eraseDups]
  case slot?_eq_some_iff =>
    intro keyword slot
    rw [indexed.slot?_eq_some_iff, getElem?_keywords, Option.map_eq_some_iff]
  case stored =>
    intro entry member
    have held := indexed.stored entry member
    exact ⟨held, indexed.lt_size held⟩
  case get?_eq_some_iff =>
    intro keyword command
    rw [get?_registerAll, List.find?_eq_some_iff_append]
    constructor
    · rintro ⟨same, after, before, split, others⟩
      refine ⟨before.reverse, after.reverse, ?_, of_decide_eq_true same, ?_⟩
      · rw [← List.reverse_reverse commands, split]
        simp
      · intro later member
        simpa using others later (List.mem_reverse.mp member)
    · rintro ⟨before, after, rfl, same, others⟩
      refine ⟨decide_eq_true same, after.reverse, before.reverse, by simp, ?_⟩
      intro later member
      simpa using others later (List.mem_reverse.mp member)
  case get?_eq_none_iff =>
    intro keyword
    simp [get?_registerAll]

/-- Whatever commands are registered, from nothing or behind the builtins, their keywords are all
different and stand in the order in which they first came, the builtins' before all others.  There
are as many commands as different keywords.  The index leads to a place if and only if the command
in it has the keyword, and to none that is not there.  A keyword calls the command that was last
registered under it, and none if and only if there was none. -/
theorem registered_in_order (commands : List Command) :
    (registerAll {} commands).Records commands ∧
      (builtins.registerAll commands).Records (Builtin.all.map Builtin.command ++ commands) ∧
      Builtin.all.map Builtin.keyword <+: (builtins.registerAll commands).keywords := by
  rw [eq_registerAll_of_builtins]
  refine ⟨records_registerAll commands, records_registerAll _, ?_⟩
  have first : (Builtin.all.map Builtin.keyword).eraseDups = Builtin.all.map Builtin.keyword := by
    decide +kernel
  rw [keywords_registerAll, List.map_append, List.map_map, List.eraseDups_append]
  exact first ▸ List.prefix_append _ _

end VirtualTerminal.Registry
