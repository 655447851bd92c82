import Mathlib.Data.Finset.Prod
import Mathlib.Data.List.Iterate
import VirtualTerminal.Proofs.Line.Length
import VirtualTerminal.Proofs.Session.Directory
import VirtualTerminal.Proofs.Session.Log
import VirtualTerminal.Proofs.Session.Termination
import VirtualTerminal.Proofs.Session.Typing

/-!
# Lines inside lines

A session says how many lines may be open at a time while it enters one.  It says enough: whatever
comes to an end with more room comes to the same end with this much.  Inside nested scripts each
line takes one of the commands that are left.  Outside, the end of a line depends on nothing but the
line and the working directory, and the lines that a line may lead to are few: those that commands
hold, and what is left when the arguments are entered again and again.  With every further line that
may be open at a time one of these comes to an end that did not before, or none ever will.
-/

namespace VirtualTerminal

open SessionM

/-! ### The lines that a line may lead to -/

/-- The lines that a directive enters where it stands, the arguments aside. -/
def Directive.lines : Directive → List String
  | .line text => [text]
  | .script body => Text.lines body
  | _ => []

def Command.lines (command : Command) : List String :=
  match command.handler with
  | .builtin _ => []
  | .directives directives => directives.flatMap Directive.lines

def Registry.lines (registry : Registry) : List String :=
  registry.toList.flatMap Command.lines

theorem Directive.extent_lines (directive : Directive) :
    Text.extent String.length directive.lines = directive.lineCount := by
  cases directive with
  | line text => rfl
  | script body => exact Text.extent_lines body
  | _ => rfl

theorem Command.extent_lines (command : Command) :
    Text.extent String.length command.lines = command.lineCount := by
  unfold lines lineCount
  cases command.handler with
  | builtin builtin => rfl
  | directives directives => exact Text.extent_flatMap Directive.extent_lines directives

theorem Registry.extent_lines (registry : Registry) :
    Text.extent String.length registry.lines =
      registry.toList.foldr (fun command lines => command.lineCount + lines) 0 :=
  Text.extent_flatMap Command.extent_lines _

namespace Line

/-- The arguments of a line as a line of their own. -/
def argumentsLine (line : String) : String :=
  match tokens line with
  | .ok (_ :: arguments) => " ".intercalate arguments
  | _ => ""

/-- A line and what is left of it when the arguments are entered again and again. -/
def dwindling (line : String) : List String :=
  List.iterate argumentsLine line (line.length + 1)

theorem length_argumentsLine_le (line : String) :
    (argumentsLine line).length ≤ line.length - 1 := by
  unfold argumentsLine
  split
  next read => exact Nat.le_sub_one_of_lt (length_arguments_lt read)
  next => exact Nat.zero_le _

theorem length_iterate_argumentsLine_le (line : String) (times : Nat) :
    (argumentsLine^[times] line).length ≤ line.length - times := by
  induction times with
  | zero => exact Nat.le_refl _
  | succ times inductionHypothesis =>
      rw [Function.iterate_succ_apply']
      have shorter := length_argumentsLine_le (argumentsLine^[times] line)
      omega

/-- As long as there are arguments to enter, they are one of the lines that are left. -/
theorem arguments_mem_dwindling {line inner keyword : String} {arguments : List String}
    (member : inner ∈ dwindling line) (read : tokens inner = .ok (keyword :: arguments)) :
    " ".intercalate arguments ∈ dwindling line := by
  obtain ⟨times, _, rfl⟩ := List.mem_iterate.mp member
  have left := length_iterate_argumentsLine_le line times
  have shorter := length_arguments_lt read
  refine List.mem_iterate.mpr ⟨times + 1, by omega, ?_⟩
  rw [Function.iterate_succ_apply', argumentsLine, read]

end Line

namespace Registry

variable {registry : Registry} {line inner : String}

/-- The lines that may be entered outside nested scripts because a line is. -/
def linesFrom (registry : Registry) (line : String) : List String :=
  (line :: registry.lines).flatMap Line.dwindling

theorem length_linesFrom (registry : Registry) (line : String) :
    (registry.linesFrom line).length = line.length + 1 +
      registry.toList.foldr (fun command lines => command.lineCount + lines) 0 := by
  rw [← registry.extent_lines, ← Text.extent_cons, linesFrom]
  exact Text.length_flatMap_eq_extent (fun _ => List.length_iterate ..) _

theorem self_mem_linesFrom (registry : Registry) (line : String) :
    line ∈ registry.linesFrom line :=
  List.mem_flatMap.mpr ⟨line, List.mem_cons_self, List.mem_iterate.mpr ⟨0, by omega, rfl⟩⟩

/-- The lines of a command and its arguments are among the lines that its own line is among. -/
theorem mem_linesFrom_of_called {command : Command} {arguments : List String} {next : String}
    (member : inner ∈ registry.linesFrom line)
    (called : registry.called? inner = some (command, arguments))
    (entered : next ∈ command.lines ∨ next = " ".intercalate arguments) :
    next ∈ registry.linesFrom line := by
  obtain ⟨start, among, dwindled⟩ := List.mem_flatMap.mp member
  rcases entered with held | rfl
  · have command := List.mem_flatMap.mpr ⟨command, mem_toList_of_called? called, held⟩
    exact List.mem_flatMap.mpr
      ⟨next, List.mem_cons_of_mem _ command, List.mem_iterate.mpr ⟨0, by omega, rfl⟩⟩
  · unfold called? at called
    split at called
    next keyword rest read =>
      obtain ⟨_, _, same⟩ := Option.map_eq_some_iff.mp called
      obtain ⟨-, rfl⟩ := Prod.mk.inj same
      exact List.mem_flatMap.mpr ⟨start, among, Line.arguments_mem_dwindling dwindled read⟩
    next => cases called

end Registry

/-! ### Sessions on the way -/

/-- A session that another one may become, while it enters a line, outside nested scripts. -/
structure Session.Passes (base now : Session) : Prop where
  surroundings : now.toSurroundings = base.toSurroundings
  input : now.input = base.input
  history : now.history = base.history
  idle : now.meter.depth = 0
  placed : now.IsPlaced

/-- A session in a certain directory of which nothing is shown yet and no command was counted. -/
def Session.idleAt (base : Session) (id : DirId) : Session :=
  { base.setDirectory id with log := "", meter := {} }

/-- Sessions on the way differ in the directory and the log alone when a line starts. -/
theorem Session.Passes.idleAt_eq {base now : Session} (passes : base.Passes now) :
    base.idleAt now.directory = { now with log := "", meter := now.meter.atLine } := by
  obtain ⟨surroundings, input, history, idle, placed⟩ := passes
  have meter : now.meter.atLine = {} := by
    rw [Meter.atLine, if_pos idle, Meter.reset, idle]
  have prompt := placed.prompt_eq
  cases now
  cases base
  simp_all [idleAt, setDirectory, directoryPath]

theorem Session.IsPlaced.passes_idleAt {base : Session} (placed : base.IsPlaced) {id : DirId}
    (valid : id < base.tree.size) : base.Passes (base.idleAt id) where
  surroundings := rfl
  input := rfl
  history := rfl
  idle := rfl
  placed := ⟨placed.linked, valid, rfl⟩

namespace SessionM

variable {α β : Type} {base : Session}

/-- The step leads from sessions on the way to others. -/
def StaysWithin (step : SessionM α) (base : Session) : Prop :=
  ∀ session outcome, base.Passes session → step.outcome session = some outcome →
    base.Passes outcome.session

theorem staysWithin_of_local {step : SessionM α}
    (follows : ∀ course : Course, course.IsLocal → step.Follows course) :
    step.StaysWithin base := by
  intro session outcome passes reached
  have placed := Course.admits_of_outcome (follows .placed Course.placed_isLocal) reached
    passes.placed
  have untyped : Untyped outcome.journal :=
    Course.admits_of_outcome (follows .untyped Course.untyped_isLocal) reached
  have depth := keepsDepth_of_balanced (follows .balanced Course.balanced_isLocal) session outcome
    reached
  obtain ⟨input, history⟩ := session.replay_of_untyped untyped
  rw [outcome_session reached] at depth ⊢
  exact {
    surroundings := (session.replay_toSurroundings _).trans passes.surroundings
    input := input.trans passes.input
    history := history.trans passes.history
    idle := depth.trans passes.idle
    placed := passes.placed.replay placed }

/-! ### Steps that lead to the same end -/

/-- Whatever the step comes to in sessions on the way, the other one comes to as well. -/
def EndsLike (base : Session) (step other : SessionM α) : Prop :=
  ∀ session outcome, base.Passes session → step.outcome session = some outcome →
    other.outcome session = some outcome

theorem endsLike_refl (step : SessionM α) : EndsLike base step step :=
  fun _ _ _ reached => reached

theorem endsLike_bind {step other : SessionM α} {next further : α → SessionM β}
    (before : EndsLike base step other) (stays : step.StaysWithin base)
    (after : ∀ value, EndsLike base (next value) (further value)) :
    EndsLike base (step >>= next) (other >>= further) := by
  intro session outcome passes reached
  obtain ⟨start, rest, started, ended, rfl⟩ := bind_outcome_eq_some_iff.mp reached
  exact bind_outcome_eq_some_iff.mpr ⟨start, rest, before session start passes started,
    after start.value start.session rest (stays session start passes started) ended, rfl⟩

theorem endsLike_bind_left {step other : SessionM α} (before : EndsLike base step other)
    (next : α → SessionM β) : EndsLike base (step >>= next) (other >>= next) := by
  intro session outcome passes reached
  obtain ⟨start, rest, started, ended, rfl⟩ := bind_outcome_eq_some_iff.mp reached
  exact bind_outcome_eq_some_iff.mpr
    ⟨start, rest, before session start passes started, ended, rfl⟩

theorem endsLike_read {view : Session → β} {next further : β → SessionM α}
    (after : ∀ now, base.Passes now → EndsLike base (next (view now)) (further (view now))) :
    EndsLike base (read view >>= next) (read view >>= further) :=
  fun session outcome passes reached => after session passes session outcome passes reached

theorem endsLike_note {event : Event} {next further : Unit → SessionM α}
    (kept : ∀ now, base.Passes now → base.Passes (now.apply event))
    (after : EndsLike base (next ()) (further ())) :
    EndsLike base (note event >>= next) (note event >>= further) := by
  refine endsLike_bind (endsLike_refl _) ?_ fun _ => after
  rintro session _ passes ⟨⟩
  exact kept session passes

theorem endsLike_fold {step other : β → α → SessionM β} {items : List α}
    (each : ∀ value, ∀ item ∈ items, EndsLike base (step value item) (other value item))
    (stays : ∀ value item, (step value item).StaysWithin base) (value : β) :
    EndsLike base (fold step value items) (fold other value items) := by
  induction items generalizing value with
  | nil => exact endsLike_refl _
  | cons item items inductionHypothesis =>
      apply endsLike_bind (each value item List.mem_cons_self) (stays value item)
      exact inductionHypothesis fun value other member =>
        each value other (List.mem_cons_of_mem _ member)

section

variable {enter other : String → SessionM Reply}
  (follows : ∀ course : Course, course.IsLocal → ∀ line, (enter line).Follows course)
include follows

theorem endsLike_playScript {script : String}
    (lines : ∀ line ∈ Text.lines script, EndsLike base (enter line) (other line)) :
    EndsLike base (playScript enter script) (playScript other script) := by
  refine endsLike_read fun now _ => endsLike_note (fun _ passes => passes) ?_
  apply endsLike_bind_left
  apply endsLike_fold
  · exact fun report line member => endsLike_bind_left (lines line member) _
  · intro report line
    apply staysWithin_of_local
    exact fun course loc => Course.follows_bind (follows course loc line) fun _ =>
      Course.follows_pure _

variable (nested : ∀ script, EndsLike base (playNested enter script) (playNested other script))
include nested

theorem endsLike_follow (command : Command) (arguments : List String) (directive : Directive)
    (lines : ∀ line, line ∈ directive.lines ∨ line = " ".intercalate arguments →
      EndsLike base (enter line) (other line)) :
    EndsLike base (follow enter command arguments directive)
      (follow other command arguments directive) := by
  cases directive with
  | line text => exact endsLike_bind_left (lines text (.inl List.mem_cons_self)) _
  | lineOfArguments => exact endsLike_bind_left (lines _ (.inr rfl)) _
  | script script =>
      apply endsLike_bind_left
      exact endsLike_playScript follows fun line member => lines line (.inl member)
  | nestedScript script => exact endsLike_bind_left (nested script) _
  | nestedScriptOfArguments copies => exact endsLike_bind_left (nested _) _
  | _ => exact endsLike_refl _

omit follows in
theorem endsLike_runBuiltin (command : Command) (arguments : List String) (builtin : Builtin) :
    EndsLike base (runBuiltin enter command arguments builtin)
      (runBuiltin other command arguments builtin) := by
  cases builtin with
  | run =>
      show EndsLike base (runFile enter arguments) (runFile other arguments)
      unfold runFile
      split
      next => exact endsLike_refl _
      next path arguments =>
        apply endsLike_read
        intro now _
        rcases now.findFile path with error | ⟨name, script | executable⟩
        · exact endsLike_refl _
        · exact endsLike_bind_left (nested script) _
        · exact endsLike_refl _
  | _ => exact endsLike_refl _

/-- A command comes to the same if the lines do that it may enter outside nested scripts. -/
theorem endsLike_handle (command : Command) (arguments : List String)
    (lines : ∀ line, line ∈ command.lines ∨ line = " ".intercalate arguments →
      EndsLike base (enter line) (other line)) :
    EndsLike base (handle enter command arguments) (handle other command arguments) := by
  unfold handle
  unfold Command.lines at lines
  cases shape : command.handler with
  | builtin builtin => exact endsLike_runBuiltin nested command arguments builtin
  | directives directives =>
      simp only [shape] at lines
      clear shape
      induction directives with
      | nil => exact endsLike_refl _
      | cons directive directives inductionHypothesis =>
          refine endsLike_bind ?_ ?_ fun reply => ?_
          · apply endsLike_follow follows nested
            exact fun line held => lines line (held.imp_left (List.mem_append_left _))
          · apply staysWithin_of_local
            intro course loc
            apply Course.follows_follow (loc.follows_playNested (follows course loc))
            · exact fun _ => follows course loc
            · exact fun _ script => loc.follows_playScript script fun line _ =>
                follows course loc line
          · cases reply with
            | some reply => exact endsLike_refl _
            | none =>
                apply inductionHypothesis
                exact fun line held => lines line (held.imp_left (List.mem_append_right _))

end

/-- A line comes to the same if the command does that it calls. -/
theorem endsLike_enterStep {enter other : String → SessionM Reply} {line : String}
    (calls : ∀ command arguments,
      base.registry.called? line = some (command, arguments) →
      EndsLike base (handle enter command arguments) (handle other command arguments)) :
    EndsLike base (enterStep enter line) (enterStep other line) := by
  have counted : ∀ now, base.Passes now → base.Passes (now.apply .commandCounted) :=
    fun now passes => { passes with placed := passes.placed.apply trivial }
  have opened : (openLine line).StaysWithin base := by
    apply staysWithin_of_local
    intro course loc
    apply Course.follows_bind fun session => loc.entered session line
    exact fun _ => Course.follows_read fun session => Course.follows_log _ session
  refine endsLike_bind (endsLike_refl _) opened fun _ => endsLike_bind_left ?_ _
  unfold interpret
  split
  next => exact endsLike_refl _
  next => exact endsLike_refl _
  next keyword arguments tokens =>
    apply endsLike_read
    intro now passes
    cases registered : now.registry.get? keyword with
    | none => exact endsLike_refl _
    | some command =>
        have called : base.registry.called? line = some (command, arguments) := by
          rw [← congrArg Surroundings.registry passes.surroundings]
          simp only [Registry.called?, tokens, registered, Option.map_some]
        refine endsLike_note counted (endsLike_read fun now _ => ?_)
        cases now.meter.commandError? now.limits with
        | some limit => exact endsLike_refl _
        | none => exact endsLike_note (fun _ passes => passes) (calls command arguments called)

/-- Nested scripts need no more room than there are commands to spend. -/
theorem endsLike_playNested {nesting more : Nat} (enough : base.limits.commands < nesting)
    (le : nesting ≤ more) (script : String) :
    EndsLike base (playNested (enterWithin more) script)
      (playNested (enterWithin nesting) script) := by
  intro session outcome passes reached
  obtain ⟨least, rfl⟩ : ∃ least, nesting = least + 1 := Nat.exists_eq_add_one.mpr (by omega)
  have lines : ∀ line, (enterWithin (least + 1) line).Follows
      (.returning base.toSurroundings 1 0) :=
    Course.follows_enterWithin_returning least (by omega)
  obtain ⟨journal, ended, -⟩ := Course.follows_playNested_returning lines script session
    passes.surroundings (Nat.zero_le _) (Nat.zero_le _)
  obtain ⟨other, done, -⟩ := journal?_eq_some_iff.mp ended
  have same := playNested_outcome_of_le le done
  rw [reached] at same
  cases same
  exact done

/-- Outside nested scripts it depends on the working directory and the line alone whether a line
ends. -/
theorem isSome_enterWithin_outcome {now : Session} (passes : base.Passes now) (nesting : Nat)
    (line : String) :
    ((enterWithin nesting line).outcome now).isSome =
      ((enterWithin nesting line).outcome (base.idleAt now.directory)).isSome := by
  cases nesting with
  | zero => rfl
  | succ nesting =>
      have ignores : (enterWithin (nesting + 1) line).IgnoresLog :=
        ignoresLog_of_couples (couples_enterWithin (Nat.le_refl _) line)
      rw [passes.idleAt_eq, enterWithin, ← enterStep_outcome_atLine _ now]
      rcases ignores { now with meter := now.meter.atLine } "" with
        ⟨none, noneToo⟩ | ⟨first, second, some, someToo, -⟩
      · rw [enterWithin] at none noneToo
        rw [none, noneToo]
      · rw [enterWithin] at some someToo
        rw [some, someToo]
        rfl

/-! ### Counting the lines that end -/

/-- The directories and lines, of those that a line may lead to, where a line ends with this much
room. -/
def endings (base : Session) (line : String) (nesting : Nat) : Finset (DirId × String) :=
  (Finset.range base.tree.size ×ˢ (base.registry.linesFrom line).toFinset).filter
    fun (id, inner) => ((enterWithin nesting inner).outcome (base.idleAt id)).isSome

variable {line inner : String} {nesting more : Nat}

theorem mem_endings_iff {id : DirId} :
    (id, inner) ∈ endings base line nesting ↔
      (id < base.tree.size ∧ inner ∈ base.registry.linesFrom line) ∧
        ((enterWithin nesting inner).outcome (base.idleAt id)).isSome := by
  simp [endings]

theorem mem_endings_of_passes {now : Session} (passes : base.Passes now)
    (among : inner ∈ base.registry.linesFrom line) :
    (now.directory, inner) ∈ endings base line nesting ↔
      ((enterWithin nesting inner).outcome now).isSome := by
  have valid : now.directory < base.tree.size := by
    rw [← congrArg Surroundings.tree passes.surroundings]
    exact passes.placed.valid
  rw [mem_endings_iff, ← isSome_enterWithin_outcome passes]
  exact and_iff_right ⟨valid, among⟩

theorem endings_subset (room : nesting ≤ more) :
    endings base line nesting ⊆ endings base line more := by
  rintro ⟨id, inner⟩ member
  obtain ⟨known, ends⟩ := mem_endings_iff.mp member
  obtain ⟨outcome, reached⟩ := Option.isSome_iff_exists.mp ends
  rw [mem_endings_iff, enterWithin_outcome_of_le room reached]
  exact ⟨known, rfl⟩

theorem card_endings_le (base : Session) (line : String) (nesting : Nat) :
    (endings base line nesting).card ≤ base.tree.size * (base.registry.linesFrom line).length :=
  calc (endings base line nesting).card
    _ ≤ (Finset.range base.tree.size ×ˢ (base.registry.linesFrom line).toFinset).card :=
        Finset.card_filter_le _ _
    _ = base.tree.size * (base.registry.linesFrom line).toFinset.card := by
        rw [Finset.card_product, Finset.card_range]
    _ ≤ base.tree.size * (base.registry.linesFrom line).length :=
        Nat.mul_le_mul_left _ (List.toFinset_card_le _)

/-- Where one more open line makes no difference, lines come to the same without it. -/
theorem endsLike_enterWithin
    (same : endings base line nesting = endings base line (nesting + 1))
    (among : inner ∈ base.registry.linesFrom line) :
    EndsLike base (enterWithin (nesting + 1) inner) (enterWithin nesting inner) := by
  intro now outcome passes reached
  have ended : (now.directory, inner) ∈ endings base line (nesting + 1) := by
    rw [mem_endings_of_passes passes among, reached]
    rfl
  rw [← same, mem_endings_of_passes passes among] at ended
  obtain ⟨other, done⟩ := Option.isSome_iff_exists.mp ended
  rw [done, enterWithin_outcome_unique done reached]

/-- If one more open line makes no difference, no further one does. -/
theorem endings_stable (placed : base.IsPlaced) (enough : base.limits.commands < nesting)
    (same : endings base line nesting = endings base line (nesting + 1)) :
    endings base line (nesting + 1) = endings base line (nesting + 2) := by
  apply Finset.Subset.antisymm (endings_subset (Nat.le_succ _))
  rintro ⟨id, inner⟩ member
  obtain ⟨⟨valid, among⟩, ends⟩ := mem_endings_iff.mp member
  obtain ⟨outcome, reached⟩ := Option.isSome_iff_exists.mp ends
  have steps : EndsLike base (enterStep (enterWithin (nesting + 1)) inner)
      (enterStep (enterWithin nesting) inner) := by
    apply endsLike_enterStep
    intro command arguments called
    apply endsLike_handle (fun course loc => loc.follows_enterWithin (nesting + 1))
    · exact endsLike_playNested enough (Nat.le_succ nesting)
    · intro next entered
      exact endsLike_enterWithin same (Registry.mem_linesFrom_of_called among called entered)
  have done := steps _ outcome (placed.passes_idleAt valid) reached
  rw [mem_endings_iff, enterWithin, done]
  exact ⟨⟨valid, among⟩, rfl⟩

/-- With each line that may be open beyond the commands more lines end, or no more ever will; so
there is room enough when there are as many as lines and directories. -/
theorem endings_eq_of_le (placed : base.IsPlaced)
    (enough : base.limits.commands + 1 +
      base.tree.size * (base.registry.linesFrom line).length ≤ nesting) :
    endings base line nesting = endings base line (base.limits.commands + 1 +
      base.tree.size * (base.registry.linesFrom line).length) := by
  let ending (beyond : Nat) : Finset (DirId × String) :=
    endings base line (base.limits.commands + 1 + beyond)
  have grows : ∀ {less more}, less ≤ more → ending less ⊆ ending more :=
    fun le => endings_subset (Nat.add_le_add_left le _)
  have same : ∀ {less more}, less ≤ more → (ending less).card = (ending more).card →
      ending less = ending more :=
    fun le cards => Finset.eq_of_subset_of_card_le (grows le) (Nat.le_of_eq cards.symm)
  obtain ⟨more, rfl⟩ := Nat.exists_eq_add_of_le enough
  have stable : (ending (base.tree.size * (base.registry.linesFrom line).length + more)).card =
      (ending (base.tree.size * (base.registry.linesFrom line).length)).card := by
    apply Nat.stabilises_of_monotone (f := fun beyond => (ending beyond).card)
    · exact fun _ _ le => Finset.card_le_card (grows le)
    · exact fun _ => card_endings_le _ _ _
    · intro beyond cards
      have here := same (Nat.le_succ beyond) cards
      have enough : base.limits.commands < base.limits.commands + 1 + beyond := by omega
      exact congrArg Finset.card (endings_stable placed enough here)
    · exact Nat.le_add_right _ _
  rw [Nat.add_assoc]
  exact (same (Nat.le_add_right _ _) stable.symm).symm

/-- A line ends with the room that the session allows for if it ends at all. -/
theorem isSome_enterWithin_nestingBound {session : Session} (placed : session.IsPlaced)
    {outcome : Outcome Reply}
    (reached : (enterWithin nesting line).outcome session = some outcome) :
    ((enterWithin (session.nestingBound line) line).outcome session).isSome := by
  rcases Nat.eq_zero_or_pos session.meter.depth with idle | nested
  · have passes : session.Passes session := ⟨rfl, rfl, rfl, idle, placed⟩
    have among := session.registry.self_mem_linesFrom line
    have bound : session.limits.commands + 1 +
        session.tree.size * (session.registry.linesFrom line).length ≤
          session.nestingBound line := by
      rw [Registry.length_linesFrom, Session.nestingBound]
      omega
    have wide := enterWithin_outcome_of_le (Nat.le_max_left nesting (session.nestingBound line))
      reached
    have member : (session.directory, line) ∈ endings session line
        (max nesting (session.nestingBound line)) := by
      rw [mem_endings_of_passes passes among, wide]
      rfl
    rwa [endings_eq_of_le placed (bound.trans (Nat.le_max_right _ _)),
      ← endings_eq_of_le placed bound, mem_endings_of_passes passes among] at member
  · obtain ⟨other, done⟩ := enterWithin_ends_of_nested nested line
    rw [enterWithin_outcome_of_le (session.commands_lt_nestingBound line) done]
    rfl

/-- A line comes to an end if and only if it does with some room for open lines, and then to the
same end: the bound on open lines is never what keeps a line from ending. -/
theorem enter_outcome_eq_some_iff {session : Session} (placed : session.IsPlaced)
    {outcome : Outcome Reply} :
    (enter line).outcome session = some outcome ↔
      ∃ nesting, (enterWithin nesting line).outcome session = some outcome := by
  rw [enter_outcome]
  constructor
  · exact fun reached => ⟨_, reached⟩
  · rintro ⟨nesting, reached⟩
    obtain ⟨other, done⟩ :=
      Option.isSome_iff_exists.mp (isSome_enterWithin_nestingBound placed reached)
    rw [done, enterWithin_outcome_unique done reached]

end SessionM

end VirtualTerminal
