import Mathlib.Data.List.Infix
import VirtualTerminal.Proofs.Session.Coupling
import VirtualTerminal.Proofs.Session.Journal

/-!
# Typing

Keys are another way of entering lines.  Cut at each Enter, they come in stretches: the keys of a
stretch only edit the buffer, and Enter enters what they have left there.  So a sequence of keys
does what entering lines does that can be told beforehand from the keys and the buffer at the start.
-/

namespace VirtualTerminal

/-- What is typed after one more key, the latest character in front. -/
def Key.onto (text : List Char) : Key → List Char
  | .character c => if Text.isControl c then text else c :: text
  | .backspace => text.tail
  | .enter | .other _ => text

/-- The buffer after a stretch of keys. -/
def typed (input : String) (keys : List Key) : String :=
  String.ofList (keys.foldl Key.onto input.toList.reverse).reverse

/-- The buffer after each key of a stretch. -/
def typedAlong (input : String) (keys : List Key) : List String :=
  keys.inits.tail.map (typed input)

/-- A text without its control characters. -/
def withoutControls (text : String) : String :=
  String.ofList (text.toList.filter fun c => !Text.isControl c)

/-- What the history keeps of a line. -/
def remembered (line : String) : List String :=
  if Text.isBlankText line then [] else [line]

/-- A session that has filed its buffer in the history. -/
def Session.filed (session : Session) : Session :=
  { session with history := session.history ++ remembered session.input }

/-- A session with a line in its buffer that is filed in the history. -/
def Session.filled (session : Session) (line : String) : Session :=
  ({ session with input := withoutControls line } : Session).filed

/-- What is told of typing a line and filing it. -/
def edits (line : String) : List Event :=
  (typedAlong "" (line.toList.map .character)).map .inputChanged ++
    (remembered (withoutControls line)).map .lineRemembered

@[simp]
theorem typed_nil (input : String) : typed input [] = input := by
  simp [typed]

theorem Key.toList_edit (input : String) (key : Key) :
    (key.edit input).toList.reverse = key.onto input.toList.reverse := by
  cases key with
  | character c =>
      by_cases control : Text.isControl c <;> simp [Key.edit, Key.onto, control]
  | backspace => simp [Key.edit, Key.onto]
  | _ => rfl

theorem typed_cons (input : String) (key : Key) (keys : List Key) :
    typed input (key :: keys) = typed (key.edit input) keys := by
  rw [typed, typed, List.foldl_cons, Key.toList_edit]

@[simp]
theorem typedAlong_nil (input : String) : typedAlong input [] = [] := rfl

theorem typedAlong_cons (input : String) (key : Key) (keys : List Key) :
    typedAlong input (key :: keys) = key.edit input :: typedAlong (key.edit input) keys := by
  have heads : keys.inits = [] :: keys.inits.tail := by cases keys <;> rfl
  have first : typed input [key] = key.edit input := by rw [typed_cons, typed_nil]
  have later : typed input ∘ List.cons key = typed (key.edit input) :=
    funext fun front => typed_cons input key front
  rw [typedAlong, List.inits_cons, List.tail_cons, List.map_map, heads, List.map_cons,
    Function.comp_apply, first, later, typedAlong]

/-- Typing characters adds those that are not control characters. -/
theorem typed_map_character (input : String) (text : List Char) :
    typed input (text.map .character) =
      input ++ String.ofList (text.filter fun c => !Text.isControl c) := by
  induction text generalizing input with
  | nil => simp
  | cons c text inductionHypothesis =>
      rw [List.map_cons, typed_cons, inductionHypothesis]
      by_cases control : Text.isControl c <;> simp [Key.edit, control, ← String.toList_inj]

/-- Whether an event belongs to typing rather than to what is entered. -/
def Event.isTyping : Event → Bool
  | .inputChanged _ | .lineRemembered _ => true
  | _ => false

/-- Nothing in a journal belongs to typing. -/
def Untyped (journal : List Event) : Prop :=
  journal.any Event.isTyping = false

theorem Untyped.effect {session : Session} {event : Event} (happens : event.IsEffect session) :
    Untyped [event] := by
  cases happens <;> rfl

theorem Untyped.append {first second : List Event} (before : Untyped first)
    (after : Untyped second) : Untyped (first ++ second) := by
  rw [Untyped, List.any_append, before, after, Bool.or_false]

theorem Untyped.left {first second : List Event} (whole : Untyped (first ++ second)) :
    Untyped first := by
  rw [Untyped, List.any_append, Bool.or_eq_false_iff] at whole
  exact whole.1

def Course.untyped : Course :=
  .ofJournals (fun _ => Untyped) (fun _ => rfl) .append .effect

theorem Course.untyped_isLocal : Course.untyped.IsLocal where
  started _ := ofJournals_some rfl
  finished _ _ := ofJournals_some rfl
  refused _ := ofJournals_some rfl
  nested _ inside := ofJournals_map inside fun _ untyped => untyped.append rfl
  entered _ _ := ofJournals_some rfl
  remark := by
    intro session event happens
    cases happens <;> exact ofJournals_some rfl
  endless _ := ofJournals_none

theorem Session.replay_of_untyped (session : Session) {journal : List Event}
    (untyped : Untyped journal) :
    (session.replay journal).input = session.input ∧
      (session.replay journal).history = session.history := by
  induction journal generalizing session with
  | nil => exact ⟨rfl, rfl⟩
  | cons event journal inductionHypothesis =>
      obtain ⟨now, later⟩ := Bool.or_eq_false_iff.mp untyped
      obtain ⟨input, history⟩ := inductionHypothesis (session.apply event) later
      rw [Session.replay_cons, input, history]
      cases event with
      | inputChanged text => cases now
      | lineRemembered line => cases now
      | _ => exact ⟨rfl, rfl⟩

/-- A journal that does not tell of the buffer. -/
def withoutEdits (journal : List Event) : List Event :=
  journal.filter fun event => !event matches .inputChanged _

@[simp]
theorem withoutEdits_append (first second : List Event) :
    withoutEdits (first ++ second) = withoutEdits first ++ withoutEdits second :=
  List.filter_append ..

@[simp]
theorem withoutEdits_inputChanged (inputs : List String) :
    withoutEdits (inputs.map .inputChanged) = [] := by
  simp [withoutEdits, List.filter_map]

namespace Outcome

variable {α : Type}

def withoutEdits (outcome : Outcome α) : Outcome α :=
  { outcome with journal := VirtualTerminal.withoutEdits outcome.journal }

theorem withoutEdits_after (journal : List Event) (outcome : Outcome α) :
    (outcome.after journal).withoutEdits =
      outcome.withoutEdits.after (VirtualTerminal.withoutEdits journal) := by
  simp [withoutEdits, after]

end Outcome

namespace SessionM

/-- Line mode: the buffer is set to a line, the line goes to the history unless it is blank and is
entered, and whatever comes of it the buffer is emptied. -/
def enterTyped (line : String) : SessionM Unit := do
  note (.inputChanged line)
  remember line
  let _ ← enter line
  note (.inputChanged "")

/-- Line mode for a stretch of keys with Enter behind it.  The answers are those to the keys. -/
def enterStretch (input : String) (stretch : List Key) : SessionM (List Answer) := do
  enterTyped (typed input stretch)
  return (typedAlong input stretch).map .input ++ [.input ""]

/-- Line mode for keys that are cut at each Enter: what each stretch but the last leaves in the
buffer is a line, and what the last leaves stays there. -/
def lineMode (input : String) : List (List Key) → SessionM (List Answer)
  | [] => return []
  | [last] => do
      note (.inputChanged (typed input last))
      return (typedAlong input last).map .input
  | stretch :: next :: stretches => do
      let before ← enterStretch input stretch
      let after ← lineMode "" (next :: stretches)
      return before ++ after

theorem remember_outcome (line : String) (session : Session) :
    (remember line).outcome session = some {
      value := ()
      session := { session with history := session.history ++ remembered line }
      journal := (remembered line).map .lineRemembered } := by
  unfold remember remembered
  by_cases blank : Text.isBlankText line
  · simp [blank, pure_outcome]
  · simp [blank, Session.apply]

theorem press_outcome_of_ne_enter {key : Key} (edits : key ≠ .enter) (session : Session) :
    (press key).outcome session = some {
      value := ()
      session := { session with input := key.edit session.input }
      journal := [.inputChanged (key.edit session.input)] } := by
  cases key with
  | enter => exact absurd rfl edits
  | _ => rfl

theorem performAll_keys_outcome {keys : List Key} (stretch : .enter ∉ keys) (session : Session) :
    (Request.performAll (keys.map .key)).outcome session = some {
      value := (typedAlong session.input keys).map .input
      session := { session with input := typed session.input keys }
      journal := (typedAlong session.input keys).map .inputChanged } := by
  induction keys generalizing session with
  | nil => simp [Request.performAll, pure_outcome]
  | cons key keys inductionHypothesis =>
      obtain ⟨edits, later⟩ := not_or.mp (mt List.mem_cons.mpr stretch)
      have pressed : (Request.key key).perform.outcome session = some {
          value := .input (key.edit session.input)
          session := { session with input := key.edit session.input }
          journal := [.inputChanged (key.edit session.input)] } := by
        rw [Request.perform,
          bind_outcome_of_reached (press_outcome_of_ne_enter (Ne.symm edits) session)]
        rfl
      rw [List.map_cons, Request.performAll_cons, bind_outcome_of_reached pressed,
        bind_outcome_of_reached (inductionHypothesis later _), typedAlong_cons, typed_cons]
      simp [pure_outcome, Outcome.after]

/-- Typing characters one by one is typing a stretch. -/
theorem fold_press_outcome (text : List Char) (session : Session) :
    (fold (fun _ c => press (.character c)) () text).outcome session = some {
      value := ()
      session := { session with input := typed session.input (text.map .character) }
      journal := (typedAlong session.input (text.map .character)).map .inputChanged } := by
  induction text generalizing session with
  | nil => simp [pure_outcome]
  | cons c text inductionHypothesis =>
      have edits : Key.character c ≠ .enter := nofun
      rw [fold_cons, bind_outcome_of_reached (press_outcome_of_ne_enter edits session),
        inductionHypothesis, List.map_cons, typedAlong_cons, typed_cons]
      simp [Outcome.after]

/-- What Enter comes to in terms of the line that stands in the buffer. -/
theorem press_enter_outcome (session : Session) :
    (press .enter).outcome session =
      ((enter session.input).outcome session.filed).map fun entered => {
        value := ()
        session := { entered.session with input := "" }
        journal := (remembered session.input).map .lineRemembered ++
          (entered.journal ++ [.inputChanged ""]) } := by
  rw [Session.filed, press, pressEnter, read_bind,
    bind_outcome_of_reached (remember_outcome _ session), bind_outcome]
  generalize (enter session.input).outcome _ = reached
  cases reached with
  | none => rfl
  | some entered => rfl

theorem perform_enter_outcome (session : Session) :
    (Request.key .enter).perform.outcome session =
      ((press .enter).outcome session).map fun pressed => { pressed with value := .input "" } := by
  rw [Request.perform, bind_outcome, press_enter_outcome]
  generalize (enter session.input).outcome _ = reached
  cases reached with
  | none => rfl
  | some entered =>
      simp only [Option.map_some, Option.bind_some, read_bind, pure_outcome, Outcome.after,
        List.append_nil]

/-- In line mode a line is what Enter makes of it in the buffer. -/
theorem enterTyped_outcome (line : String) (session : Session) :
    (enterTyped line).outcome session =
      ((press .enter).outcome { session with input := line }).map
        (.after [.inputChanged line]) := by
  rw [enterTyped, note_bind, press, pressEnter, read_bind]
  rfl

theorem enterStretch_outcome (input : String) (stretch : List Key) (session : Session) :
    (enterStretch input stretch).outcome session =
      ((press .enter).outcome { session with input := typed input stretch }).map fun pressed => {
        value := (typedAlong input stretch).map .input ++ [.input ""]
        session := pressed.session
        journal := .inputChanged (typed input stretch) :: pressed.journal } := by
  rw [enterStretch, bind_pure_outcome, enterTyped_outcome, Option.map_map]
  rfl

theorem performAll_stretch_outcome {stretch : List Key} (uncut : .enter ∉ stretch)
    (session : Session) :
    (Request.performAll ((stretch ++ [Key.enter]).map Request.key)).outcome session =
      ((press .enter).outcome { session with input := typed session.input stretch }).map
        fun pressed => {
          value := (typedAlong session.input stretch).map .input ++ [.input ""]
          session := pressed.session
          journal := (typedAlong session.input stretch).map .inputChanged ++ pressed.journal } := by
  rw [List.map_append, Request.performAll_append,
    bind_outcome_of_reached (performAll_keys_outcome uncut session), bind_pure_outcome,
    List.map_singleton, Request.performAll_singleton, bind_pure_outcome, perform_enter_outcome]
  simp only [Option.map_map]
  rfl

theorem input_of_press_enter {session : Session} {pressed : Outcome Unit}
    (reached : (press .enter).outcome session = some pressed) : pressed.session.input = "" := by
  rw [press_enter_outcome] at reached
  obtain ⟨entered, -, rfl⟩ := Option.map_eq_some_iff.mp reached
  rfl

/-- What follows two steps that come to the same but for edits of the buffer may be compared from
where the first step has come to. -/
theorem withoutEdits_bind {α β : Type} {step other : SessionM α} {next further : α → SessionM β}
    {session : Session}
    (before : (step.outcome session).map Outcome.withoutEdits =
      (other.outcome session).map Outcome.withoutEdits)
    (after : ∀ reached, step.outcome session = some reached →
      ((next reached.value).outcome reached.session).map Outcome.withoutEdits =
        ((further reached.value).outcome reached.session).map Outcome.withoutEdits) :
    ((step >>= next).outcome session).map Outcome.withoutEdits =
      ((other >>= further).outcome session).map Outcome.withoutEdits := by
  rw [bind_outcome, bind_outcome]
  cases reached : step.outcome session with
  | none =>
      rw [reached] at before
      rw [Option.map_eq_none_iff.mp before.symm]
      rfl
  | some first =>
      rw [reached] at before
      obtain ⟨second, done, same⟩ := Option.map_eq_some_iff.mp before.symm
      obtain ⟨value, later, journal⟩ := Outcome.mk.inj same
      have rest :=
        congrArg (Option.map (Outcome.after (withoutEdits first.journal))) (after first reached)
      rw [done, Option.bind_some, Option.bind_some, value, later]
      simp only [Option.map_map, Function.comp_def, Outcome.withoutEdits_after, journal] at rest ⊢
      exact rest

/-- Keys do what line mode does for them cut at each Enter, edits of the buffer apart. -/
theorem performAll_keys_eq_lineMode (keys : List Key) (session : Session) :
    ((Request.performAll (keys.map .key)).outcome session).map Outcome.withoutEdits =
      ((lineMode session.input (keys.splitOn .enter)).outcome session).map
        Outcome.withoutEdits := by
  -- Each Enter leaves fewer keys behind it.
  induction length : keys.length using Nat.strongRecOn generalizing keys session with
  | ind _ inductionHypothesis =>
      by_cases cut : .enter ∈ keys
      case neg =>
        rw [List.splitOn_eq_singleton cut, lineMode, performAll_keys_outcome cut, note_bind,
          pure_outcome]
        simp [Outcome.withoutEdits, Outcome.after, Session.apply, withoutEdits]
      case pos =>
        obtain ⟨stretch, rest, rfl, uncut⟩ := List.eq_append_cons_of_mem cut
        obtain ⟨next, stretches, split⟩ :=
          List.exists_cons_of_ne_nil (List.splitOn_ne_nil Key.enter rest)
        have keys : (stretch ++ .enter :: rest).map Request.key =
            (stretch ++ [Key.enter]).map Request.key ++ rest.map .key := by simp
        rw [List.splitOn_append_cons_self_of_not_mem uncut, split, lineMode, keys,
          Request.performAll_append]
        apply withoutEdits_bind
        · rw [performAll_stretch_outcome uncut, enterStretch_outcome, Option.map_map,
            Option.map_map]
          congr 1
          funext pressed
          simp [Outcome.withoutEdits, withoutEdits]
        · intro reached done
          rw [performAll_stretch_outcome uncut] at done
          obtain ⟨pressed, entered, rfl⟩ := Option.map_eq_some_iff.mp done
          apply withoutEdits_bind
          · have empty := input_of_press_enter entered
            have later := inductionHypothesis rest.length (by simp [← length]; omega) rest
              pressed.session rfl
            rwa [empty, split] at later
          · exact fun _ _ => rfl

/-- Wherever a line has got to, the buffer and the history are still those that it found. -/
theorem replay_of_enter {line : String} {session : Session} {entered : Outcome Reply}
    (reached : (enter line).outcome session = some entered) {past : List Event}
    (begun : past <+: entered.journal) :
    (session.replay past).input = session.input ∧
      (session.replay past).history = session.history := by
  obtain ⟨future, whole⟩ := begun
  have untyped : Untyped entered.journal :=
    Course.admits_of_outcome (Course.untyped_isLocal.follows_enter line) reached
  rw [← whole] at untyped
  exact session.replay_of_untyped untyped.left

/-- A text that is submitted is typed without its control characters. -/
theorem submit_outcome (text : String) (session : Session) :
    (submit text).outcome session =
      ((press .enter).outcome { session with input := session.input ++ withoutControls text }).map
        (.after ((typedAlong session.input (text.toList.map .character)).map .inputChanged)) := by
  rw [submit, bind_outcome_of_reached (fold_press_outcome text.toList session),
    typed_map_character, withoutControls]

/-- A line that is submitted on an empty buffer is entered, and then the buffer is emptied. -/
theorem submit_outcome_of_empty {session : Session} (empty : session.input = "") (line : String) :
    (submit line).outcome session =
      ((enter (withoutControls line)).outcome (session.filled line)).map fun entered => {
        value := ()
        session := { entered.session with input := "" }
        journal := edits line ++ (entered.journal ++ [.inputChanged ""]) } := by
  rw [submit_outcome, press_enter_outcome, empty, String.empty_append, Option.map_map,
    Session.filled]
  congr 1
  funext entered
  simp [Outcome.after, edits]

end SessionM

/-- Keys refine lines.

* The keys of a stretch change the buffer alone, which they make what is typed on top of it; each is
  answered with what the buffer holds then.
* Enter adds the buffer to the history unless it is blank, enters it as a line and then empties it,
  whatever comes of the line.  While the line is under way the buffer and the history stay the same.
* So any keys do what line mode does for them cut at each Enter: with the same answers, the same
  session and the same journal but for the edits of the buffer in it.
* Submitting a text is Enter with the text behind the buffer, control characters left out.
-/
theorem keys_refine_lines (session : Session) :
    (∀ keys : List Key, .enter ∉ keys →
      (Request.performAll (keys.map .key)).outcome session = some {
        value := (typedAlong session.input keys).map .input
        session := { session with input := typed session.input keys }
        journal := (typedAlong session.input keys).map .inputChanged }) ∧
    (Request.key .enter).perform.outcome session =
      ((SessionM.enter session.input).outcome session.filed).map (fun entered => {
        value := .input ""
        session := { entered.session with input := "" }
        journal := (remembered session.input).map .lineRemembered ++
          (entered.journal ++ [.inputChanged ""]) }) ∧
    (∀ entered, (SessionM.enter session.input).outcome session.filed = some entered →
      ∀ past, past <+: entered.journal →
        (session.filed.replay past).input = session.input ∧
          (session.filed.replay past).history = session.filed.history) ∧
    (∀ keys : List Key,
      ((Request.performAll (keys.map .key)).outcome session).map Outcome.withoutEdits =
        ((SessionM.lineMode session.input (keys.splitOn .enter)).outcome session).map
          Outcome.withoutEdits) ∧
    ∀ text, (SessionM.submit text).outcome session =
      ((SessionM.press .enter).outcome
          { session with input := session.input ++ withoutControls text }).map
        (.after ((typedAlong session.input (text.toList.map .character)).map .inputChanged)) := by
  refine ⟨fun keys uncut => SessionM.performAll_keys_outcome uncut session, ?_, ?_,
    fun keys => SessionM.performAll_keys_eq_lineMode keys session,
    fun text => SessionM.submit_outcome text session⟩
  · rw [SessionM.perform_enter_outcome, SessionM.press_enter_outcome, Option.map_map]
    rfl
  · exact fun entered reached past begun => SessionM.replay_of_enter reached begun

/-- A slip of the finger that is taken back leaves `ls` to enter. -/
theorem keys_refine_lines_corrected :
    let session := ({} : Config).session
    let keys : List Key := [.character 'l', .character 'x', .backspace, .character 's']
    .enter ∉ keys ∧ typedAlong "" keys = ["l", "lx", "l", "ls"] ∧
      (Request.performAll (keys.map .key)).outcome session = some {
        value := (typedAlong session.input keys).map .input
        session := { session with input := typed session.input keys }
        journal := (typedAlong session.input keys).map .inputChanged } ∧
      (keys ++ [Key.enter]).splitOn .enter = [keys, []] ∧
      ((Request.performAll ((keys ++ [Key.enter]).map .key)).outcome session).map
          Outcome.withoutEdits =
        ((SessionM.lineMode "" [keys, []]).outcome session).map Outcome.withoutEdits := by
  intro session keys
  have uncut : Key.enter ∉ keys := by decide
  have refines := keys_refine_lines session
  have cut : (keys ++ [Key.enter]).splitOn .enter = [keys, []] := by decide +kernel
  have cutKeys := refines.2.2.2.1 (keys ++ [.enter])
  rw [cut] at cutKeys
  exact ⟨uncut, by decide +kernel, refines.1 keys uncut, cut, cutKeys⟩

end VirtualTerminal
