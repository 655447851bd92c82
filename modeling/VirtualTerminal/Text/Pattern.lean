/-!
Patterns that texts are matched against.

From some point of a text a pattern may be read in several ways, which differ in how far they reach
and in what its groups hold.  `ways` lists them in the order of preference: a repetition reaches as
far as it can, and what is optional is read if it can be.  What a pattern finds in a text is the
preferred way from the leftmost point from which there is one.
-/

namespace VirtualTerminal.Text

inductive Pattern
  /-- The start of the text. -/
  | start
  /-- The end of the text. -/
  | stop
  | literal (c : Char)
  /-- Any number of characters, of which none is excluded. -/
  | many (excluded : List Char)
  | next (first second : Pattern)
  | optional (inner : Pattern)
  /-- Keeps what the inner pattern has read under a number. -/
  | group (number : Nat) (inner : Pattern)
  deriving Repr, DecidableEq

namespace Pattern

/-- A point of a text: what has been read, the latest character in front, what has not, and the texts
of the groups, the latest in front. -/
structure Point where
  past : List Char := []
  rest : List Char
  groups : List (Nat × List Char) := []
  deriving Repr, DecidableEq

namespace Point

/-- What has been read since another point. -/
def since (point earlier : Point) : List Char :=
  (point.past.take (point.past.length - earlier.past.length)).reverse

def keep (point : Point) (number : Nat) (text : List Char) : Point :=
  { point with groups := (number, text) :: point.groups }

def group? (point : Point) (number : Nat) : Option String :=
  (point.groups.lookup number).map String.ofList

end Point

/-- The points after any number of characters that are not excluded, the furthest first. -/
def repetitions (excluded : List Char) (groups : List (Nat × List Char)) (past : List Char) :
    List Char → List Point
  | [] => [⟨past, [], groups⟩]
  | c :: rest =>
      (if c ∈ excluded then [] else repetitions excluded groups (c :: past) rest) ++
        [⟨past, c :: rest, groups⟩]

/-- The points that a pattern can be read up to, the preferred one first. -/
def ways : Pattern → Point → List Point
  | .start, point => if point.past = [] then [point] else []
  | .stop, point => if point.rest = [] then [point] else []
  | .literal c, point =>
      match point.rest with
      | [] => []
      | first :: rest =>
          if first = c then [{ point with past := first :: point.past, rest := rest }] else []
  | .many excluded, point => repetitions excluded point.groups point.past point.rest
  | .next first second, point => (first.ways point).flatMap second.ways
  | .optional inner, point => inner.ways point ++ [point]
  | .group number inner, point =>
      (inner.ways point).map fun reached => reached.keep number (reached.since point)

/-- Goes along a text until there is a way. -/
def search (pattern : Pattern) (past : List Char) : List Char → Option Point
  | [] => (pattern.ways { past := past, rest := [] }).head?
  | c :: rest =>
      (pattern.ways { past := past, rest := c :: rest }).head?.or
        (search pattern (c :: past) rest)

def match? (pattern : Pattern) (text : String) : Option Point :=
  pattern.search [] text.toList

/-- Whether a pattern never reads a character. -/
def Avoids (c : Char) : Pattern → Prop
  | .start | .stop => True
  | .literal d => d ≠ c
  | .many excluded => c ∈ excluded
  | .next first second => first.Avoids c ∧ second.Avoids c
  | .optional inner | .group _ inner => inner.Avoids c

variable {pattern : Pattern} {point reached : Point} {c : Char}

theorem repetitions_cons (excluded : List Char) (groups : List (Nat × List Char))
    (past : List Char) (c : Char) (rest : List Char) :
    repetitions excluded groups past (c :: rest) =
      (if c ∈ excluded then [] else repetitions excluded groups (c :: past) rest) ++
        [⟨past, c :: rest, groups⟩] := rfl

theorem ways_start : start.ways point = if point.past = [] then [point] else [] := rfl

theorem ways_stop : stop.ways point = if point.rest = [] then [point] else [] := rfl

theorem ways_literal_of_rest_nil (ended : point.rest = []) : (literal c).ways point = [] := by
  cases point
  cases ended
  rfl

theorem ways_literal_of_rest_cons {first : Char} {rest : List Char}
    (begun : point.rest = first :: rest) :
    (literal c).ways point =
      if first = c then [{ point with past := first :: point.past, rest := rest }] else [] := by
  cases point
  cases begun
  rfl

theorem ways_next (first second : Pattern) :
    (first.next second).ways point = (first.ways point).flatMap second.ways := rfl

theorem ways_optional (inner : Pattern) :
    inner.optional.ways point = inner.ways point ++ [point] := rfl

theorem ways_group (number : Nat) (inner : Pattern) :
    (inner.group number).ways point =
      (inner.ways point).map fun reached => reached.keep number (reached.since point) := rfl

theorem exists_of_mem_repetitions {excluded : List Char} {groups : List (Nat × List Char)}
    {past rest : List Char} (member : reached ∈ repetitions excluded groups past rest) :
    ∃ text, rest = text ++ reached.rest ∧ ∀ c ∈ excluded, c ∉ text := by
  induction rest generalizing past with
  | nil =>
      have same : reached = ⟨past, [], groups⟩ := List.mem_singleton.mp member
      exact ⟨[], by rw [same, List.nil_append], fun _ _ => List.not_mem_nil⟩
  | cons d rest inductionHypothesis =>
      rw [repetitions_cons, List.mem_append, List.mem_singleton] at member
      rcases member with further | rfl
      · split at further
        next => cases further
        next included =>
          obtain ⟨text, rfl, absent⟩ := inductionHypothesis further
          refine ⟨d :: text, rfl, fun c excludes => ?_⟩
          have other : c ≠ d := fun same => included (same ▸ excludes)
          simp [other, absent c excludes]
      · exact ⟨[], rfl, fun _ _ => List.not_mem_nil⟩

/-- A pattern reads what comes next, and none of the characters that it avoids. -/
theorem exists_of_mem_ways (member : reached ∈ pattern.ways point) :
    ∃ text, point.rest = text ++ reached.rest ∧ ∀ c, pattern.Avoids c → c ∉ text := by
  induction pattern generalizing point reached with
  | start =>
      rw [ways_start] at member
      split at member
      next =>
        rw [List.mem_singleton.mp member]
        exact ⟨[], rfl, fun _ _ => List.not_mem_nil⟩
      next => cases member
  | stop =>
      rw [ways_stop] at member
      split at member
      next =>
        rw [List.mem_singleton.mp member]
        exact ⟨[], rfl, fun _ _ => List.not_mem_nil⟩
      next => cases member
  | literal d =>
      cases begun : point.rest with
      | nil =>
          rw [ways_literal_of_rest_nil begun] at member
          cases member
      | cons first rest =>
          rw [ways_literal_of_rest_cons begun] at member
          split at member
          next same =>
            refine ⟨[first], by rw [List.mem_singleton.mp member]; rfl, fun c other => ?_⟩
            rw [List.mem_singleton, same]
            exact Ne.symm other
          next => cases member
  | many excluded => exact exists_of_mem_repetitions member
  | next first second first_ih second_ih =>
      obtain ⟨between, start, finish⟩ := List.mem_flatMap.mp member
      obtain ⟨text, before, absent⟩ := first_ih start
      obtain ⟨further, after, absentToo⟩ := second_ih finish
      refine ⟨text ++ further, by rw [before, after, List.append_assoc], fun c avoids => ?_⟩
      rw [List.mem_append, not_or]
      exact ⟨absent c avoids.1, absentToo c avoids.2⟩
  | optional inner inner_ih =>
      rw [ways_optional, List.mem_append, List.mem_singleton] at member
      rcases member with inside | rfl
      · exact inner_ih inside
      · exact ⟨[], rfl, fun _ _ => List.not_mem_nil⟩
  | group number inner inner_ih =>
      obtain ⟨inside, among, rfl⟩ := List.mem_map.mp member
      obtain ⟨text, read, absent⟩ := inner_ih among
      exact ⟨text, read, absent⟩

theorem ways_next_literal_of_not_mem (absent : c ∉ point.rest) (first : Pattern) :
    (first.next (literal c)).ways point = [] := by
  rw [ways_next, List.flatMap_eq_nil_iff]
  intro reached member
  obtain ⟨text, read, -⟩ := exists_of_mem_ways member
  cases begun : reached.rest with
  | nil => exact ways_literal_of_rest_nil begun
  | cons d rest =>
      have other : d ≠ c := by
        rintro rfl
        exact absent (by simp [read, begun])
      rw [ways_literal_of_rest_cons begun, if_neg other]

/-- The preferred way of a pattern from a point. -/
def Prefers (pattern : Pattern) (point reached : Point) : Prop :=
  (pattern.ways point).head? = some reached

theorem prefers_stop (ended : point.rest = []) : stop.Prefers point point := by
  rw [Prefers, ways_stop, if_pos ended, List.head?_cons]

theorem prefers_many {excluded text : List Char} {groups : List (Nat × List Char)}
    {past : List Char} (included : ∀ d ∈ text, d ∉ excluded) :
    (many excluded).Prefers ⟨past, text, groups⟩ ⟨text.reverse ++ past, [], groups⟩ := by
  show (repetitions excluded groups past text).head? = _
  induction text generalizing past with
  | nil => rfl
  | cons d text inductionHypothesis =>
      obtain ⟨here, later⟩ := List.forall_mem_cons.mp included
      rw [repetitions_cons, if_neg here, List.head?_append, inductionHypothesis later]
      simp

theorem prefers_next {first second : Pattern} {between : Point}
    (before : first.Prefers point between) (after : second.Prefers between reached) :
    (first.next second).Prefers point reached := by
  obtain ⟨others, found⟩ := List.head?_eq_some_iff.mp before
  rw [Prefers, ways_next, found, List.flatMap_cons, List.head?_append, after, Option.some_or]

theorem prefers_optional {inner : Pattern} (before : inner.Prefers point reached) :
    inner.optional.Prefers point reached := by
  rw [Prefers, ways_optional, List.head?_append, before, Option.some_or]

theorem prefers_optional_of_none {inner : Pattern} (none : inner.ways point = []) :
    inner.optional.Prefers point point := by
  rw [Prefers, ways_optional, none]
  rfl

theorem prefers_group {inner : Pattern} (number : Nat) (before : inner.Prefers point reached) :
    (inner.group number).Prefers point (reached.keep number (reached.since point)) := by
  rw [Prefers, ways_group, List.head?_map, before, Option.map_some]

theorem Point.since_append {text past rest later : List Char}
    {groups earlier : List (Nat × List Char)} :
    Point.since ⟨text ++ past, rest, groups⟩ ⟨past, later, earlier⟩ = text.reverse := by
  simp [Point.since]

/-- Only the leftmost point is at the start. -/
theorem search_start_next {past : List Char} (begun : past ≠ []) (inner : Pattern)
    (rest : List Char) : (start.next inner).search past rest = none := by
  induction rest generalizing past with
  | nil =>
      have none : (start.next inner).ways { past := past, rest := [] } = [] := by
        rw [ways_next, ways_start, if_neg begun, List.flatMap_nil]
      rw [search, none, List.head?_nil]
  | cons c rest inductionHypothesis =>
      have none : (start.next inner).ways { past := past, rest := c :: rest } = [] := by
        rw [ways_next, ways_start, if_neg begun, List.flatMap_nil]
      rw [search, none, List.head?_nil, Option.none_or,
        inductionHypothesis (List.cons_ne_nil c past)]

theorem match?_start_next (inner : Pattern) (text : String) :
    (start.next inner).match? text = (inner.ways { rest := text.toList }).head? := by
  have first : (start.next inner).ways { rest := text.toList } =
      inner.ways { rest := text.toList } := by
    rw [ways_next, ways_start, if_pos rfl, List.flatMap_singleton]
  rw [match?, ← first]
  cases text.toList with
  | nil => rfl
  | cons c rest =>
      rw [search, search_start_next (List.cons_ne_nil c []), Option.or_none]

end Pattern

end VirtualTerminal.Text
