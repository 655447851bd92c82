import VirtualTerminal.Text.Pattern
import VirtualTerminal.Text.Pieces

/-!
Paths as texts.  A path is its segments between slashes, empty ones included: an empty first segment
is what stands before a leading slash.

A path names a file if it has no line break, is not empty and does not end in a slash; the file's
name is then what follows the last slash.
-/

namespace VirtualTerminal.Path

def segments (path : String) : List String :=
  Text.split '/' path

/-- Drops the empty segment that a final slash leaves behind. -/
def dropFinalSlash (segments : List String) : List String :=
  if segments.getLast? = some "" then segments.dropLast else segments

structure FileName where
  /-- All up to and with the last slash, if there is one. -/
  directory : Option String
  name : String
  deriving Repr, DecidableEq

def fileName? (path : String) : Option FileName :=
  let backwards := path.toList.reverse
  let name := (backwards.takeWhile (· ≠ '/')).reverse
  let directory := (backwards.dropWhile (· ≠ '/')).reverse
  if '\n' ∈ backwards ∨ name = [] then none
  else some {
    directory := if directory = [] then none else some (String.ofList directory)
    name := String.ofList name }

/-- A directory that ends in a slash, if there is one, and a name: `^(.*/)?([^/\n]*)$`. -/
def filePattern : Text.Pattern :=
  .next .start <|
  .next (.optional (.group 1 (.next (.many ['\n']) (.literal '/')))) <|
  .next (.group 2 (.many ['/', '\n'])) .stop

/-- What `filePattern` finds in a path, unless the name is empty. -/
def matchedName? (path : String) : Option FileName := do
  let found ← filePattern.match? path
  let name := (found.group? 2).getD ""
  if name = "" then none else some { directory := found.group? 1, name := name }

theorem segments_ne_nil (path : String) : segments path ≠ [] := by
  simp [segments, Text.split, Text.pieces]

theorem segments_append_slash (first second : String) :
    segments (first ++ "/" ++ second) = segments first ++ segments second := by
  have text : (first ++ "/" ++ second).toList = first.toList ++ '/' :: second.toList := by simp
  rw [segments, Text.split, text, Text.pieces_append_separator, List.map_append]
  rfl

theorem segments_append_final_slash (path : String) :
    segments (path ++ "/") = segments path ++ [""] := by
  rw [← String.append_empty (s := path ++ "/"), segments_append_slash]
  rfl

theorem segments_eq_singleton {name : String} (slashless : '/' ∉ name.toList) :
    segments name = [name] := by
  rw [segments, Text.split, Text.pieces_eq_singleton slashless, List.map_singleton,
    String.ofList_toList]

@[simp]
theorem dropFinalSlash_append_empty (segments : List String) :
    dropFinalSlash (segments ++ [""]) = segments := by
  simp [dropFinalSlash]

@[simp]
theorem dropFinalSlash_nil : dropFinalSlash [] = [] := rfl

/-- Only the last segment matters, so the ones in front of others stay as they are. -/
theorem dropFinalSlash_append (first : List String) {second : List String}
    (nonempty : second ≠ []) :
    dropFinalSlash (first ++ second) = first ++ dropFinalSlash second := by
  have last : (first ++ second).getLast? = second.getLast? := by
    rw [List.getLast?_append, List.getLast?_eq_some_getLast nonempty, Option.some_or]
  unfold dropFinalSlash
  rw [last, List.dropLast_append_of_ne_nil nonempty]
  split <;> rfl

theorem dropFinalSlash_eq_self {segments : List String}
    (final : segments.getLast? ≠ some "") : dropFinalSlash segments = segments := by
  simp [dropFinalSlash, final]

theorem getLast?_ne_empty_of_cons {first : String} {rest : List String}
    (final : (first :: rest).getLast? ≠ some "") : rest.getLast? ≠ some "" := by
  cases rest with
  | nil => simp
  | cons second rest => rwa [List.getLast?_cons_cons] at final

/-- In a path with slashes a last one stands in front of the name. -/
theorem slashless_or_eq_append (path : String) :
    '/' ∉ path.toList ∨ ∃ front name, '/' ∉ name.toList ∧ path = front ++ "/" ++ name := by
  by_cases slash : '/' ∈ path.toList
  · obtain ⟨name, front, backwards, slashless⟩ :=
      List.eq_append_cons_of_mem (List.mem_reverse.mpr slash)
    refine .inr ⟨String.ofList front.reverse, String.ofList name.reverse, by simpa, ?_⟩
    apply String.toList_inj.mp
    rw [← List.reverse_reverse path.toList, backwards]
    simp
  · exact .inl slash

theorem fileName?_of_toList_eq {path name : String} {front : List Char}
    (text : path.toList = front ++ name.toList) (slashless : '/' ∉ name.toList)
    (final : front = [] ∨ ∃ before, front = before ++ ['/']) :
    fileName? path =
      if '\n' ∈ path.toList ∨ name = "" then none
      else some {
        directory := if front = [] then none else some (String.ofList front)
        name := name } := by
  have inName : ∀ c ∈ name.toList.reverse, decide (c ≠ '/') = true := by
    intro c member
    have inside := List.mem_reverse.mp member
    exact decide_eq_true fun same => slashless (same ▸ inside)
  have backwards : path.toList.reverse = name.toList.reverse ++ front.reverse := by simp [text]
  -- Read backwards, the front is empty or starts with the slash that ends the name.
  have taken : front.reverse.takeWhile (· ≠ '/') = [] := by
    rcases final with rfl | ⟨before, rfl⟩ <;> simp
  have dropped : front.reverse.dropWhile (· ≠ '/') = front.reverse := by
    rcases final with rfl | ⟨before, rfl⟩ <;> simp
  rw [fileName?, backwards, List.takeWhile_append_of_pos inName,
    List.dropWhile_append_of_pos inName, taken, dropped, ← backwards]
  simp

theorem fileName?_of_slashless {name : String} (slashless : '/' ∉ name.toList) :
    fileName? name =
      if '\n' ∈ name.toList ∨ name = "" then none
      else some { directory := none, name := name } := by
  have text : name.toList = [] ++ name.toList := rfl
  exact fileName?_of_toList_eq text slashless (.inl rfl)

theorem fileName?_append {name : String} (slashless : '/' ∉ name.toList) (front : String) :
    fileName? (front ++ "/" ++ name) =
      if '\n' ∈ (front ++ "/" ++ name).toList ∨ name = "" then none
      else some { directory := some (front ++ "/"), name := name } := by
  have text : (front ++ "/" ++ name).toList = (front ++ "/").toList ++ name.toList :=
    String.toList_append
  have ends : (front ++ "/").toList = front.toList ++ ['/'] := by simp
  have filled : (front ++ "/").toList ≠ [] := by simp
  rw [fileName?_of_toList_eq text slashless (.inr ⟨front.toList, ends⟩), if_neg filled,
    String.ofList_toList]

end VirtualTerminal.Path
