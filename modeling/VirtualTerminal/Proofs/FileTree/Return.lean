import VirtualTerminal.Proofs.FileTree.Files
import VirtualTerminal.Proofs.FileTree.FullPath

/-!
# Up and down again

A path goes down by the lists of children and up by the links to parents.  In a linked tree the two
undo each other: behind the name of a directory, a step up leads to the one that holds it, and the
name leads down again.
-/

namespace VirtualTerminal.FileTree

variable {tree : FileTree} {id next : DirId} {path name : String}

/-- A step by a name goes down. -/
theorem holds_of_step (here : name ≠ ".") (up : name ≠ "..")
    (taken : tree.step id name = .ok next) : tree.Holds id next := by
  rw [step, if_neg here, if_neg up] at taken
  split at taken
  next child found =>
    cases taken
    exact mem_children_iff_holds.mp (List.mem_of_find?_eq_some found)
  next => cases taken
  next => cases taken

theorem IsLinked.step_up (linked : tree.IsLinked) (held : tree.Holds id next) :
    tree.step next ".." = .ok id := by
  rw [step, if_neg (by decide), if_pos rfl, linked.pointsBack next id held]

theorem IsLinked.mem_children_iff (linked : tree.IsLinked) (held : tree.Holds id next)
    (other : DirId) : .directory next ∈ tree.children other ↔ other = id := by
  rw [mem_children_iff_holds]
  constructor
  · exact fun too => linked.unique too held
  · rintro rfl
    exact held

/-- A slash behind a name is not seen. -/
theorem findDirectory_append_final_slash (final : (Path.segments path).getLast? ≠ some "") :
    tree.findDirectory id (path ++ "/") = tree.findDirectory id path := by
  have whole := Path.segments_append_final_slash path
  by_cases absolute : tree.IsAbsolute path
  · obtain ⟨rest, segments⟩ := List.head?_eq_some_iff.mp absolute
    rw [segments] at final
    have restFinal := Path.getLast?_ne_empty_of_cons final
    rw [segments, List.cons_append] at whole
    rw [findDirectory_of_absolute whole, findDirectory_of_absolute segments,
      Path.dropFinalSlash_append_empty, Path.dropFinalSlash_eq_self restFinal]
  · have relative : ¬tree.IsAbsolute (path ++ "/") := mt isAbsolute_append_final_slash.mp absolute
    rw [findDirectory_of_relative relative, findDirectory_of_relative absolute, whole,
      Path.dropFinalSlash_append_empty, Path.dropFinalSlash_eq_self final]

/-- A further name is looked up where the path in front of it leads. -/
theorem findDirectory_append_slash_name (final : (Path.segments path).getLast? ≠ some "")
    (slashless : '/' ∉ name.toList) (filled : name ≠ "") :
    tree.findDirectory id (path ++ "/" ++ name) =
      (tree.findDirectory id path).bind (tree.step · name) := by
  rw [findDirectory_append_name slashless filled, findDirectory_append_final_slash final]

/-- The last step of a path is by its last segment, from where the text in front of it leads. -/
theorem exists_last_step (last : (Path.segments path).getLast? = some name) (filled : name ≠ "")
    (other : path ≠ tree.name root) (found : tree.findDirectory id path = .ok next) :
    ∃ holder, tree.step holder name = .ok next ∧
      (∀ front, path = front ++ "/" ++ name → tree.findDirectory id (front ++ "/") = .ok holder) ∧
      ('/' ∉ path.toList → holder = id) := by
  rcases Path.slashless_or_eq_append path with slashless | ⟨front, segment, slashless, rfl⟩
  · have whole := Path.segments_eq_singleton slashless
    obtain rfl : path = name := by simpa [whole] using last
    refine ⟨id, ?_, ?_, fun _ => rfl⟩
    · rwa [findDirectory_of_slashless slashless filled other] at found
    · rintro front same
      rw [same] at slashless
      exact absurd (by simp) slashless
  · have whole := Path.segments_append_slash front segment
    rw [Path.segments_eq_singleton slashless] at whole
    obtain rfl : segment = name := by simpa [whole] using last
    rw [findDirectory_append_name slashless filled] at found
    cases held : tree.findDirectory id (front ++ "/") with
    | error error => simp [held, Except.bind] at found
    | ok holder =>
        rw [held] at found
        refine ⟨holder, found, ?_, fun none => absurd (by simp) none⟩
        intro another same
        have front_eq : front = another := by
          have chars := congrArg String.toList same
          apply String.toList_inj.mp
          simpa using chars
        rw [← front_eq, held]

/-- In every tree that can be grown, a path to a directory whose last segment is a name leads with a
step up behind it to the one directory that has this one among its children.  There the text up to
the last slash leads as well, and where there is no slash it is the directory that the path started
from.  With the name once more behind the step up, the path leads to the directory again. -/
theorem up_and_down_again (grown : tree.Grown) {workingDirectory id : DirId}
    (last : (Path.segments path).getLast? = some name) (filled : name ≠ "") (here : name ≠ ".")
    (up : name ≠ "..") (other : path ≠ tree.name root)
    (found : tree.findDirectory workingDirectory path = .ok id) :
    ∃ holder,
      (∀ directory, .directory id ∈ tree.children directory ↔ directory = holder) ∧
      tree.findDirectory workingDirectory (path ++ "/..") = .ok holder ∧
      (∀ front, path = front ++ "/" ++ name →
        tree.findDirectory workingDirectory (front ++ "/") = .ok holder) ∧
      ('/' ∉ path.toList → holder = workingDirectory) ∧
      tree.findDirectory workingDirectory (path ++ "/../" ++ name) = .ok id := by
  have linked := grown.isLinked
  obtain ⟨holder, down, front, start⟩ := exists_last_step last filled other found
  have held := holds_of_step here up down
  have final : (Path.segments path).getLast? ≠ some "" := by simpa [last] using filled
  have risen : tree.findDirectory workingDirectory (path ++ "/" ++ "..") = .ok holder := by
    rw [findDirectory_append_slash_name final (by decide) (by decide), found]
    exact linked.step_up held
  have slashless : '/' ∉ name.toList := by
    have member := List.mem_of_getLast? last
    obtain ⟨piece, inside, rfl⟩ := List.mem_map.mp member
    rw [String.toList_ofList]
    exact Text.not_mem_of_mem_pieces inside
  have lifted : (Path.segments (path ++ "/" ++ "..")).getLast? ≠ some "" := by
    have dots : Path.segments ".." = [".."] := Path.segments_eq_singleton (by decide)
    rw [Path.segments_append_slash, dots]
    simp
  refine ⟨holder, linked.mem_children_iff held, ?_, front, start, ?_⟩
  · rw [← risen, String.append_assoc]
    rfl
  · have spelled : path ++ "/../" ++ name = path ++ "/" ++ ".." ++ "/" ++ name := by
      apply String.toList_inj.mp
      simp
    rw [spelled, findDirectory_append_slash_name lifted slashless filled, risen]
    exact down

/-- From a directory without a name, the path goes through another one to a directory that bears the
name of the root. -/
theorem up_and_down_again_nameless :
    namelessTree.Grown ∧ (Path.segments "home//home").getLast? = some "home" ∧
    "home//home" ≠ namelessTree.name root ∧
    namelessTree.findDirectory 3 "home//home" = .ok 2 ∧
    namelessTree.findDirectory 3 "home//home/.." = .ok 1 ∧
    namelessTree.findDirectory 3 "home//" = .ok 1 ∧
    namelessTree.findDirectory 3 "home//home/../home" = .ok 2 := by
  have grown : namelessTree.Grown := .ofLayout _
  have last : (Path.segments "home//home").getLast? = some "home" := by decide +kernel
  have other : "home//home" ≠ namelessTree.name root := by decide +kernel
  have found : namelessTree.findDirectory 3 "home//home" = .ok 2 := by decide +kernel
  obtain ⟨holder, held, risen, front, -, again⟩ :=
    up_and_down_again grown last (by decide) (by decide) (by decide) other found
  obtain rfl : 1 = holder := (held 1).mp (by decide +kernel)
  exact ⟨grown, last, other, found, risen, front "home/" (by decide +kernel), again⟩

end VirtualTerminal.FileTree
