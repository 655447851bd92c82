import VirtualTerminal.FileTree.Resolve
import VirtualTerminal.Proofs.FileTree.Links

/-!
# Where paths lead

Looking a path up leads to a directory of the tree, or else it fails for what the path says or the
tree lacks, never for the content of a file.
-/

namespace VirtualTerminal

/-- A reason why a path leads nowhere, rather than why the file that it leads to does not serve. -/
def PathError.IsOfLookup : PathError → Prop
  | .notText _ | .notExecutable _ => False
  | _ => True

/-- A reason why a way through directories leads nowhere. -/
def PathError.IsOfWay : PathError → Prop
  | .rootHasNoParent | .directoryNotFound _ | .isAFile _ => True
  | _ => False

theorem PathError.IsOfWay.isOfLookup {error : PathError} (lost : error.IsOfWay) :
    error.IsOfLookup := by
  cases error <;> trivial

namespace FileTree

variable {tree : FileTree} {id : DirId} {path : String} {error : PathError}

theorem step_isOfWay {segment : String} (failed : tree.step id segment = .error error) :
    error.IsOfWay := by
  unfold step at failed
  by_cases stays : segment = "."
  · simp [stays] at failed
  rw [if_neg stays] at failed
  by_cases up : segment = ".."
  · rw [if_pos up] at failed
    cases parent : tree.parent? id with
    | some parent' => simp [parent] at failed
    | none =>
        simp only [parent, Except.error.injEq] at failed
        subst failed
        trivial
  · rw [if_neg up] at failed
    rcases found : (tree.children id).find? (tree.nodeName · = segment) with _ | child | file
    · simp only [found, Except.error.injEq] at failed
      subst failed
      trivial
    · simp [found] at failed
    · simp only [found, Except.error.injEq] at failed
      subst failed
      trivial

theorem walk_isOfWay {segments : List String} (failed : tree.walk id segments = .error error) :
    error.IsOfWay := by
  induction segments generalizing id with
  | nil => cases failed
  | cons segment segments inductionHypothesis =>
      rw [walk] at failed
      cases taken : tree.step id segment with
      | ok next =>
          rw [taken] at failed
          exact inductionHypothesis failed
      | error stopped =>
          rw [taken] at failed
          cases failed
          exact step_isOfWay taken

theorem findDirectory_isOfWay (failed : tree.findDirectory id path = .error error) :
    error.IsOfWay := by
  unfold findDirectory at failed
  split at failed
  next => cases failed
  next first rest =>
    split at failed
    next => exact walk_isOfWay failed
    next => exact walk_isOfWay failed

theorem findDirectory_isOfLookup (failed : tree.findDirectory id path = .error error) :
    error.IsOfLookup :=
  (findDirectory_isOfWay failed).isOfLookup

theorem findHolder_isOfWay {name : Path.FileName}
    (failed : tree.findHolder id name = .error error) : error.IsOfWay := by
  unfold findHolder at failed
  split at failed
  next => exact findDirectory_isOfWay failed
  next => cases failed

theorem findFile_isOfLookup (failed : tree.findFile id path = .error error) :
    error.IsOfLookup := by
  unfold findFile at failed
  split at failed
  next =>
    cases failed
    trivial
  next target =>
    split at failed
    next stopped holderless =>
      cases failed
      exact (findHolder_isOfWay holderless).isOfLookup
    next holder =>
      split at failed
      next => cases failed
      next =>
        cases failed
        trivial

/-- The first file of a name in a directory. -/
def fileIn (tree : FileTree) (name : String) (holder : DirId) : Except PathError File :=
  match (tree.files holder).find? (·.name = name) with
  | some file => .ok file
  | none => .error (.fileNotFound name (tree.fullPath holder))

/-- A file is looked up in a directory, which is looked up first. -/
theorem findFile_of_fileName? {target : Path.FileName}
    (named : Path.fileName? path = some target) :
    tree.findFile id path = (tree.findHolder id target).bind (tree.fileIn target.name) := by
  rw [findFile, named]
  dsimp only
  cases tree.findHolder id target <;> rfl

/-- A file that a path leads to is one of the files of a directory. -/
theorem mem_files_of_findFile {file : File} (found : tree.findFile id path = .ok file) :
    ∃ holder < tree.size, file ∈ tree.files holder := by
  unfold findFile at found
  split at found
  next => cases found
  next target =>
    split at found
    next => cases found
    next holder held =>
      split at found
      next present =>
        have member : file ∈ tree.files holder :=
          Except.ok.inj found ▸ List.mem_of_find?_eq_some present
        refine ⟨holder, Nat.lt_of_not_le fun unused => ?_, member⟩
        -- A number that is not in use stands for no files.
        rw [files, children, tree.directory?_eq_none unused] at member
        cases member
      next => cases found

namespace IsLinked

variable (linked : tree.IsLinked) (valid : id < tree.size) {next : DirId}
include linked valid

theorem step_valid {segment : String} (taken : tree.step id segment = .ok next) :
    next < tree.size := by
  unfold step at taken
  split at taken
  next => exact Except.ok.inj taken ▸ valid
  next =>
    split at taken
    next =>
      split at taken
      next parent up =>
        have held := linked.parent?_eq_some_iff.mp up
        exact Except.ok.inj taken ▸ linked.holder_valid held
      next => cases taken
    next =>
      split at taken
      next child found =>
        have held := mem_children_iff_holds.mp (List.mem_of_find?_eq_some found)
        exact Except.ok.inj taken ▸ linked.valid_of_holds held
      next => cases taken
      next => cases taken

theorem walk_valid {segments : List String} (walked : tree.walk id segments = .ok next) :
    next < tree.size := by
  induction segments generalizing id with
  | nil => exact Except.ok.inj walked ▸ valid
  | cons segment segments inductionHypothesis =>
      rw [walk] at walked
      cases taken : tree.step id segment with
      | ok between =>
          rw [taken] at walked
          exact inductionHypothesis (linked.step_valid valid taken) walked
      | error stopped =>
          rw [taken] at walked
          cases walked

theorem findDirectory_valid (found : tree.findDirectory id path = .ok next) :
    next < tree.size := by
  unfold findDirectory at found
  split at found
  next => exact Except.ok.inj found ▸ valid
  next first rest =>
    split at found
    next => exact linked.walk_valid linked.rooted found
    next => exact linked.walk_valid valid found

theorem findHolder_valid {target : Path.FileName} (found : tree.findHolder id target = .ok next) :
    next < tree.size := by
  unfold findHolder at found
  split at found
  next => exact linked.findDirectory_valid valid found
  next => exact Except.ok.inj found ▸ valid

end IsLinked

end FileTree

end VirtualTerminal
