import Mathlib.Data.List.Find
import VirtualTerminal.Proofs.FileTree.FullPath
import VirtualTerminal.Proofs.FileTree.Lookup

/-!
# Growing trees

Directories and files that are added to a tree go behind what is there: a directory is numbered
after all others and listed after its siblings.  A path is followed to the first child of each name
on it, so it meets again what it met before, and can lead elsewhere only if something was not found.
-/

namespace VirtualTerminal

/-- What was looked for is not there. -/
def PathError.IsAbsence : PathError → Prop
  | .directoryNotFound _ | .fileNotFound _ _ => True
  | _ => False

namespace FileTree

/-- The trees that come of adding directories and files to the directories of a tree. -/
inductive GrowsTo (tree : FileTree) : FileTree → Prop
  | refl : GrowsTo tree tree
  | addDirectory {more : FileTree} {parent : DirId} (grows : GrowsTo tree more)
      (valid : parent < more.size) (name : String) : GrowsTo tree (more.addDirectory parent name)
  | addFile {more : FileTree} {id : DirId} (grows : GrowsTo tree more) (valid : id < more.size)
      (file : File) : GrowsTo tree (more.addFile id file)

/-- Each directory of a tree is one of another's as well, with its name and its parent, and lists
its children there in front of any others. -/
def IsKeptIn (tree more : FileTree) : Prop :=
  ∀ id directory, tree.directory? id = some directory →
    ∃ added, more.directory? id =
      some { directory with children := directory.children ++ added }

/-- A look-up ends as it did before, unless it did not find then what it was looking for. -/
def Lasts {Found : Type} (before after : Except PathError Found) : Prop :=
  after = before ∨ ∃ error, before = .error error ∧ error.IsAbsence

variable {tree more : FileTree}

theorem GrowsTo.grown (grown : tree.Grown) (grows : tree.GrowsTo more) : more.Grown := by
  induction grows with
  | refl => exact grown
  | addDirectory _ valid name before => exact before.addDirectory valid name
  | addFile _ valid file before => exact before.addFile valid file

namespace IsKeptIn

theorem refl (tree : FileTree) : tree.IsKeptIn tree := by
  intro id directory found
  exact ⟨[], by rw [found, List.append_nil]⟩

theorem trans {most : FileTree} (first : tree.IsKeptIn more) (second : more.IsKeptIn most) :
    tree.IsKeptIn most := by
  intro id directory found
  obtain ⟨added, foundMore⟩ := first id directory found
  obtain ⟨later, foundMost⟩ := second id _ foundMore
  exact ⟨added ++ later, by rw [foundMost, List.append_assoc]⟩

theorem push (tree : FileTree) (directory : Directory) :
    tree.IsKeptIn (tree.push directory) := by
  intro id old found
  have inUse : id < tree.size := tree.directory?_isSome.mp (found ▸ rfl)
  refine ⟨[], ?_⟩
  rw [directory?_push, if_neg (Nat.ne_of_lt inUse), found, List.append_nil]

theorem addChild (tree : FileTree) (holder : DirId) (node : Node) :
    tree.IsKeptIn (tree.addChild holder node) := by
  intro id old found
  rw [directory?_addChild, found]
  by_cases here : holder = id
  · exact ⟨[node], if_pos here⟩
  · exact ⟨[], by rw [if_neg here, List.append_nil]⟩

end IsKeptIn

theorem GrowsTo.isKeptIn (grows : tree.GrowsTo more) : tree.IsKeptIn more := by
  induction grows with
  | refl => exact .refl tree
  | addDirectory _ _ name before => exact before.trans ((IsKeptIn.push _ _).trans (.addChild _ _ _))
  | addFile _ _ file before => exact before.trans (.addChild _ _ _)

namespace IsKeptIn

section

variable (kept : tree.IsKeptIn more) {id : DirId} (valid : id < tree.size)
include kept valid

theorem of_valid :
    ∃ directory added, tree.directory? id = some directory ∧
      more.directory? id = some { directory with children := directory.children ++ added } := by
  obtain ⟨directory, found⟩ := tree.exists_directory? valid
  obtain ⟨added, foundMore⟩ := kept id directory found
  exact ⟨directory, added, found, foundMore⟩

theorem name_eq : more.name id = tree.name id := by
  obtain ⟨directory, added, found, foundMore⟩ := kept.of_valid valid
  simp [name, found, foundMore]

theorem parent?_eq : more.parent? id = tree.parent? id := by
  obtain ⟨directory, added, found, foundMore⟩ := kept.of_valid valid
  simp [parent?, found, foundMore]

theorem children_eq : ∃ added, more.children id = tree.children id ++ added := by
  obtain ⟨directory, added, found, foundMore⟩ := kept.of_valid valid
  exact ⟨added, by simp [children, found, foundMore]⟩

end

theorem holds (kept : tree.IsKeptIn more) {holder id : DirId} (valid : holder < tree.size)
    (held : tree.Holds holder id) : more.Holds holder id := by
  obtain ⟨added, children⟩ := kept.children_eq valid
  rw [← mem_children_iff_holds, children]
  exact List.mem_append_left added (mem_children_iff_holds.mpr held)

end IsKeptIn

namespace Lasts

variable {Found Further : Type} {before after : Except PathError Found}

theorem bind (lasts : Lasts before after) {next later : Found → Except PathError Further}
    (further : ∀ found, before = .ok found → Lasts (next found) (later found)) :
    Lasts (before.bind next) (after.bind later) := by
  rcases lasts with rfl | ⟨error, failed, absence⟩
  · cases after with
    | ok found => exact further found rfl
    | error error => exact .inl rfl
  · exact .inr ⟨error, by rw [failed]; rfl, absence⟩

theorem eq_ok {found : Found} (lasts : Lasts (.ok found) after) : after = .ok found := by
  rcases lasts with same | ⟨error, failed, -⟩
  · exact same
  · cases failed

end Lasts

section

variable (linked : tree.IsLinked) (kept : tree.IsKeptIn more) {id : DirId}
include linked kept

/-- Children that were there before go by the names that they had. -/
theorem find?_nodeName (name : String) :
    (tree.children id).find? (more.nodeName · = name) =
      (tree.children id).find? (tree.nodeName · = name) := by
  apply List.find?_congr
  intro node member
  cases node with
  | file file => rfl
  | directory child =>
      have inUse := linked.valid_of_holds (mem_children_iff_holds.mp member)
      exact congrArg (fun known => decide (known = name)) (kept.name_eq inUse)

section

variable (valid : id < tree.size)
include valid

theorem lasts_step (segment : String) :
    Lasts (tree.step id segment) (more.step id segment) := by
  obtain ⟨added, children⟩ := kept.children_eq valid
  unfold step
  by_cases stays : segment = "."
  · simp only [if_pos stays]
    exact .inl rfl
  by_cases up : segment = ".."
  · simp only [if_neg stays, if_pos up, kept.parent?_eq valid]
    exact .inl rfl
  · simp only [if_neg stays, if_neg up, children, List.find?_append,
      find?_nodeName linked kept]
    cases (tree.children id).find? (tree.nodeName · = segment) with
    | none => exact .inr ⟨_, rfl, trivial⟩
    | some node => exact .inl rfl

theorem lasts_walk (segments : List String) :
    Lasts (tree.walk id segments) (more.walk id segments) := by
  induction segments generalizing id with
  | nil => exact .inl rfl
  | cons segment segments inductionHypothesis =>
      rw [walk_cons, walk_cons]
      exact (lasts_step linked kept valid segment).bind fun next taken =>
        inductionHypothesis (linked.step_valid valid taken)

theorem lasts_findDirectory (path : String) :
    Lasts (tree.findDirectory id path) (more.findDirectory id path) := by
  unfold findDirectory
  rw [kept.name_eq linked.rooted]
  cases Path.segments path with
  | nil => exact .inl rfl
  | cons first rest =>
      by_cases absolute : first = tree.name root
      · simp only [if_pos absolute]
        exact lasts_walk linked kept linked.rooted _
      · simp only [if_neg absolute]
        exact lasts_walk linked kept valid _

theorem lasts_findHolder (target : Path.FileName) :
    Lasts (tree.findHolder id target) (more.findHolder id target) := by
  unfold findHolder
  cases target.directory with
  | none => exact .inl rfl
  | some path => exact lasts_findDirectory linked kept valid path

omit linked in
theorem lasts_fileIn (name : String) : Lasts (tree.fileIn name id) (more.fileIn name id) := by
  obtain ⟨added, children⟩ := kept.children_eq valid
  unfold fileIn files
  rw [children, List.filterMap_append, List.find?_append]
  cases ((tree.children id).filterMap Node.file?).find? (·.name = name) with
  | none => exact .inr ⟨_, rfl, trivial⟩
  | some file => exact .inl rfl

theorem lasts_findFile (path : String) :
    Lasts (tree.findFile id path) (more.findFile id path) := by
  cases named : Path.fileName? path with
  | none =>
      simp only [findFile, named]
      exact .inl rfl
  | some target =>
      rw [findFile_of_fileName? named, findFile_of_fileName? named]
      exact (lasts_findHolder linked kept valid target).bind fun holder held =>
        lasts_fileIn kept (linked.findHolder_valid valid held) target.name

end

theorem fullPath_of_isKeptIn (moreLinked : more.IsLinked) (way : tree.Reaches root id) :
    more.fullPath id = tree.fullPath id := by
  induction way with
  | refl => rw [moreLinked.fullPath_root, linked.fullPath_root, kept.name_eq linked.rooted]
  | tail above held inductionHypothesis =>
      have heldMore := kept.holds (linked.holder_valid held) held
      rw [moreLinked.fullPath_of_holds heldMore, linked.fullPath_of_holds held,
        inductionHypothesis, kept.name_eq (linked.valid_of_holds held)]

end

/-- In every tree that can be grown, from every directory of it, and for every path: however many
directories and files are added to the tree, the path leads to the directory and to the file that
it led to, or fails for the reason that it failed for, unless that was that something was not found.
Every directory that was there keeps its full path. -/
theorem lookups_survive_growth (grown : tree.Grown) (grows : tree.GrowsTo more)
    {workingDirectory : DirId} (valid : workingDirectory < tree.size) :
    (∀ path, Lasts (tree.findDirectory workingDirectory path)
      (more.findDirectory workingDirectory path)) ∧
    (∀ path, Lasts (tree.findFile workingDirectory path)
      (more.findFile workingDirectory path)) ∧
    ∀ id < tree.size, more.fullPath id = tree.fullPath id := by
  have linked := grown.isLinked
  have kept := grows.isKeptIn
  refine ⟨lasts_findDirectory linked kept valid, lasts_findFile linked kept valid, ?_⟩
  intro id inUse
  exact fullPath_of_isKeptIn linked kept (grows.grown grown).isLinked (linked.reaches_root inUse)

/-- A directory and a file of the name that another directory bore before them. -/
def crowdedTree : FileTree :=
  (extendedTree.addDirectory 1 "c").addFile 1 { helloWorld with name := "c" }

theorem crowdedTree_grows : extendedTree.GrowsTo crowdedTree :=
  .addFile (.addDirectory .refl (by decide) "c") (by decide) _

/-- The name still leads to the directory that bore it first, and to what is in that. -/
theorem lookups_survive_growth_crowded :
    extendedTree.Grown ∧ extendedTree.GrowsTo crowdedTree ∧ 2 < extendedTree.size ∧
    crowdedTree.findDirectory 2 "../c" = .ok 3 ∧
    crowdedTree.findFile 2 "../c/hello_world.exe" = .ok helloWorld ∧
    crowdedTree.fullPath 3 = "/a/c/" := by
  have valid : 2 < extendedTree.size := by decide
  obtain ⟨directories, files, paths⟩ :=
    lookups_survive_growth extendedTree_grown crowdedTree_grows valid
  have directory : extendedTree.findDirectory 2 "../c" = .ok 3 := by decide +kernel
  have file : extendedTree.findFile 2 "../c/hello_world.exe" = .ok helloWorld := by
    decide +kernel
  have path : extendedTree.fullPath 3 = "/a/c/" := by decide +kernel
  have directoryLasts := directories "../c"
  have fileLasts := files "../c/hello_world.exe"
  rw [directory] at directoryLasts
  rw [file] at fileLasts
  refine ⟨extendedTree_grown, crowdedTree_grows, valid, directoryLasts.eq_ok, fileLasts.eq_ok, ?_⟩
  rw [paths 3 (by decide), path]

end FileTree

end VirtualTerminal
