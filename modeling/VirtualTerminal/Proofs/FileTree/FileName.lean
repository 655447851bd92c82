import VirtualTerminal.Proofs.FileTree.Files
import VirtualTerminal.Proofs.FileTree.FullPath

/-!
# Full paths of files

A file's name behind the full path of its directory is a path to the file.  The last slash of the
full path is the last one of the whole, so it parts the directory from the name.
-/

namespace VirtualTerminal.FileTree

variable {tree : FileTree} {id : DirId}

/-- In every tree that can be grown, from every directory, the full path of a directory with a name
behind it leads to the first file of that name in the directory, whatever directories bear the name,
if no slash is in the root's name, each directory on the way down from the root can be reached by its
name from the one that holds it, and the name is not empty and holds no slash.  A line break must be
in neither. -/
theorem findFile_fullPath_append (grown : tree.Grown)
    (rootSlashless : '/' ∉ (tree.name root).toList) (valid : id < tree.size)
    (named : ∀ holder child, tree.Holds holder child → tree.Reaches child id →
      tree.IsNamed holder child) {before : List Node} {file : File}
    (first : tree.IsFirstBehind id before file) (filled : file.name ≠ "")
    (slashless : '/' ∉ file.name.toList) (unbroken : '\n' ∉ (tree.fullPath id).toList)
    (nameUnbroken : '\n' ∉ file.name.toList) (workingDirectory : DirId) :
    tree.findFile workingDirectory (tree.fullPath id ++ file.name) = .ok file := by
  have linked := grown.isLinked
  obtain ⟨front, names, path, segments, walked⟩ :=
    walk_segments_fullPath linked rootSlashless (linked.reaches_root valid) named
  rw [path] at unbroken ⊢
  have target : Path.fileName? (front ++ "/" ++ file.name) =
      some { directory := some (front ++ "/"), name := file.name } := by
    have fits : ¬('\n' ∈ (front ++ "/" ++ file.name).toList ∨ file.name = "") := by
      rw [String.toList_append, List.mem_append]
      exact not_or.mpr ⟨not_or.mpr ⟨unbroken, nameUnbroken⟩, filled⟩
    rw [Path.fileName?_append slashless, if_neg fits]
  have spelled : Path.segments (front ++ "/") = tree.name root :: (names ++ [""]) := by
    rw [Path.segments_append_final_slash, segments, List.cons_append]
  have held : tree.findDirectory workingDirectory (front ++ "/") = .ok id := by
    rw [findDirectory_of_absolute spelled, Path.dropFinalSlash_append_empty, walked]
  calc tree.findFile workingDirectory (front ++ "/" ++ file.name)
    _ = (tree.findDirectory workingDirectory (front ++ "/")).bind (tree.fileIn file.name) :=
      findFile_of_fileName? target
    _ = tree.fileIn file.name id := by rw [held]; rfl
    _ = .ok file := fileIn_of_isFirstBehind first

/-- A tree whose root has a name and whose directory without one holds a file between two directories
that bear the file's name, and another such file behind them. -/
def crowdedHome : FileTree :=
  ofLayout {
    name := "home"
    entries :=
      .directory "" (
        .directory ".." .nil <|
        .file { name := "..", content := .text "first" } <|
        .directory ".." .nil <|
        .file { name := "..", content := .text "second" } .nil) .nil }

/-- Neither the directories of the name nor that a step is spelled like it leads astray. -/
theorem findFile_fullPath_append_crowded :
    let file : File := { name := "..", content := .text "first" }
    crowdedHome.Grown ∧ '/' ∉ (crowdedHome.name root).toList ∧ 1 < crowdedHome.size ∧
    (∀ holder child, crowdedHome.Holds holder child → crowdedHome.Reaches child 1 →
      crowdedHome.IsNamed holder child) ∧
    crowdedHome.IsFirstBehind 1 [.directory 2] file ∧ file.name ≠ "" ∧
    '/' ∉ file.name.toList ∧ '\n' ∉ (crowdedHome.fullPath 1).toList ∧
    '\n' ∉ file.name.toList ∧ crowdedHome.fullPath 1 = "home//" ∧
    crowdedHome.findFile 3 "home//.." = .ok file := by
  intro file
  have grown : crowdedHome.Grown := .ofLayout _
  have slashless : '/' ∉ (crowdedHome.name root).toList := by decide +kernel
  have named : ∀ holder child, crowdedHome.Holds holder child → crowdedHome.Reaches child 1 →
      crowdedHome.IsNamed holder child :=
    grown.isLinked.isNamed_of_reaches (by decide +kernel)
  have first : crowdedHome.IsFirstBehind 1 [.directory 2] file := by
    refine ⟨⟨[.directory 3, .file { name := "..", content := .text "second" }], ?_⟩, ?_⟩
    · decide +kernel
    · simp
  have path : crowdedHome.fullPath 1 = "home//" := by decide +kernel
  have nameSlashless : '/' ∉ file.name.toList := by decide +kernel
  have unbroken : '\n' ∉ (crowdedHome.fullPath 1).toList := by decide +kernel
  have nameUnbroken : '\n' ∉ file.name.toList := by decide +kernel
  have found := findFile_fullPath_append grown slashless (by decide +kernel) named first
    (by decide) nameSlashless unbroken nameUnbroken 3
  rw [path] at found
  exact ⟨grown, slashless, by decide +kernel, named, first, by decide, nameSlashless, unbroken,
    nameUnbroken, path, found⟩

end VirtualTerminal.FileTree
