import VirtualTerminal.FileTree.Default
import VirtualTerminal.Proofs.FileTree.Concatenation
import VirtualTerminal.Proofs.FileTree.Lookup

/-!
# Files and directories of one name

A path that names a file is a way to a directory and a name in it.  Asked for a directory instead,
it takes the same way and the same name, but stops at whatever bears the name first: at a directory
in front of the file, or else at the file.
-/

namespace VirtualTerminal.FileTree

variable {tree : FileTree} {id holder : DirId}

theorem walk_singleton (segment : String) : tree.walk id [segment] = tree.step id segment := by
  rw [walk_cons]
  cases tree.step id segment <;> rfl

theorem findDirectory_of_slashless {name : String} (slashless : '/' ∉ name.toList)
    (nonempty : name ≠ "") (other : name ≠ tree.name root) :
    tree.findDirectory id name = tree.step id name := by
  have segments := Path.segments_eq_singleton slashless
  have relative : ¬tree.IsAbsolute name := by simpa [IsAbsolute, segments] using other
  rw [findDirectory_of_relative relative, segments, Path.dropFinalSlash_eq_self (by simpa),
    walk_singleton]

/-- A name behind a slash is looked up where the text up to the slash leads. -/
theorem findDirectory_append_name {name : String} (slashless : '/' ∉ name.toList)
    (nonempty : name ≠ "") (front : String) :
    tree.findDirectory id (front ++ "/" ++ name) =
      (tree.findDirectory id (front ++ "/")).bind (tree.step · name) := by
  have final := Path.segments_append_final_slash front
  have named : Path.segments (front ++ "/" ++ name) = Path.segments front ++ [name] := by
    rw [Path.segments_append_slash, Path.segments_eq_singleton slashless]
  have last : Path.dropFinalSlash [name] = [name] := Path.dropFinalSlash_eq_self (by simpa)
  have walked : ∀ start segments,
      tree.walk start (Path.dropFinalSlash (segments ++ [name])) =
        (tree.walk start (Path.dropFinalSlash (segments ++ [""]))).bind (tree.step · name) := by
    intro start segments
    rw [walk_dropFinalSlash_append _ _ (List.cons_ne_nil _ _), last,
      Path.dropFinalSlash_append_empty]
    simp only [walk_singleton]
  by_cases absolute : tree.IsAbsolute front
  · obtain ⟨rest, segments⟩ := List.head?_eq_some_iff.mp absolute
    rw [segments, List.cons_append] at final named
    rw [findDirectory_of_absolute named, findDirectory_of_absolute final, walked]
  · have relative : ¬tree.IsAbsolute (front ++ "/" ++ name) :=
      mt isAbsolute_append_slash.mp absolute
    have finalRelative : ¬tree.IsAbsolute (front ++ "/") :=
      mt isAbsolute_append_final_slash.mp absolute
    rw [findDirectory_of_relative relative, findDirectory_of_relative finalRelative, final, named,
      walked]

/-- The name of a file is looked up in the same place as a directory's, but for the root's name. -/
theorem findDirectory_of_fileName? (id : DirId) {path : String} {target : Path.FileName}
    (named : Path.fileName? path = some target) :
    path = tree.name root ∧ tree.findDirectory id path = .ok root ∨
      tree.findDirectory id path =
        (tree.findHolder id target).bind (tree.step · target.name) := by
  rcases Path.slashless_or_eq_append path with slashless | ⟨front, name, slashless, rfl⟩
  · rw [Path.fileName?_of_slashless slashless] at named
    split at named
    next => cases named
    next fits =>
      cases named
      by_cases atRoot : path = tree.name root
      · have segments : Path.segments path = tree.name root :: [] :=
          atRoot ▸ Path.segments_eq_singleton slashless
        exact .inl ⟨atRoot, findDirectory_of_absolute segments⟩
      · exact .inr (findDirectory_of_slashless slashless (not_or.mp fits).2 atRoot)
  · rw [Path.fileName?_append slashless] at named
    split at named
    next => cases named
    next fits =>
      cases named
      exact .inr (findDirectory_append_name slashless (not_or.mp fits).2 front)

/-- The first directory of a name among some children. -/
def firstDirectory? (tree : FileTree) (name : String) (nodes : List Node) : Option DirId :=
  (nodes.filterMap Node.directory?).find? (tree.name · = name)

/-- A file is one of the children of a directory and comes behind the children given, none of which
is a file of its name. -/
def IsFirstBehind (tree : FileTree) (holder : DirId) (before : List Node) (file : File) : Prop :=
  (∃ after, tree.children holder = before ++ .file file :: after) ∧
    ∀ other, .file other ∈ before → other.name ≠ file.name

/-- Among children with no file of a name, what bears the name first is a directory. -/
theorem find?_nodeName_of_fileless {name : String} {nodes : List Node}
    (fileless : ∀ file, .file file ∈ nodes → file.name ≠ name) :
    nodes.find? (tree.nodeName · = name) =
      (tree.firstDirectory? name nodes).map Node.directory := by
  induction nodes with
  | nil => rfl
  | cons node nodes inductionHypothesis =>
      have later := inductionHypothesis fun file member =>
        fileless file (List.mem_cons_of_mem node member)
      cases node with
      | file file =>
          have different : file.name ≠ name := fileless file List.mem_cons_self
          simpa [firstDirectory?, Node.directory?, nodeName, different] using later
      | directory child =>
          by_cases same : tree.name child = name
          · simp [firstDirectory?, Node.directory?, nodeName, same]
          · simpa [firstDirectory?, Node.directory?, nodeName, same] using later

theorem step_of_isFirstBehind {before : List Node} {file : File}
    (first : tree.IsFirstBehind holder before file) (here : file.name ≠ ".")
    (up : file.name ≠ "..") :
    tree.step holder file.name =
      match tree.firstDirectory? file.name before with
      | some child => .ok child
      | none => .error (.isAFile file.name) := by
  obtain ⟨⟨after, children⟩, fileless⟩ := first
  rw [step, if_neg here, if_neg up, children, List.find?_append,
    find?_nodeName_of_fileless fileless]
  cases tree.firstDirectory? file.name before with
  | some child => rfl
  | none => simp [nodeName]

theorem isFirstBehind_of_fileIn {name : String} {file : File}
    (found : tree.fileIn name holder = .ok file) :
    file.name = name ∧ ∃ before, tree.IsFirstBehind holder before file := by
  unfold fileIn files at found
  split at found
  next first present =>
    cases found
    rw [List.find?_filterMap, Option.bind_eq_some_iff] at present
    obtain ⟨node, chosen, same⟩ := present
    obtain ⟨fits, before, after, children, others⟩ := List.find?_eq_some_iff_append.mp chosen
    cases node with
    | directory child => cases same
    | file leaf =>
        cases same
        have bears : file.name = name := by simpa [Node.file?] using fits
        refine ⟨bears, before, ⟨after, children⟩, fun other member => ?_⟩
        simpa [Node.file?, bears] using others _ member
  next => cases found

theorem find?_file?_of_fileless {name : String} {nodes : List Node}
    (fileless : ∀ file, .file file ∈ nodes → file.name ≠ name) :
    (nodes.filterMap Node.file?).find? (·.name = name) = none := by
  rw [List.find?_eq_none]
  intro file member
  obtain ⟨node, among, same⟩ := List.mem_filterMap.mp member
  cases node with
  | directory child => cases same
  | file leaf =>
      cases same
      simpa using fileless file among

/-- A file with no other of its name in front of it is the one that the name leads to. -/
theorem fileIn_of_isFirstBehind {before : List Node} {file : File}
    (first : tree.IsFirstBehind holder before file) :
    tree.fileIn file.name holder = .ok file := by
  obtain ⟨⟨after, children⟩, fileless⟩ := first
  rw [fileIn, files, children, List.filterMap_append, List.find?_append,
    find?_file?_of_fileless fileless]
  simp [Node.file?]

theorem exists_fileIn {file : File} (member : .file file ∈ tree.children holder) :
    ∃ first, tree.fileIn file.name holder = .ok first ∧ first.name = file.name := by
  cases found : (tree.files holder).find? (·.name = file.name) with
  | some first =>
      exact ⟨first, by simp [fileIn, found], by simpa using List.find?_some found⟩
  | none =>
      have inFiles : file ∈ tree.files holder := List.mem_filterMap.mpr ⟨_, member, rfl⟩
      simpa using List.find?_eq_none.mp found file inFiles

theorem fileIn_eq_ok_iff {name : String} {file : File} :
    tree.fileIn name holder = .ok file ↔
      file.name = name ∧ ∃ before, tree.IsFirstBehind holder before file := by
  constructor
  · exact isFirstBehind_of_fileIn
  · rintro ⟨rfl, before, first⟩
    exact fileIn_of_isFirstBehind first

theorem fileIn_eq_notFound_iff {name : String} :
    tree.fileIn name holder = .error (.fileNotFound name (tree.fullPath holder)) ↔
      ∀ file, .file file ∈ tree.children holder → file.name ≠ name := by
  constructor
  · rintro missing file member rfl
    obtain ⟨first, found, -⟩ := exists_fileIn member
    rw [missing] at found
    cases found
  · intro fileless
    rw [fileIn, files, find?_file?_of_fileless fileless]

theorem mem_of_step_isAFile {segment name : String}
    (stopped : tree.step holder segment = .error (.isAFile name)) :
    name = segment ∧ ∃ file, .file file ∈ tree.children holder ∧ file.name = segment := by
  unfold step at stopped
  split at stopped
  next => cases stopped
  next =>
    split at stopped
    next => split at stopped <;> cases stopped
    next =>
      split at stopped
      next => cases stopped
      next file found =>
        cases stopped
        have fits := List.find?_some found
        have same : file.name = segment := of_decide_eq_true fits
        exact ⟨same, file, List.mem_of_find?_eq_some found, same⟩
      next => cases stopped

/-- In every tree, from every directory, and for every path but the root's name: if the path leads
to a file whose name is not that of a step, then as a path to a directory it leads to the first
directory of that name that comes before the file where the file is held; if there is none it stops
at the file.  Conversely, a path that names a file somewhere leads to a file if it stops at one of
that name as a path to a directory. -/
theorem resolvers_agree (tree : FileTree) (workingDirectory : DirId) (path : String) :
    (∀ file, tree.findFile workingDirectory path = .ok file →
      file.name ≠ "." → file.name ≠ ".." → path ≠ tree.name root →
      ∃ target holder before,
        Path.fileName? path = some target ∧
        tree.findHolder workingDirectory target = .ok holder ∧
        tree.IsFirstBehind holder before file ∧
        tree.findDirectory workingDirectory path =
          match tree.firstDirectory? file.name before with
          | some child => .ok child
          | none => .error (.isAFile file.name)) ∧
    (∀ target holder name, Path.fileName? path = some target →
      tree.findHolder workingDirectory target = .ok holder →
      tree.findDirectory workingDirectory path = .error (.isAFile name) →
      ∃ file, tree.findFile workingDirectory path = .ok file ∧ file.name = name) := by
  constructor
  · intro file found here up other
    cases named : Path.fileName? path with
    | none => simp [findFile, named] at found
    | some target =>
        rw [findFile_of_fileName? named] at found
        cases held : tree.findHolder workingDirectory target with
        | error error => simp [held, Except.bind] at found
        | ok holder =>
            rw [held] at found
            obtain ⟨same, before, first⟩ := isFirstBehind_of_fileIn found
            refine ⟨target, holder, before, rfl, held, first, ?_⟩
            rcases findDirectory_of_fileName? workingDirectory named with ⟨atRoot, -⟩ | lookedUp
            · exact absurd atRoot other
            · rw [lookedUp, held, ← step_of_isFirstBehind first here up, same]
              rfl
  · intro target holder name named held stopped
    rcases findDirectory_of_fileName? workingDirectory named with ⟨-, found⟩ | lookedUp
    · rw [found] at stopped
      cases stopped
    · rw [lookedUp, held] at stopped
      obtain ⟨rfl, file, member, same⟩ := mem_of_step_isAFile stopped
      obtain ⟨first, found, bears⟩ := exists_fileIn member
      refine ⟨first, ?_, bears.trans same⟩
      rw [findFile_of_fileName? named, held]
      exact same ▸ found

/-- A tree whose root has a name and holds a directory in front of a file of its name, and another
directory behind one. -/
def shadowedTree : FileTree :=
  ofLayout {
    name := "home"
    entries :=
      .directory "x" .nil <|
      .file { helloWorld with name := "x" } <|
      .file { helloWorld with name := "y" } <|
      .directory "y" .nil .nil }

/-- The directory hides the file behind it, and the file the directory behind it. -/
theorem resolvers_agree_shadowed :
    let hidden : File := { helloWorld with name := "x" }
    let target : Path.FileName := { directory := some "home/", name := "y" }
    shadowedTree.findFile 2 "home/x" = .ok hidden ∧
    hidden.name ≠ "." ∧ hidden.name ≠ ".." ∧ "home/x" ≠ shadowedTree.name root ∧
    (∃ target holder before,
      Path.fileName? "home/x" = some target ∧
      shadowedTree.findHolder 2 target = .ok holder ∧
      shadowedTree.IsFirstBehind holder before hidden ∧
      shadowedTree.findDirectory 2 "home/x" =
        match shadowedTree.firstDirectory? hidden.name before with
        | some child => .ok child
        | none => .error (.isAFile hidden.name)) ∧
    shadowedTree.findDirectory 2 "home/x" = .ok 1 ∧
    Path.fileName? "home/y" = some target ∧
    shadowedTree.findHolder 2 target = .ok root ∧
    shadowedTree.findDirectory 2 "home/y" = .error (.isAFile "y") ∧
    ∃ file, shadowedTree.findFile 2 "home/y" = .ok file ∧ file.name = "y" := by
  intro hidden target
  have found : shadowedTree.findFile 2 "home/x" = .ok hidden := by decide +kernel
  have here : hidden.name ≠ "." := by decide
  have up : hidden.name ≠ ".." := by decide
  have other : "home/x" ≠ shadowedTree.name root := by decide +kernel
  have named : Path.fileName? "home/y" = some target := by decide +kernel
  have held : shadowedTree.findHolder 2 target = .ok root := by decide +kernel
  have stopped : shadowedTree.findDirectory 2 "home/y" = .error (.isAFile "y") := by
    decide +kernel
  have outcome := (resolvers_agree shadowedTree 2 "home/x").1 hidden found here up other
  have file := (resolvers_agree shadowedTree 2 "home/y").2 target root "y" named held stopped
  exact ⟨found, here, up, other, outcome, by decide +kernel, named, held, stopped, file⟩

end VirtualTerminal.FileTree
