import VirtualTerminal.File

/-!
The tree of directories that a session works in.

Directories are kept in one array and named by their number in it; the root is number 0.  A
directory lists its children and points back at its parent.  Directories are never removed, so a
number stays valid.
-/

namespace VirtualTerminal

abbrev DirId := Nat

inductive Node
  | directory (id : DirId)
  | file (file : File)
  deriving Repr, DecidableEq

namespace Node

def directory? : Node → Option DirId
  | .directory id => some id
  | .file _ => none

def file? : Node → Option File
  | .directory _ => none
  | .file leaf => some leaf

end Node

structure Directory where
  name : String
  parent : Option DirId := none
  children : List Node := []
  deriving Repr, DecidableEq

structure FileTree where
  directories : Array Directory
  deriving Repr, DecidableEq

namespace FileTree

def root : DirId := 0

/-- A tree of one empty directory. -/
def single (name : String) : FileTree where
  directories := #[{ name := name }]

instance : Inhabited FileTree := ⟨single ""⟩

variable (tree : FileTree)

/-- The number of directories, and the number that the next one gets. -/
def size : Nat :=
  tree.directories.size

def directory? (id : DirId) : Option Directory :=
  tree.directories[id]?

def name (id : DirId) : String :=
  (tree.directory? id).elim "" Directory.name

/-- The parent that a directory points back at; the root has none. -/
def parent? (id : DirId) : Option DirId :=
  (tree.directory? id).bind Directory.parent

def children (id : DirId) : List Node :=
  (tree.directory? id).elim [] Directory.children

def subdirectories (id : DirId) : List DirId :=
  (tree.children id).filterMap Node.directory?

def files (id : DirId) : List File :=
  (tree.children id).filterMap Node.file?

def nodeName : Node → String
  | .directory id => tree.name id
  | .file file => file.name

def childNames (id : DirId) : List String :=
  (tree.children id).map tree.nodeName

def update (id : DirId) (change : Directory → Directory) : FileTree where
  directories := tree.directories.modify id change

def push (directory : Directory) : FileTree where
  directories := tree.directories.push directory

def addChild (id : DirId) (node : Node) : FileTree :=
  tree.update id fun directory => { directory with children := directory.children ++ [node] }

def setParent (id parent : DirId) : FileTree :=
  tree.update id fun directory => { directory with parent := some parent }

def addFile (id : DirId) (file : File) : FileTree :=
  tree.addChild id (.file file)

/-- Adds an empty directory to `parent`; its number is the size of the tree before. -/
def addDirectory (parent : DirId) (name : String) : FileTree :=
  (tree.push { name := name, parent := some parent }).addChild parent (.directory tree.size)

/-- The names from the root down to `id`, in front of `below`, if the root is met after fewer than
`steps` parents. -/
def namesDownTo (below : List String) : Nat → DirId → Option (List String)
  | 0, _ => none
  | steps + 1, id => do
      let directory ← tree.directory? id
      match directory.parent with
      | none => return directory.name :: below
      | some parent => namesDownTo (directory.name :: below) steps parent

/-- The names from the root down to a directory; none if its parents never meet the root. -/
def names? (id : DirId) : Option (List String) :=
  tree.namesDownTo [] tree.size id

/-- The absolute path of a directory: each name on the way down to it, followed by a slash. -/
def fullPath (id : DirId) : String :=
  ((tree.names? id).getD []).foldl (fun path name => path ++ name ++ "/") ""

/-- The directories met depth first from `id`, a directory before its children. -/
def preorderWithin : Nat → DirId → List DirId
  | 0, _ => []
  | levels + 1, id => id :: (tree.subdirectories id).flatMap (preorderWithin levels)

def preorder : List DirId :=
  tree.preorderWithin tree.size root

@[simp]
theorem size_single (name : String) : (single name).size = 1 := rfl

@[simp]
theorem size_update (id : DirId) (change : Directory → Directory) :
    (tree.update id change).size = tree.size := by
  simp [update, size]

@[simp]
theorem size_push (directory : Directory) : (tree.push directory).size = tree.size + 1 := by
  simp [push, size]

@[simp]
theorem size_addChild (id : DirId) (node : Node) : (tree.addChild id node).size = tree.size :=
  tree.size_update id _

@[simp]
theorem size_addFile (id : DirId) (file : File) : (tree.addFile id file).size = tree.size := by
  simp [addFile]

@[simp]
theorem size_addDirectory (parent : DirId) (name : String) :
    (tree.addDirectory parent name).size = tree.size + 1 := by
  simp [addDirectory]

theorem directory?_update (id : DirId) (change : Directory → Directory) (other : DirId) :
    (tree.update id change).directory? other =
      if id = other then (tree.directory? other).map change else tree.directory? other := by
  simp [update, directory?, Array.getElem?_modify]

theorem directory?_push (directory : Directory) (id : DirId) :
    (tree.push directory).directory? id =
      if id = tree.size then some directory else tree.directory? id :=
  Array.getElem?_push

theorem directory?_addChild (id : DirId) (node : Node) (other : DirId) :
    (tree.addChild id node).directory? other =
      if id = other then
        (tree.directory? other).map fun directory =>
          { directory with children := directory.children ++ [node] }
      else tree.directory? other :=
  tree.directory?_update id _ other

theorem directory?_setParent (id parent other : DirId) :
    (tree.setParent id parent).directory? other =
      if id = other then
        (tree.directory? other).map fun directory => { directory with parent := some parent }
      else tree.directory? other :=
  tree.directory?_update id _ other

theorem directory?_isSome {id : DirId} : (tree.directory? id).isSome ↔ id < tree.size := by
  simp [directory?, size]

theorem exists_directory? {id : DirId} (valid : id < tree.size) :
    ∃ directory, tree.directory? id = some directory :=
  Option.isSome_iff_exists.mp (tree.directory?_isSome.mpr valid)

theorem directory?_eq_none {id : DirId} (unused : tree.size ≤ id) : tree.directory? id = none :=
  Array.getElem?_eq_none unused

theorem children_push (directory : Directory) (id : DirId) :
    (tree.push directory).children id =
      if id = tree.size then directory.children else tree.children id := by
  rw [children, directory?_push]
  split <;> rfl

theorem children_addChild {id : DirId} (valid : id < tree.size) (node : Node) (other : DirId) :
    (tree.addChild id node).children other =
      tree.children other ++ if id = other then [node] else [] := by
  rw [children, directory?_addChild]
  split
  next same =>
    obtain ⟨directory, found⟩ := tree.exists_directory? valid
    rw [children, ← same, found]
    rfl
  next => rw [List.append_nil, children]

@[simp]
theorem children_setParent (id parent other : DirId) :
    (tree.setParent id parent).children other = tree.children other := by
  rw [children, directory?_setParent, children]
  split <;> cases tree.directory? other <;> rfl

theorem parent?_push (directory : Directory) (id : DirId) :
    (tree.push directory).parent? id =
      if id = tree.size then directory.parent else tree.parent? id := by
  rw [parent?, directory?_push]
  split <;> rfl

@[simp]
theorem parent?_addChild (id : DirId) (node : Node) (other : DirId) :
    (tree.addChild id node).parent? other = tree.parent? other := by
  rw [parent?, directory?_addChild, parent?]
  split <;> cases tree.directory? other <;> rfl

theorem parent?_setParent {id : DirId} (valid : id < tree.size) (parent other : DirId) :
    (tree.setParent id parent).parent? other =
      if id = other then some parent else tree.parent? other := by
  rw [parent?, directory?_setParent]
  split
  next same =>
    obtain ⟨directory, found⟩ := tree.exists_directory? valid
    rw [← same, found]
    rfl
  next => rfl

/-- A directory that points back at its parent already is not changed. -/
theorem setParent_eq_self {id parent : DirId} (same : tree.parent? id = some parent) :
    tree.setParent id parent = tree := by
  have whole : tree.directories.modify id (fun directory => { directory with parent := parent }) =
      tree.directories := by
    apply Array.ext_getElem?
    intro other
    rw [Array.getElem?_modify]
    split
    next here =>
      subst here
      unfold parent? directory? at same
      cases found : tree.directories[id]? with
      | none => rfl
      | some directory =>
          rw [found] at same
          simp only [Option.bind_some] at same
          rw [Option.map_some, ← same]
    next => rfl
  rw [setParent, update, whole]

@[simp]
theorem fullPath_single (name : String) : (single name).fullPath root = name ++ "/" := by
  simp [fullPath, names?, namesDownTo, single, size, directory?, root]

end FileTree

end VirtualTerminal
