import VirtualTerminal.Proofs.FileTree.Links

/-!
# Ways of building

The tree of a layout does not depend on the order of its making.  Entries can be placed all at once
and linked afterwards, a directory being listed by its parent before it is filled or only then; or
they can be added one at a time, with the links set as the directories come.

Without their links the trees are the same, because placing never reads a link.  In a linked tree
the lists of children say what the links are.
-/

namespace VirtualTerminal.FileTree

/-- Appends entries to a directory as `place` does, but lists a directory only when it is filled. -/
def fill (tree : FileTree) (id : DirId) : Entries → FileTree
  | .nil => tree
  | .file file rest => (tree.addFile id file).fill id rest
  | .directory name inside rest =>
      let filled := (tree.push { name := name }).fill tree.size inside
      (filled.addChild id (.directory tree.size)).fill id rest

/-- Adds entries to a directory one at a time; each new directory is filled before the next entry
is added. -/
def addEntries (tree : FileTree) (id : DirId) : Entries → FileTree
  | .nil => tree
  | .file file rest => (tree.addFile id file).addEntries id rest
  | .directory name inside rest =>
      ((tree.addDirectory id name).addEntries tree.size inside).addEntries id rest

/-- The same directories without links to parents. -/
def unlink (tree : FileTree) : FileTree where
  directories := tree.directories.map fun directory => { directory with parent := none }

variable {tree other : FileTree}

theorem ext_directory? (same : ∀ id, tree.directory? id = other.directory? id) : tree = other := by
  cases tree
  cases other
  exact congrArg FileTree.mk (Array.ext_getElem? same)

theorem addChild_comm {first second : DirId} (different : first ≠ second) (one two : Node) :
    (tree.addChild first one).addChild second two =
      (tree.addChild second two).addChild first one := by
  apply ext_directory?
  intro id
  simp only [directory?_addChild]
  by_cases atFirst : first = id
  · have notSecond : second ≠ id := fun atSecond => different (atFirst.trans atSecond.symm)
    simp [atFirst, notSecond]
  · simp [atFirst]

section

variable {holder : DirId} (valid : holder < tree.size) (node : Node)
include valid

theorem push_addChild (directory : Directory) :
    (tree.addChild holder node).push directory =
      (tree.push directory).addChild holder node := by
  apply ext_directory?
  intro id
  simp only [directory?_push, directory?_addChild, size_addChild]
  by_cases fresh : id = tree.size
  · have elsewhere : holder ≠ id := fun here => Nat.ne_of_lt valid (here.trans fresh)
    simp [fresh, fresh ▸ elsewhere]
  · simp [fresh]

theorem graft_addChild {id : DirId} (different : holder ≠ id) (directory : Directory) :
    (tree.addChild holder node).graft id directory =
      (tree.graft id directory).addChild holder node := by
  rw [graft, push_addChild valid, addChild_comm different, size_addChild, graft]

/-- What one directory lists does not matter to what is placed in another. -/
theorem place_addChild {id : DirId} (different : holder ≠ id) (entries : Entries) :
    (tree.addChild holder node).place id entries =
      (tree.place id entries).addChild holder node := by
  induction entries generalizing tree id with
  | nil => rfl
  | file file rest inductionHypothesis =>
      have valid : holder < (tree.addFile id file).size := by rwa [size_addFile]
      calc (tree.addChild holder node).place id (.file file rest)
        _ = ((tree.addFile id file).addChild holder node).place id rest :=
          congrArg (place · id rest) (addChild_comm different node (.file file))
        _ = (tree.place id (.file file rest)).addChild holder node :=
          inductionHypothesis valid different
  | directory name inside rest insideHypothesis restHypothesis =>
      have inGraft : holder < (tree.graft id { name := name }).size := by
        rw [size_graft]
        exact Nat.lt_succ_of_lt valid
      have inPlaced : holder < ((tree.graft id { name := name }).place tree.size inside).size := by
        rw [size_place]
        exact Nat.lt_add_right _ inGraft
      rw [place_directory, place_directory, size_addChild, graft_addChild valid node different,
        insideHypothesis inGraft (Nat.ne_of_lt valid), restHypothesis inPlaced different]

end

theorem fill_eq_place {id : DirId} (valid : id < tree.size) (entries : Entries) :
    tree.fill id entries = tree.place id entries := by
  induction entries generalizing tree id with
  | nil => rfl
  | file file rest inductionHypothesis => exact inductionHypothesis (by rwa [size_addFile])
  | directory name inside rest insideHypothesis restHypothesis =>
      have pushed : (tree.push { name := name }).size = tree.size + 1 := size_push ..
      have inPushed : id < (tree.push { name := name }).size :=
        pushed ▸ Nat.lt_succ_of_lt valid
      have listed : ((tree.push { name := name }).place tree.size inside).addChild id
          (.directory tree.size) = (tree.graft id { name := name }).place tree.size inside :=
        (place_addChild inPushed _ (Nat.ne_of_lt valid) inside).symm
      have inPlaced : id < ((tree.graft id { name := name }).place tree.size inside).size := by
        rw [size_place, size_graft]
        exact Nat.lt_add_right _ (Nat.lt_succ_of_lt valid)
      rw [fill, insideHypothesis (pushed ▸ Nat.lt_succ_self _), listed, restHypothesis inPlaced,
        place_directory]

section Unlinking

variable (tree)

theorem directory?_unlink (id : DirId) :
    tree.unlink.directory? id =
      (tree.directory? id).map fun directory => { directory with parent := none } :=
  Array.getElem?_map ..

@[simp]
theorem size_unlink : tree.unlink.size = tree.size :=
  Array.size_map ..

@[simp]
theorem name_unlink (id : DirId) : tree.unlink.name id = tree.name id := by
  rw [name, directory?_unlink, name]
  cases tree.directory? id <;> rfl

@[simp]
theorem children_unlink (id : DirId) : tree.unlink.children id = tree.children id := by
  rw [children, directory?_unlink, children]
  cases tree.directory? id <;> rfl

theorem unlink_addChild (id : DirId) (node : Node) :
    (tree.addChild id node).unlink = tree.unlink.addChild id node := by
  apply ext_directory?
  intro other
  simp only [directory?_unlink, directory?_addChild]
  split <;> cases tree.directory? other <;> rfl

theorem unlink_push (directory : Directory) :
    (tree.push directory).unlink = tree.unlink.push { directory with parent := none } := by
  apply ext_directory?
  intro other
  simp only [directory?_unlink, directory?_push, size_unlink]
  split <;> rfl

theorem unlink_graft (holder : DirId) (directory : Directory) :
    (tree.graft holder directory).unlink =
      tree.unlink.graft holder { directory with parent := none } := by
  rw [graft, unlink_addChild, unlink_push, graft, size_unlink]

@[simp]
theorem unlink_setParent (id parent : DirId) : (tree.setParent id parent).unlink = tree.unlink := by
  apply ext_directory?
  intro other
  simp only [directory?_unlink, directory?_setParent]
  split <;> cases tree.directory? other <;> rfl

@[simp]
theorem unlink_linkParents (id : DirId) (recursive : Bool) :
    (tree.linkParents id recursive).unlink = tree.unlink :=
  linkParentsWithin_induction (motive := fun now => now.unlink = tree.unlink)
    (fun _ same => (unlink_setParent ..).trans same) _ tree id rfl

/-- Adding entries one at a time comes to placing them, but for the links. -/
theorem unlink_addEntries (id : DirId) (entries : Entries) :
    (tree.addEntries id entries).unlink = tree.unlink.place id entries := by
  induction entries generalizing tree id with
  | nil => rfl
  | file file rest inductionHypothesis =>
      exact (inductionHypothesis _ id).trans
        (congrArg (place · id rest) (unlink_addChild ..))
  | directory name inside rest insideHypothesis restHypothesis =>
      have added : (tree.addDirectory id name).unlink = tree.unlink.graft id { name := name } :=
        unlink_graft ..
      rw [addEntries, restHypothesis, insideHypothesis, added, place_directory, size_unlink]

/-- A directory is what is left of it without its link, and the link. -/
theorem directory?_relinked (id : DirId) :
    tree.directory? id =
      (tree.unlink.directory? id).map fun directory =>
        { directory with parent := tree.parent? id } := by
  rw [directory?_unlink, parent?]
  cases tree.directory? id <;> rfl

end Unlinking

theorem unlink_eq_self (orphans : ∀ id, tree.parent? id = none) : tree.unlink = tree := by
  apply ext_directory?
  intro id
  rw [tree.directory?_relinked id, orphans id, directory?_unlink, Option.map_map]
  rfl

theorem unlink_ofLayout (layout : Layout) : (ofLayout layout).unlink = unlinked layout := by
  rw [ofLayout, unlink_linkParents, unlink_eq_self (parent?_unlinked layout)]

theorem size_addEntries (id : DirId) (entries : Entries) :
    (tree.addEntries id entries).size = tree.size + entries.directoryCount := by
  rw [← size_unlink, unlink_addEntries, size_place, size_unlink]

theorem Grown.addEntries (grown : tree.Grown) {id : DirId} (valid : id < tree.size)
    (entries : Entries) : (tree.addEntries id entries).Grown := by
  induction entries generalizing tree id with
  | nil => exact grown
  | file file rest inductionHypothesis =>
      exact inductionHypothesis (grown.addFile valid file) (by rwa [size_addFile])
  | directory name inside rest insideHypothesis restHypothesis =>
      have added := size_addDirectory tree id name
      have fresh : tree.size < (tree.addDirectory id name).size := by
        rw [added]
        exact Nat.lt_succ_self _
      apply restHypothesis (insideHypothesis (grown.addDirectory valid name) fresh)
      rw [size_addEntries, added]
      exact Nat.lt_add_right _ (Nat.lt_succ_of_lt valid)

theorem IsLinked.parent?_eq (linked : tree.IsLinked) (otherLinked : other.IsLinked)
    (same : tree.children = other.children) (id : DirId) : tree.parent? id = other.parent? id := by
  ext holder
  rw [linked.parent?_eq_some_iff, otherLinked.parent?_eq_some_iff, ← mem_children_iff_holds,
    ← mem_children_iff_holds, same]

/-- Linked trees that differ in nothing but their links do not differ. -/
theorem IsLinked.eq_of_unlink_eq (linked : tree.IsLinked) (otherLinked : other.IsLinked)
    (same : tree.unlink = other.unlink) : tree = other := by
  have children : tree.children = other.children := by
    funext id
    rw [← children_unlink, same, children_unlink]
  apply ext_directory?
  intro id
  rw [tree.directory?_relinked id, same, linked.parent?_eq otherLinked children id,
    ← other.directory?_relinked id]

/-- For every layout, the tree that is placed as a whole and then linked is the same in all respects
whether a directory is listed before it is filled or after, and it is the tree that comes of adding
the entries one at a time, depth first, to a tree of the root alone. -/
theorem built_alike (layout : Layout) :
    ofLayout layout = ((single layout.name).fill root layout.entries).linkParents root true ∧
    ofLayout layout =
      (ofLayout { name := layout.name }).addEntries root layout.entries := by
  constructor
  · rw [fill_eq_place Nat.zero_lt_one]
    rfl
  · have single : (ofLayout { name := layout.name }).Grown := .ofLayout _
    apply (isLinked_ofLayout layout).eq_of_unlink_eq
      (single.addEntries Nat.zero_lt_one layout.entries).isLinked
    rw [unlink_ofLayout, unlink_addEntries, unlink_ofLayout]
    rfl

end VirtualTerminal.FileTree
