import VirtualTerminal.Proofs.FileTree.Building

/-!
# Reading a tree back

The tree that is built from a layout says what the layout says, and its numbers are those that a
reader gives who counts the directories depth first.

Building numbers the directories inside a new one before those that come after it, so whatever it
places stands for its entries in a stretch of numbers.  Later entries get later numbers and are
listed elsewhere, so they leave that stretch alone.
-/

namespace VirtualTerminal

/-- What a directory lists that holds the entries, if directories are numbered depth first from
`next` on. -/
def Entries.nodes (next : Nat) : Entries → List Node
  | .nil => []
  | .file leaf rest => .file leaf :: rest.nodes next
  | .directory _ inside rest =>
      .directory next :: rest.nodes (next + 1 + inside.directoryCount)

namespace FileTree

/-- The directories of a tree from `next` on are those of the entries, numbered depth first. -/
inductive Spells (tree : FileTree) : Nat → Entries → Prop
  | nil {next : Nat} : Spells tree next .nil
  | file {next : Nat} {rest : Entries} (file : File) (later : Spells tree next rest) :
      Spells tree next (.file file rest)
  | directory {next : Nat} {name : String} {inside rest : Entries}
      (named : tree.name next = name) (listed : tree.children next = inside.nodes (next + 1))
      (within : Spells tree (next + 1) inside)
      (later : Spells tree (next + 1 + inside.directoryCount) rest) :
      Spells tree next (.directory name inside rest)

variable {tree other : FileTree}

/-- Only the directories that are numbered for the entries matter. -/
theorem Spells.congr {next : Nat} {entries : Entries} (spelled : tree.Spells next entries)
    (same : ∀ id : Nat, next ≤ id → id < next + entries.directoryCount →
      other.name id = tree.name id ∧ other.children id = tree.children id) :
    other.Spells next entries := by
  induction spelled with
  | nil => exact .nil
  | file file _ inductionHypothesis => exact .file file (inductionHypothesis same)
  | @directory next name inside rest named listed _ _ withinHypothesis laterHypothesis =>
      have count : (Entries.directory name inside rest).directoryCount =
          inside.directoryCount + rest.directoryCount + 1 := rfl
      rw [count] at same
      obtain ⟨sameName, sameChildren⟩ := same next (Nat.le_refl next) (by omega)
      refine .directory (sameName.trans named) (sameChildren.trans listed) ?_ ?_
      · exact withinHypothesis fun id after before => same id (by omega) (by omega)
      · exact laterHypothesis fun id after before => same id (by omega) (by omega)

theorem directory?_graft_of_lt {holder id : DirId} (directory : Directory) (old : id < tree.size) :
    (tree.graft holder directory).directory? id =
      if holder = id then
        (tree.directory? id).map fun found =>
          { found with children := found.children ++ [.directory tree.size] }
      else tree.directory? id := by
  rw [graft, directory?_addChild, directory?_push, if_neg (Nat.ne_of_lt old)]

theorem directory?_graft_self {holder : DirId} (valid : holder < tree.size)
    (directory : Directory) :
    (tree.graft holder directory).directory? tree.size = some directory := by
  rw [graft, directory?_addChild, if_neg (Nat.ne_of_lt valid), directory?_push, if_pos rfl]

/-- Placing entries changes nothing that was there but the list of one directory. -/
theorem directory?_place {holder id : DirId} (valid : holder < tree.size) (entries : Entries)
    (old : id < tree.size) :
    (tree.place holder entries).directory? id =
      if holder = id then
        (tree.directory? id).map fun found =>
          { found with children := found.children ++ entries.nodes tree.size }
      else tree.directory? id := by
  induction entries generalizing tree holder id with
  | nil => simp [place, Entries.nodes]
  | file file rest inductionHypothesis =>
      have added := size_addFile tree holder file
      rw [place, inductionHypothesis (by rwa [added]) (by rwa [added]), added, addFile,
        directory?_addChild]
      split
      · simp [Entries.nodes, Function.comp_def]
      · rfl
  | directory name inside rest insideHypothesis restHypothesis =>
      have grafted : (tree.graft holder { name := name }).size = tree.size + 1 := size_graft
      have filled : ((tree.graft holder { name := name }).place tree.size inside).size =
          tree.size + 1 + inside.directoryCount := by rw [size_place, grafted]
      have inGraft : ∀ {id}, id < tree.size → id < (tree.graft holder { name := name }).size :=
        fun old => grafted ▸ Nat.lt_succ_of_lt old
      have inFilled : ∀ {id}, id < tree.size →
          id < ((tree.graft holder { name := name }).place tree.size inside).size :=
        fun old => filled ▸ Nat.lt_add_right _ (Nat.lt_succ_of_lt old)
      rw [place_directory, restHypothesis (inFilled valid) (inFilled old), filled,
        insideHypothesis (grafted ▸ Nat.lt_succ_self _) (inGraft old),
        if_neg (Nat.ne_of_gt old), directory?_graft_of_lt _ old]
      split
      · simp [Entries.nodes, Function.comp_def]
      · rfl

/-- Entries that come later leave alone what earlier ones stand for. -/
theorem Spells.place {holder next : Nat} {entries : Entries} (spelled : tree.Spells next entries)
    (valid : holder < tree.size) (before : holder < next)
    (inUse : next + entries.directoryCount ≤ tree.size) (rest : Entries) :
    (tree.place holder rest).Spells next entries := by
  refine spelled.congr fun id after within => ?_
  have same : (tree.place holder rest).directory? id = tree.directory? id := by
    have old := Nat.lt_of_lt_of_le within inUse
    rw [directory?_place valid rest old, if_neg (Nat.ne_of_lt (Nat.lt_of_lt_of_le before after))]
  rw [name, children, same]
  exact ⟨rfl, rfl⟩

/-- A new directory that has been filled stands for its entry if what is in it does. -/
theorem spells_filled {holder : DirId} (valid : holder < tree.size) {name : String}
    {inside : Entries}
    (within : ((tree.graft holder { name := name }).place tree.size inside).Spells
      (tree.size + 1) inside) :
    ((tree.graft holder { name := name }).place tree.size inside).Spells tree.size
      (.directory name inside .nil) := by
  have fresh : tree.size < (tree.graft holder { name := name }).size := by
    rw [size_graft]
    exact Nat.lt_succ_self _
  have filled := directory?_place fresh inside fresh
  rw [if_pos rfl, directory?_graft_self valid, size_graft] at filled
  refine .directory ?_ ?_ within .nil
  · rw [FileTree.name, filled]
    rfl
  · rw [children, filled]
    exact List.nil_append _

/-- Whatever is placed in a tree stands for its entries, from the first number that was free. -/
theorem spells_place {holder : DirId} (valid : holder < tree.size) (entries : Entries) :
    (tree.place holder entries).Spells tree.size entries := by
  induction entries generalizing tree holder with
  | nil => exact .nil
  | file file rest inductionHypothesis =>
      have later : ((tree.addFile holder file).place holder rest).Spells
          (tree.addFile holder file).size rest := inductionHypothesis (by rwa [size_addFile])
      rw [size_addFile] at later
      exact .file file later
  | directory name inside rest insideHypothesis restHypothesis =>
      have grafted : (tree.graft holder { name := name }).size = tree.size + 1 := size_graft
      have filled : ((tree.graft holder { name := name }).place tree.size inside).size =
          tree.size + 1 + inside.directoryCount := by rw [size_place, grafted]
      have inUse : holder < ((tree.graft holder { name := name }).place tree.size inside).size :=
        filled ▸ Nat.lt_add_right _ (Nat.lt_succ_of_lt valid)
      have fresh := Nat.lt_of_lt_of_eq (Nat.lt_succ_self tree.size) grafted.symm
      have within := insideHypothesis fresh
      have later := restHypothesis inUse
      rw [grafted] at within
      rw [filled] at later
      have count : (Entries.directory name inside .nil).directoryCount =
          inside.directoryCount + 0 + 1 := rfl
      rw [place_directory]
      cases (spells_filled valid within).place inUse valid (by omega) rest with
      | directory named listed within _ => exact .directory named listed within later

/-- The directories of a built tree are all numbered depth first, starting with the root. -/
theorem spells_ofLayout (layout : Layout) :
    (ofLayout layout).Spells root (.directory layout.name layout.entries .nil) := by
  have top : (unlinked layout).directory? root =
      some { name := layout.name, children := layout.entries.nodes 1 } :=
    directory?_place Nat.zero_lt_one layout.entries Nat.zero_lt_one
  have placed : (unlinked layout).Spells root (.directory layout.name layout.entries .nil) := by
    refine .directory ?_ ?_ (spells_place Nat.zero_lt_one layout.entries) .nil
    · rw [name, top]
      rfl
    · rw [children, top]
      rfl
  refine placed.congr fun id _ _ => ?_
  rw [← unlink_ofLayout, name_unlink, children_unlink]
  exact ⟨rfl, rfl⟩

/-- The entries that nodes stand for, if directories are read that many levels down. -/
def readNodes (tree : FileTree) (levels : Nat) (nodes : List Node) : Entries :=
  nodes.foldr
    (fun
      | .file file, rest => .file file rest
      | .directory child, rest =>
          .directory (tree.name child) (tree.entriesWithin levels child) rest)
    .nil

theorem entriesWithin_succ (levels : Nat) (id : DirId) :
    tree.entriesWithin (levels + 1) id = tree.readNodes levels (tree.children id) := rfl

theorem Spells.readNodes_eq {next levels : Nat} {entries : Entries}
    (spelled : tree.Spells next entries) (enough : entries.directoryCount ≤ levels) :
    tree.readNodes levels (entries.nodes next) = entries := by
  induction spelled generalizing levels with
  | nil => rfl
  | file file _ inductionHypothesis =>
      exact congrArg (Entries.file file) (inductionHypothesis enough)
  | @directory next name inside rest named listed _ _ withinHypothesis laterHypothesis =>
      rw [Entries.directoryCount] at enough
      obtain ⟨levels, rfl⟩ := Nat.exists_eq_succ_of_ne_zero (Nat.ne_zero_of_lt enough)
      have within : tree.entriesWithin (levels + 1) next = inside := by
        rw [entriesWithin_succ, listed]
        exact withinHypothesis (by omega)
      calc tree.readNodes (levels + 1) ((Entries.directory name inside rest).nodes next)
        _ = .directory (tree.name next) (tree.entriesWithin (levels + 1) next)
              (tree.readNodes (levels + 1) (rest.nodes (next + 1 + inside.directoryCount))) := rfl
        _ = .directory name inside rest := by rw [named, within, laterHypothesis (by omega)]

/-- Reading the directories that entries stand for depth first is counting. -/
theorem Spells.visited_eq {next levels : Nat} {entries : Entries}
    (spelled : tree.Spells next entries) (enough : entries.directoryCount ≤ levels) :
    ((entries.nodes next).filterMap Node.directory?).flatMap (tree.preorderWithin levels) =
      List.range' next entries.directoryCount := by
  induction spelled generalizing levels with
  | nil => rfl
  | file file _ inductionHypothesis => exact inductionHypothesis enough
  | @directory next name inside rest named listed _ _ withinHypothesis laterHypothesis =>
      rw [Entries.directoryCount] at enough
      obtain ⟨levels, rfl⟩ := Nat.exists_eq_succ_of_ne_zero (Nat.ne_zero_of_lt enough)
      have within : tree.preorderWithin (levels + 1) next =
          List.range' next (inside.directoryCount + 1) := by
        rw [preorderWithin, subdirectories, listed, withinHypothesis (by omega), List.range'_succ]
      calc ((Entries.directory name inside rest).nodes next).filterMap Node.directory?
            |>.flatMap (tree.preorderWithin (levels + 1))
        _ = tree.preorderWithin (levels + 1) next ++
              ((rest.nodes (next + 1 + inside.directoryCount)).filterMap Node.directory?).flatMap
                (tree.preorderWithin (levels + 1)) := rfl
        _ = List.range' next (inside.directoryCount + 1) ++
              List.range' (next + (inside.directoryCount + 1)) rest.directoryCount := by
          rw [within, laterHypothesis (by omega), Nat.add_assoc, Nat.add_comm 1]
        _ = List.range' next (inside.directoryCount + rest.directoryCount + 1) := by
          rw [List.range'_append_1, Nat.add_right_comm]

/-- For every layout, reading the tree that is built from it gives the layout again, a walk through
the tree depth first meets the numbers of its directories in order, without gaps, and there are as
many directories as the layout has, the root included. -/
theorem layout_read_back (layout : Layout) :
    (ofLayout layout).toLayout = layout ∧
    (ofLayout layout).preorder = List.range (ofLayout layout).size ∧
    (ofLayout layout).size = layout.entries.directoryCount + 1 := by
  have size := size_ofLayout layout
  have spelled := spells_ofLayout layout
  have visited := spelled.visited_eq (Nat.le_of_eq size.symm)
  refine ⟨?_, ?_, size⟩
  · cases spelled with
    | directory named listed within _ =>
        rw [toLayout, size, entriesWithin_succ, named, listed, within.readNodes_eq (Nat.le_refl _)]
  · calc (ofLayout layout).preorder
      _ = [root].flatMap ((ofLayout layout).preorderWithin (ofLayout layout).size) := by
        simp [preorder]
      _ = List.range' root (layout.entries.directoryCount + 1) := visited
      _ = List.range (ofLayout layout).size := by rw [size, List.range_eq_range', root]

end FileTree

end VirtualTerminal
