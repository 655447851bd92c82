import VirtualTerminal.FileTree.Basic

/-!
Trees written down as nested entries, and the trees that are built from them.

Building first numbers the directories in the order in which they are met, without links to parents,
and then sets the links from the root down.
-/

namespace VirtualTerminal

/-- What a directory holds, in order. -/
inductive Entries
  | nil
  | file (file : File) (rest : Entries)
  | directory (name : String) (inside rest : Entries)
  deriving Repr, DecidableEq

def Entries.directoryCount : Entries → Nat
  | .nil => 0
  | .file _ rest => rest.directoryCount
  | .directory _ inside rest => inside.directoryCount + rest.directoryCount + 1

structure Layout where
  name : String := ""
  entries : Entries := .nil
  deriving Repr, DecidableEq

namespace FileTree

/-- Appends entries to a directory.  New directories get no link to their parent. -/
def place (tree : FileTree) (id : DirId) : Entries → FileTree
  | .nil => tree
  | .file file rest => place (tree.addFile id file) id rest
  | .directory name inside rest =>
      let opened := (tree.push { name := name }).addChild id (.directory tree.size)
      place (place opened tree.size inside) id rest

/-- Points the children of a directory back at it, and so on for that many levels below it. -/
def linkParentsWithin : Nat → FileTree → DirId → FileTree
  | 0, tree, _ => tree
  | levels + 1, tree, id =>
      (tree.subdirectories id).foldl
        (fun tree child => linkParentsWithin levels (tree.setParent child id) child) tree

/-- Points the children of a directory back at it; with `recursive`, all the directories below it at
theirs as well. -/
def linkParents (tree : FileTree) (id : DirId) (recursive : Bool) : FileTree :=
  linkParentsWithin (if recursive then tree.size else 1) tree id

def unlinked (layout : Layout) : FileTree :=
  (single layout.name).place root layout.entries

def ofLayout (layout : Layout) : FileTree :=
  (unlinked layout).linkParents root true

def entriesWithin (tree : FileTree) : Nat → DirId → Entries
  | 0, _ => .nil
  | levels + 1, id =>
      (tree.children id).foldr
        (fun
          | .file file, rest => .file file rest
          | .directory child, rest =>
              .directory (tree.name child) (entriesWithin tree levels child) rest)
        .nil

/-- The layout of what is below the root. -/
def toLayout (tree : FileTree) : Layout where
  name := tree.name root
  entries := tree.entriesWithin tree.size root

@[simp]
theorem size_place (tree : FileTree) (id : DirId) (entries : Entries) :
    (tree.place id entries).size = tree.size + entries.directoryCount := by
  induction entries generalizing tree id with
  | nil => rfl
  | file file rest inductionHypothesis =>
      simp [place, Entries.directoryCount, inductionHypothesis]
  | directory name inside rest insideHypothesis restHypothesis =>
      simp only [place, Entries.directoryCount, insideHypothesis, restHypothesis, addChild,
        size_update, size_push]
      omega

@[simp]
theorem size_linkParentsWithin (levels : Nat) (tree : FileTree) (id : DirId) :
    (linkParentsWithin levels tree id).size = tree.size := by
  induction levels generalizing tree id with
  | zero => rfl
  | succ levels inductionHypothesis =>
      rw [linkParentsWithin]
      generalize tree.subdirectories id = children
      induction children generalizing tree with
      | nil => rfl
      | cons child children childrenHypothesis =>
          rw [List.foldl_cons, childrenHypothesis, inductionHypothesis, setParent, size_update]

@[simp]
theorem size_linkParents (tree : FileTree) (id : DirId) (recursive : Bool) :
    (tree.linkParents id recursive).size = tree.size :=
  size_linkParentsWithin _ _ _

theorem size_ofLayout (layout : Layout) :
    (ofLayout layout).size = layout.entries.directoryCount + 1 := by
  simp [ofLayout, unlinked, Nat.add_comm]

end FileTree

end VirtualTerminal
