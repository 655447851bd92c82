import VirtualTerminal.FileTree.Resolve
import VirtualTerminal.Proofs.FileTree.Links

/-!
# Full paths

The full path of a directory goes on from that of the one that holds it, and ends in a slash.  It
leads back to the directory, from wherever it is taken, if each directory on the way down is the
first entry of its name and has a name that a path can spell.
-/

namespace VirtualTerminal.FileTree

open Relation

variable {tree : FileTree}

theorem namesDownTo_succ {id : DirId} (valid : id < tree.size) (below : List String)
    (steps : Nat) :
    tree.namesDownTo below (steps + 1) id =
      match tree.parent? id with
      | none => some (tree.name id :: below)
      | some parent => tree.namesDownTo (tree.name id :: below) steps parent := by
  obtain ⟨directory, found⟩ := tree.exists_directory? valid
  rw [namesDownTo, parent?, name, found]
  rfl

theorem namesDownTo_append (below after : List String) (steps : Nat) (id : DirId) :
    tree.namesDownTo (below ++ after) steps id =
      (tree.namesDownTo below steps id).map (· ++ after) := by
  induction steps generalizing below id with
  | zero => rfl
  | succ steps inductionHypothesis =>
      rw [namesDownTo, namesDownTo]
      cases tree.directory? id with
      | none => rfl
      | some directory =>
          simp only [Option.bind_eq_bind, Option.bind_some]
          cases directory.parent with
          | none => rfl
          | some parent => exact inductionHypothesis (directory.name :: below) parent

namespace IsLinked

variable (linked : tree.IsLinked)
include linked

theorem namesDownTo_root (below : List String) (steps : Nat) :
    tree.namesDownTo below (steps + 1) root = some (tree.name root :: below) := by
  rw [namesDownTo_succ linked.rooted, linked.parent?_root]

theorem namesDownTo_of_holds {holder id : DirId} (held : tree.Holds holder id)
    (below : List String) (steps : Nat) :
    tree.namesDownTo below (steps + 1) id =
      tree.namesDownTo (tree.name id :: below) steps holder := by
  rw [namesDownTo_succ (linked.valid_of_holds held), linked.pointsBack id holder held]

/-- A directory has fewer others above it than its number says, so more steps find no more. -/
theorem namesDownTo_of_lt {id : DirId} (valid : id < tree.size) {steps : Nat} (enough : id < steps)
    (below : List String) :
    tree.namesDownTo below steps id = tree.namesDownTo below (id + 1) id := by
  induction id using Nat.strongRecOn generalizing steps below with
  | ind id inductionHypothesis =>
      obtain ⟨steps, rfl⟩ := Nat.exists_eq_succ_of_ne_zero (Nat.ne_zero_of_lt enough)
      by_cases atRoot : id = root
      · rw [atRoot, linked.namesDownTo_root, linked.namesDownTo_root]
      · obtain ⟨holder, held⟩ := linked.held valid atRoot
        have earlier := linked.lt_of_holds held
        have same : ∀ {more}, holder < more → ∀ below,
            tree.namesDownTo below more holder = tree.namesDownTo below (holder + 1) holder :=
          inductionHypothesis holder earlier (linked.holder_valid held)
        rw [linked.namesDownTo_of_holds held, linked.namesDownTo_of_holds held, same earlier,
          same (Nat.lt_of_lt_of_le earlier (Nat.le_of_lt_succ enough))]

theorem names?_root : tree.names? root = some [tree.name root] := by
  rw [names?, linked.namesDownTo_of_lt linked.rooted linked.rooted, linked.namesDownTo_root]

theorem names?_of_holds {holder id : DirId} (held : tree.Holds holder id) :
    tree.names? id = (tree.names? holder).map (· ++ [tree.name id]) := by
  have valid := linked.valid_of_holds held
  have earlier := linked.lt_of_holds held
  have above := linked.holder_valid held
  calc tree.names? id
    _ = tree.namesDownTo [tree.name id] id holder := by
      rw [names?, linked.namesDownTo_of_lt valid valid, linked.namesDownTo_of_holds held]
    _ = (tree.namesDownTo [] id holder).map (· ++ [tree.name id]) :=
      namesDownTo_append [] [tree.name id] id holder
    _ = (tree.names? holder).map (· ++ [tree.name id]) := by
      rw [names?, linked.namesDownTo_of_lt above earlier, linked.namesDownTo_of_lt above above]

theorem names?_isSome {id : DirId} (way : tree.Reaches root id) : (tree.names? id).isSome := by
  induction way with
  | refl => rw [linked.names?_root]; rfl
  | tail _ held inductionHypothesis =>
      rw [linked.names?_of_holds held, Option.isSome_map, inductionHypothesis]

theorem fullPath_root : tree.fullPath root = tree.name root ++ "/" := by
  rw [fullPath, linked.names?_root]
  simp

theorem fullPath_of_holds {holder id : DirId} (held : tree.Holds holder id) :
    tree.fullPath id = tree.fullPath holder ++ tree.name id ++ "/" := by
  obtain ⟨names, found⟩ := Option.isSome_iff_exists.mp
    (linked.names?_isSome (linked.reaches_root (linked.holder_valid held)))
  rw [fullPath, linked.names?_of_holds held, fullPath, found]
  exact List.foldl_append

theorem fullPath_ends_in_slash {id : DirId} (valid : id < tree.size) :
    ∃ front, tree.fullPath id = front ++ "/" := by
  by_cases atRoot : id = root
  · exact ⟨_, atRoot ▸ linked.fullPath_root⟩
  · obtain ⟨holder, held⟩ := linked.held valid atRoot
    exact ⟨_, linked.fullPath_of_holds held⟩

end IsLinked

/-- A directory can be reached by its name from the one that holds it: a path can spell the name,
and it belongs to no entry in front of the directory. -/
structure IsNamed (tree : FileTree) (holder id : DirId) : Prop where
  slashless : '/' ∉ (tree.name id).toList
  ne_here : tree.name id ≠ "."
  ne_up : tree.name id ≠ ".."
  first : ∀ node ∈ (tree.children holder).takeWhile (· ≠ .directory id),
    tree.nodeName node ≠ tree.name id

instance (tree : FileTree) (holder id : DirId) : Decidable (tree.IsNamed holder id) :=
  decidable_of_iff
    ('/' ∉ (tree.name id).toList ∧ tree.name id ≠ "." ∧ tree.name id ≠ ".." ∧
      ∀ node ∈ (tree.children holder).takeWhile (· ≠ .directory id),
        tree.nodeName node ≠ tree.name id)
    ⟨fun ⟨slashless, here, up, first⟩ => ⟨slashless, here, up, first⟩,
      fun ⟨slashless, here, up, first⟩ => ⟨slashless, here, up, first⟩⟩

/-- What is on the way down to a directory has no greater number, so there is an end to what has to
be looked at. -/
theorem IsLinked.isNamed_of_reaches (linked : tree.IsLinked) {id : DirId}
    (each : ∀ child < id + 1, ∀ holder < child, child ∈ tree.subdirectories holder →
      tree.IsNamed holder child) :
    ∀ holder child, tree.Holds holder child → tree.Reaches child id → tree.IsNamed holder child := by
  intro holder child held way
  have near := Nat.lt_succ_of_le (linked.le_of_reaches way)
  exact each child near holder (linked.lt_of_holds held) held

theorem find?_eq_some_of_first {nodes : List Node} {wanted : Node} {sought : Node → Bool}
    (member : wanted ∈ nodes) (fits : sought wanted)
    (first : ∀ node ∈ nodes.takeWhile (· ≠ wanted), ¬sought node) :
    nodes.find? sought = some wanted := by
  induction nodes with
  | nil => cases member
  | cons node nodes inductionHypothesis =>
      by_cases here : node = wanted
      · rw [here, List.find?_cons_of_pos fits]
      · have later := (List.mem_cons.mp member).resolve_left (Ne.symm here)
        rw [List.takeWhile_cons_of_pos (by simpa using here)] at first
        rw [List.find?_cons_of_neg (first node List.mem_cons_self)]
        exact inductionHypothesis later fun other before =>
          first other (List.mem_cons_of_mem node before)

theorem step_of_isNamed {holder id : DirId} (held : tree.Holds holder id)
    (named : tree.IsNamed holder id) : tree.step holder (tree.name id) = .ok id := by
  have found : (tree.children holder).find? (tree.nodeName · = tree.name id) =
      some (.directory id) := by
    apply find?_eq_some_of_first (mem_children_iff_holds.mpr held)
    · exact decide_eq_true rfl
    · intro node before
      simpa using named.first node before
  rw [step, if_neg named.ne_here, if_neg named.ne_up, found]

/-- A full path without its last slash spells the root's name and then a way down from the root. -/
theorem walk_segments_fullPath (linked : tree.IsLinked)
    (rootSlashless : '/' ∉ (tree.name root).toList) {id : DirId} (way : tree.Reaches root id)
    (named : ∀ holder child, tree.Holds holder child → tree.Reaches child id →
      tree.IsNamed holder child) :
    ∃ front names, tree.fullPath id = front ++ "/" ∧
      Path.segments front = tree.name root :: names ∧ tree.walk root names = .ok id := by
  induction way with
  | refl =>
      exact ⟨_, [], linked.fullPath_root, Path.segments_eq_singleton rootSlashless, walk_nil root⟩
  | @tail holder id _ held inductionHypothesis =>
      obtain ⟨front, names, path, segments, walked⟩ := inductionHypothesis
        fun other child above further => named other child above (further.tail held)
      have last := named holder id held .refl
      refine ⟨front ++ "/" ++ tree.name id, names ++ [tree.name id], ?_, ?_, ?_⟩
      · rw [linked.fullPath_of_holds held, path]
      · rw [Path.segments_append_slash, segments, Path.segments_eq_singleton last.slashless,
          List.cons_append]
      · rw [walk_append, walked]
        show tree.walk holder [tree.name id] = .ok id
        rw [walk, step_of_isNamed held last]
        rfl

/-- In every tree that can be grown, from every directory, a full path leads to the directory whose
path it is, if no slash is in the root's name and each directory on the way down from the root can
be reached by its name from the one that holds it. -/
theorem findDirectory_fullPath (grown : tree.Grown)
    (rootSlashless : '/' ∉ (tree.name root).toList) {id : DirId} (valid : id < tree.size)
    (named : ∀ holder child, tree.Holds holder child → tree.Reaches child id →
      tree.IsNamed holder child) (workingDirectory : DirId) :
    tree.findDirectory workingDirectory (tree.fullPath id) = .ok id := by
  have linked := grown.isLinked
  obtain ⟨front, names, path, segments, walked⟩ :=
    walk_segments_fullPath linked rootSlashless (linked.reaches_root valid) named
  have spelled : Path.segments (tree.fullPath id) = tree.name root :: (names ++ [""]) := by
    have slash : front ++ "/" = front ++ "/" ++ "" := String.append_empty.symm
    rw [path, slash, Path.segments_append_slash, segments, List.cons_append]
    rfl
  rw [findDirectory, spelled]
  simp only [if_true, Path.dropFinalSlash_append_empty]
  exact walked

/-- A tree whose root has a name, which a directory inside one without a name bears as well; another
directory without a name comes after that one. -/
def namelessTree : FileTree :=
  ofLayout {
    name := "home"
    entries := .directory "" (.directory "home" .nil .nil) (.directory "" .nil .nil) }

/-- Neither the empty name nor that of the root leads astray. -/
theorem findDirectory_fullPath_nameless :
    namelessTree.Grown ∧ '/' ∉ (namelessTree.name root).toList ∧ 2 < namelessTree.size ∧
    (∀ holder child, namelessTree.Holds holder child → namelessTree.Reaches child 2 →
      namelessTree.IsNamed holder child) ∧
    namelessTree.fullPath 2 = "home//home/" ∧
    namelessTree.findDirectory 3 "home//home/" = .ok 2 := by
  have grown : namelessTree.Grown := .ofLayout _
  have slashless : '/' ∉ (namelessTree.name root).toList := by decide +kernel
  have named : ∀ holder child, namelessTree.Holds holder child → namelessTree.Reaches child 2 →
      namelessTree.IsNamed holder child :=
    grown.isLinked.isNamed_of_reaches (by decide +kernel)
  have path : namelessTree.fullPath 2 = "home//home/" := by decide +kernel
  refine ⟨grown, slashless, by decide +kernel, named, path, ?_⟩
  exact path ▸ findDirectory_fullPath grown slashless (by decide +kernel) named 3

end VirtualTerminal.FileTree
