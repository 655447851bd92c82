import VirtualTerminal.Proofs.FileTree.FullPath

/-!
# Climbing to the root

A full path is put together on the way up, from the last name to the first.  The way up follows the
links to parents, which say nothing about where they end; the way down follows the lists of children.
In a linked tree there is just one way down to each directory, and climbing from the directory goes
back along it, so it comes to an end at the root and spells the names of the way down in their order.
-/

namespace VirtualTerminal.FileTree

/-- The directories on a way down from the root, both ends included: each lists the next one. -/
inductive WayDown (tree : FileTree) : List DirId → DirId → Prop
  | root : WayDown tree [root] root
  | child {way : List DirId} {holder id : DirId} (above : WayDown tree way holder)
      (held : tree.Holds holder id) : WayDown tree (way ++ [id]) id

/-- Climbing from a directory, with the path of what is below it in hand, visits some directories and
ends with a path.  At every turn the directory has to be one of the tree's; a slash and then its name
are put in front of the path, and its parent is next.  Nothing bounds the turns here, so this holds of
no path if climbing goes on for ever or leaves the tree. -/
inductive Climbing (tree : FileTree) : Option DirId → String → List DirId → String → Prop
  | done {path : String} : Climbing tree none path [] path
  | turn {id : DirId} {path final : String} {visited : List DirId} (valid : id < tree.size)
      (rest : Climbing tree (tree.parent? id) (tree.name id ++ ("/" ++ path)) visited final) :
      Climbing tree (some id) path (id :: visited) final

variable {tree : FileTree} {way : List DirId} {id : DirId}

theorem Climbing.unique {next : Option DirId} {path first second : String}
    {visited passed : List DirId} (one : tree.Climbing next path visited first)
    (other : tree.Climbing next path passed second) : passed = visited ∧ second = first := by
  induction one generalizing passed second with
  | done =>
      cases other
      exact ⟨rfl, rfl⟩
  | turn _ _ inductionHypothesis =>
      cases other with
      | turn _ rest =>
          obtain ⟨rfl, rfl⟩ := inductionHypothesis rest
          exact ⟨rfl, rfl⟩

theorem exists_wayDown (reached : tree.Reaches root id) : ∃ way, tree.WayDown way id := by
  induction reached with
  | refl => exact ⟨_, .root⟩
  | tail _ held inductionHypothesis =>
      obtain ⟨way, above⟩ := inductionHypothesis
      exact ⟨_, above.child held⟩

namespace WayDown

/-- Numbers grow on the way down, so no way is longer than the number that it leads to allows. -/
theorem length_le (arranged : tree.IsArranged) (down : tree.WayDown way id) :
    way.length ≤ id + 1 := by
  induction down with
  | root => exact Nat.le_refl 1
  | @child way holder id _ held inductionHypothesis =>
      calc (way ++ [id]).length
        _ = way.length + 1 := List.length_append
        _ ≤ holder + 1 + 1 := Nat.succ_le_succ inductionHypothesis
        _ ≤ id + 1 := Nat.succ_le_succ (arranged.lt_of_holds held)

theorem forall_lt_size (arranged : tree.IsArranged) (down : tree.WayDown way id) :
    ∀ passed ∈ way, passed < tree.size := by
  induction down with
  | root => exact List.forall_mem_singleton.mpr arranged.rooted
  | child _ held inductionHypothesis =>
      rw [List.forall_mem_append]
      exact ⟨inductionHypothesis, List.forall_mem_singleton.mpr (arranged.valid_of_holds held)⟩

/-- No directory is listed by two others, and none lists the root. -/
theorem unique {other : List DirId} (arranged : tree.IsArranged) (down : tree.WayDown way id)
    (too : tree.WayDown other id) : other = way := by
  induction down generalizing other with
  | root =>
      cases too with
      | root => rfl
      | child _ held => exact absurd rfl (arranged.ne_root_of_holds held)
  | child _ held inductionHypothesis =>
      cases too with
      | root => exact absurd rfl (arranged.ne_root_of_holds held)
      | child above listed =>
          obtain rfl := arranged.unique listed held
          rw [inductionHypothesis above]

variable (linked : tree.IsLinked) (down : tree.WayDown way id)
include linked down

theorem names?_eq : tree.names? id = some (way.map tree.name) := by
  induction down with
  | root => exact linked.names?_root
  | child _ held inductionHypothesis =>
      rw [linked.names?_of_holds held, inductionHypothesis, List.map_append]
      rfl

theorem fullPath_eq : tree.fullPath id = String.join (way.map (tree.name · ++ "/")) := by
  induction down with
  | root => simp [linked.fullPath_root]
  | child _ held inductionHypothesis =>
      rw [linked.fullPath_of_holds held, inductionHypothesis, List.map_append, String.join_append]
      simp [String.append_assoc]

/-- Climbing goes back along the way down and leaves the path that it starts with at the end. -/
theorem climbing (path : String) :
    tree.Climbing (some id) path way.reverse (tree.fullPath id ++ path) := by
  induction down generalizing path with
  | root =>
      refine .turn linked.rooted ?_
      rw [linked.parent?_root, linked.fullPath_root, String.append_assoc]
      exact .done
  | @child way holder id _ held inductionHypothesis =>
      -- The way has grown at the end where climbing starts, so its first turn leads to the holder.
      rw [List.reverse_append]
      refine .turn (linked.valid_of_holds held) ?_
      rw [linked.pointsBack id holder held, linked.fullPath_of_holds held, String.append_assoc,
        String.append_assoc]
      exact inductionHypothesis (tree.name id ++ ("/" ++ path))

end WayDown

/-- In every tree that can be grown there is just one way down from the root to each directory.
Climbing from the directory comes to an end, visits the directories of that way from the last to the
first, which are no more than the tree has and all its own, and ends with the full path, which is the
names on the way down, each followed by a slash. -/
theorem fullPath_spells_way_down (grown : tree.Grown) (valid : id < tree.size) :
    ∃ way,
      (∀ other, tree.WayDown other id ↔ other = way) ∧
      (∀ visited path, tree.Climbing (some id) "" visited path ↔
        visited = way.reverse ∧ path = tree.fullPath id) ∧
      way.length ≤ tree.size ∧
      (∀ passed ∈ way, passed < tree.size) ∧
      tree.names? id = some (way.map tree.name) ∧
      tree.fullPath id = String.join (way.map (tree.name · ++ "/")) := by
  have linked := grown.isLinked
  have arranged := linked.toIsArranged
  obtain ⟨way, down⟩ := exists_wayDown (arranged.reaches_root valid)
  have climbed : tree.Climbing (some id) "" way.reverse (tree.fullPath id) := by
    simpa using down.climbing linked ""
  refine ⟨way, ?_, ?_, ?_, down.forall_lt_size arranged, down.names?_eq linked,
    down.fullPath_eq linked⟩
  · intro other
    constructor
    · exact down.unique arranged
    · rintro rfl
      exact down
  · intro visited path
    constructor
    · exact climbed.unique
    · rintro ⟨rfl, rfl⟩
      exact climbed
  · exact Nat.le_trans (down.length_le arranged) (Nat.succ_le_of_lt valid)

/-- A directory that was added below others without a name and with the root's. -/
theorem fullPath_spells_way_down_nameless :
    let tree := namelessTree.addDirectory 2 "attic"
    tree.Grown ∧ 4 < tree.size ∧ tree.WayDown [0, 1, 2, 4] 4 ∧
    tree.Climbing (some 4) "" [4, 2, 1, 0] "home//home/attic/" ∧
    tree.fullPath 4 = String.join ["home/", "/", "home/", "attic/"] := by
  intro tree
  have grown : tree.Grown := .addDirectory (.ofLayout _) (by decide +kernel) "attic"
  have valid : 4 < tree.size := by decide +kernel
  have outer : tree.Holds 0 1 := mem_children_iff_holds.mp (by decide +kernel)
  have inner : tree.Holds 1 2 := mem_children_iff_holds.mp (by decide +kernel)
  have added : tree.Holds 2 4 := mem_children_iff_holds.mp (by decide +kernel)
  have down : tree.WayDown [0, 1, 2, 4] 4 := ((WayDown.root.child outer).child inner).child added
  obtain ⟨way, only, climbing, -, -, -, path⟩ := fullPath_spells_way_down grown valid
  obtain rfl := (only _).mp down
  refine ⟨grown, valid, down, (climbing _ _).mpr ⟨rfl, ?_⟩, ?_⟩
  · decide +kernel
  · rw [path]
    decide +kernel

end VirtualTerminal.FileTree
