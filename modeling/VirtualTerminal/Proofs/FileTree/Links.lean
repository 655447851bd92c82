import Mathlib.Data.List.Nodup
import Mathlib.Logic.Relation
import VirtualTerminal.FileTree.Default

/-!
# Children and parents

The trees that can be grown from a layout, and how their directories hang together: each one but the
root is held by just one other, was there after it and points back at it.

Building from a layout first arranges the directories and then links them.  The second pass sets
nothing but links from a directory to what holds it, and it comes by every directory below the root.
-/

namespace VirtualTerminal.FileTree

open Relation

/-- A directory is one of the children of another. -/
def Holds (tree : FileTree) (holder id : DirId) : Prop :=
  id ∈ tree.subdirectories holder

/-- A directory is met on the way down from another, the other itself included. -/
def Reaches (tree : FileTree) : DirId → DirId → Prop :=
  ReflTransGen tree.Holds

/-- The trees that come of a layout, of adding directories and files to directories of the tree, and
of linking parents again. -/
inductive Grown : FileTree → Prop
  | ofLayout (layout : Layout) : Grown (.ofLayout layout)
  | addDirectory {tree : FileTree} {parent : DirId} (grown : Grown tree)
      (valid : parent < tree.size) (name : String) : Grown (tree.addDirectory parent name)
  | addFile {tree : FileTree} {id : DirId} (grown : Grown tree) (valid : id < tree.size)
      (file : File) : Grown (tree.addFile id file)
  | linkParents {tree : FileTree} {id : DirId} (grown : Grown tree) (valid : id < tree.size)
      (recursive : Bool) : Grown (tree.linkParents id recursive)

/-- Each directory but the root is held just once, and by an earlier one. -/
structure IsArranged (tree : FileTree) : Prop where
  rooted : root < tree.size
  lt_of_holds : ∀ {holder id}, tree.Holds holder id → holder < id
  valid_of_holds : ∀ {holder id}, tree.Holds holder id → id < tree.size
  nodup : ∀ holder, (tree.subdirectories holder).Nodup
  unique : ∀ {first second id}, tree.Holds first id → tree.Holds second id → first = second
  held : ∀ {id}, id < tree.size → id ≠ root → ∃ holder, tree.Holds holder id

/-- A directory points back at whatever holds it. -/
def PointsBack (tree : FileTree) (id : DirId) : Prop :=
  ∀ holder, tree.Holds holder id → tree.parent? id = some holder

/-- An arranged tree in which every directory points back at what holds it. -/
structure IsLinked (tree : FileTree) : Prop extends tree.IsArranged where
  parent?_root : tree.parent? root = none
  pointsBack : ∀ id, tree.PointsBack id

variable {tree : FileTree}

theorem mem_children_iff_holds {holder id : DirId} :
    .directory id ∈ tree.children holder ↔ tree.Holds holder id := by
  simp only [Holds, subdirectories, List.mem_filterMap]
  constructor
  · exact fun member => ⟨_, member, rfl⟩
  · rintro ⟨node, member, same⟩
    cases node with
    | directory child => exact Option.some.inj same ▸ member
    | file file => cases same

theorem count_directory (id : DirId) (nodes : List Node) :
    nodes.count (.directory id) = (nodes.filterMap Node.directory?).count id := by
  rw [List.count_filterMap, List.count_eq_countP]
  apply List.countP_congr
  intro node _
  cases node <;> simp [Node.directory?]

namespace IsArranged

theorem of_same {other : FileTree} (arranged : tree.IsArranged)
    (subdirectories : ∀ holder, other.subdirectories holder = tree.subdirectories holder)
    (size : other.size = tree.size) : other.IsArranged := by
  obtain ⟨rooted, lt, valid, nodup, unique, held⟩ := arranged
  have holds : other.Holds = tree.Holds := by
    funext holder id
    rw [Holds, subdirectories, Holds]
  constructor
  case rooted => exact size ▸ rooted
  case lt_of_holds => exact holds ▸ lt
  case valid_of_holds => exact size ▸ holds ▸ valid
  case nodup => exact fun holder => subdirectories holder ▸ nodup holder
  case unique => exact holds ▸ unique
  case held => exact size ▸ holds ▸ held

variable (arranged : tree.IsArranged)
include arranged

theorem lt_of_transGen {id below : DirId} (way : TransGen tree.Holds id below) : id < below := by
  induction way with
  | single held => exact arranged.lt_of_holds held
  | tail _ held inductionHypothesis =>
      exact Nat.lt_trans inductionHypothesis (arranged.lt_of_holds held)

theorem holder_valid {holder id : DirId} (held : tree.Holds holder id) : holder < tree.size :=
  Nat.lt_trans (arranged.lt_of_holds held) (arranged.valid_of_holds held)

theorem le_of_reaches {id below : DirId} (way : tree.Reaches id below) : id ≤ below := by
  rcases reflTransGen_iff_eq_or_transGen.mp way with rfl | way
  · exact Nat.le_refl below
  · exact Nat.le_of_lt (arranged.lt_of_transGen way)

/-- Going from a directory to what holds it ends at the root. -/
theorem reaches_root {id : DirId} (valid : id < tree.size) : tree.Reaches root id := by
  induction id using Nat.strongRecOn with
  | ind id inductionHypothesis =>
      by_cases atRoot : id = root
      · exact atRoot ▸ .refl
      · obtain ⟨holder, held⟩ := arranged.held valid atRoot
        have above := inductionHypothesis holder (arranged.lt_of_holds held)
        exact (above (arranged.holder_valid held)).tail held

theorem transGen_root {id : DirId} (valid : id < tree.size) (below : id ≠ root) :
    TransGen tree.Holds root id :=
  (reflTransGen_iff_eq_or_transGen.mp (arranged.reaches_root valid)).resolve_left below

/-- All the lists of children together name each directory but the root once. -/
theorem count_children {id : DirId} (valid : id < tree.size) (below : id ≠ root) :
    ((List.range tree.size).flatMap tree.children).count (.directory id) = 1 := by
  rw [count_directory, List.filterMap_flatMap]
  apply List.count_eq_one_of_mem
  · refine List.nodup_flatMap.mpr ⟨fun holder _ => arranged.nodup holder, ?_⟩
    refine List.nodup_range.pairwise_of_forall_ne fun first _ second _ different => ?_
    intro child one other
    exact different (arranged.unique one other)
  · obtain ⟨holder, held⟩ := arranged.held valid below
    exact List.mem_flatMap.mpr ⟨holder, List.mem_range.mpr (arranged.holder_valid held), held⟩

end IsArranged

/-- Adds a directory behind all others and to the children of one of them. -/
def graft (tree : FileTree) (holder : DirId) (directory : Directory) : FileTree :=
  (tree.push directory).addChild holder (.directory tree.size)

theorem place_directory (holder : DirId) (name : String) (inside rest : Entries) :
    tree.place holder (.directory name inside rest) =
      ((tree.graft holder { name := name }).place tree.size inside).place holder rest := rfl

section

variable {holder : DirId} (valid : holder < tree.size) {directory : Directory}

@[simp]
theorem size_graft : (tree.graft holder directory).size = tree.size + 1 := by
  simp [graft, addChild]

@[simp]
theorem parent?_graft (id : DirId) : (tree.graft holder directory).parent? id =
    if id = tree.size then directory.parent else tree.parent? id := by
  rw [graft, parent?_addChild, parent?_push]

include valid

theorem subdirectories_graft (childless : directory.children = []) (other : DirId) :
    (tree.graft holder directory).subdirectories other =
      tree.subdirectories other ++ if holder = other then [tree.size] else [] := by
  have pushed : (tree.push directory).children other = tree.children other := by
    rw [children_push, childless]
    split
    next fresh => rw [children, tree.directory?_eq_none (Nat.le_of_eq fresh.symm)]; rfl
    next => rfl
  have room : holder < (tree.push directory).size := by
    rw [size_push]
    exact Nat.lt_succ_of_lt valid
  rw [subdirectories, graft, children_addChild _ room, pushed, List.filterMap_append,
    subdirectories]
  split <;> rfl

theorem holds_graft_iff (childless : directory.children = []) {other id : DirId} :
    (tree.graft holder directory).Holds other id ↔
      tree.Holds other id ∨ other = holder ∧ id = tree.size := by
  rw [Holds, subdirectories_graft valid childless, List.mem_append, Holds]
  by_cases here : holder = other <;> simp [here, eq_comm]

theorem IsArranged.graft (arranged : tree.IsArranged) (childless : directory.children = []) :
    (tree.graft holder directory).IsArranged := by
  have old : ∀ {other id}, tree.Holds other id → id ≠ tree.size :=
    fun held => Nat.ne_of_lt (arranged.valid_of_holds held)
  constructor
  case rooted =>
    rw [size_graft]
    exact Nat.lt_succ_of_lt arranged.rooted
  case lt_of_holds =>
    intro other id held
    rcases (holds_graft_iff valid childless).mp held with held | ⟨rfl, rfl⟩
    · exact arranged.lt_of_holds held
    · exact valid
  case valid_of_holds =>
    intro other id held
    rw [size_graft]
    rcases (holds_graft_iff valid childless).mp held with held | ⟨rfl, rfl⟩
    · exact Nat.lt_succ_of_lt (arranged.valid_of_holds held)
    · exact Nat.lt_succ_self _
  case nodup =>
    intro other
    rw [subdirectories_graft valid childless]
    refine List.Nodup.append (arranged.nodup other) (by split <;> simp) ?_
    intro id held new
    apply old held
    split at new
    · exact List.mem_singleton.mp new
    · cases new
  case unique =>
    intro first second id one other
    rcases (holds_graft_iff valid childless).mp one with one | ⟨rfl, fresh⟩
    · rcases (holds_graft_iff valid childless).mp other with other | ⟨-, fresh⟩
      · exact arranged.unique one other
      · exact absurd fresh (old one)
    · rcases (holds_graft_iff valid childless).mp other with other | ⟨rfl, -⟩
      · exact absurd fresh (old other)
      · rfl
  case held =>
    intro id inside below
    rw [size_graft] at inside
    rcases Nat.lt_succ_iff_lt_or_eq.mp inside with inside | rfl
    · obtain ⟨other, held⟩ := arranged.held inside below
      exact ⟨other, (holds_graft_iff valid childless).mpr (.inl held)⟩
    · exact ⟨holder, (holds_graft_iff valid childless).mpr (.inr ⟨rfl, rfl⟩)⟩

omit directory

theorem subdirectories_addFile (file : File) (other : DirId) :
    (tree.addFile holder file).subdirectories other = tree.subdirectories other := by
  rw [subdirectories, addFile, children_addChild _ valid, List.filterMap_append, subdirectories]
  split <;> exact List.append_nil _

theorem IsArranged.addFile (arranged : tree.IsArranged) (file : File) :
    (tree.addFile holder file).IsArranged :=
  arranged.of_same (subdirectories_addFile valid file) (size_addFile ..)

theorem IsArranged.place (arranged : tree.IsArranged) (entries : Entries) :
    (tree.place holder entries).IsArranged := by
  induction entries generalizing tree holder with
  | nil => exact arranged
  | file file rest inductionHypothesis =>
      exact inductionHypothesis (by rwa [size_addFile]) (arranged.addFile valid file)
  | directory name inside rest insideHypothesis restHypothesis =>
      have opened : (tree.graft holder { name := name }).IsArranged := arranged.graft valid rfl
      have filled := insideHypothesis (by rw [size_graft]; exact Nat.lt_succ_self _) opened
      rw [place_directory]
      refine restHypothesis ?_ filled
      rw [size_place, size_graft]
      exact Nat.lt_add_right _ (Nat.lt_succ_of_lt valid)

end

theorem parent?_place (unlinked : ∀ id, tree.parent? id = none) (holder : DirId)
    (entries : Entries) (id : DirId) : (tree.place holder entries).parent? id = none := by
  induction entries generalizing tree holder id with
  | nil => exact unlinked id
  | file file rest inductionHypothesis =>
      refine inductionHypothesis (fun other => ?_) holder id
      exact (parent?_addChild ..).trans (unlinked other)
  | directory name inside rest insideHypothesis restHypothesis =>
      have opened : ∀ other, (tree.graft holder { name := name }).parent? other = none := by
        intro other
        rw [parent?_graft, unlinked other, ite_self]
      rw [place_directory]
      exact restHypothesis (insideHypothesis opened tree.size) holder id

@[simp]
theorem subdirectories_setParent (id parent holder : DirId) :
    (tree.setParent id parent).subdirectories holder = tree.subdirectories holder := by
  rw [subdirectories, children_setParent, subdirectories]

theorem holds_setParent (id parent : DirId) : (tree.setParent id parent).Holds = tree.Holds := by
  funext holder child
  rw [Holds, subdirectories_setParent, Holds]

theorem IsArranged.setParent (arranged : tree.IsArranged) (id parent : DirId) :
    (tree.setParent id parent).IsArranged :=
  arranged.of_same (subdirectories_setParent id parent) (size_update ..)

/-- Links the children of a directory one after the other, with what is below them. -/
def linkEach (levels : Nat) (id : DirId) (tree : FileTree) (children : List DirId) : FileTree :=
  children.foldl (fun tree child => linkParentsWithin levels (tree.setParent child id) child) tree

theorem linkParentsWithin_succ (levels : Nat) (id : DirId) :
    linkParentsWithin (levels + 1) tree id = linkEach levels id tree (tree.subdirectories id) := rfl

theorem linkEach_cons (levels : Nat) (id child : DirId) (children : List DirId) :
    linkEach levels id tree (child :: children) =
      linkEach levels id (linkParentsWithin levels (tree.setParent child id) child) children := rfl

theorem holds_linkEach {levels : Nat}
    (same : ∀ tree child, (linkParentsWithin levels tree child).Holds = tree.Holds) (id : DirId)
    (children : List DirId) : (linkEach levels id tree children).Holds = tree.Holds := by
  induction children generalizing tree with
  | nil => rfl
  | cons child children inductionHypothesis =>
      rw [linkEach_cons, inductionHypothesis, same, holds_setParent]

theorem holds_linkParentsWithin (levels : Nat) (tree : FileTree) (id : DirId) :
    (linkParentsWithin levels tree id).Holds = tree.Holds := by
  induction levels generalizing tree id with
  | zero => rfl
  | succ levels inductionHypothesis => exact holds_linkEach inductionHypothesis id _

section

variable {motive : FileTree → Prop}
  (step : ∀ {tree : FileTree} {holder child : DirId}, tree.Holds holder child → motive tree →
    motive (tree.setParent child holder))
include step

theorem linkEach_induction {levels : Nat}
    (each : ∀ tree child, motive tree → motive (linkParentsWithin levels tree child)) {id : DirId}
    {children : List DirId} (held : ∀ child ∈ children, tree.Holds id child) (start : motive tree) :
    motive (linkEach levels id tree children) := by
  induction children generalizing tree with
  | nil => exact start
  | cons child children inductionHypothesis =>
      rw [linkEach_cons]
      apply inductionHypothesis
      · intro other member
        rw [holds_linkParentsWithin, holds_setParent]
        exact held other (List.mem_cons_of_mem child member)
      · exact each _ _ (step (held child List.mem_cons_self) start)

/-- Linking parents keeps what no link from a directory to what holds it can break. -/
theorem linkParentsWithin_induction (levels : Nat) (tree : FileTree) (id : DirId)
    (start : motive tree) : motive (linkParentsWithin levels tree id) := by
  induction levels generalizing tree id with
  | zero => exact start
  | succ levels inductionHypothesis =>
      exact linkEach_induction step inductionHypothesis (fun _ held => held) start

end

namespace IsArranged

variable (arranged : tree.IsArranged) {holder child : DirId} (held : tree.Holds holder child)
include arranged held

theorem parent?_setParent (id : DirId) : (tree.setParent child holder).parent? id =
    if child = id then some holder else tree.parent? id :=
  tree.parent?_setParent (arranged.valid_of_holds held) holder id

theorem ne_root_of_holds : child ≠ root :=
  Nat.ne_of_gt (Nat.zero_lt_of_lt (arranged.lt_of_holds held))

theorem pointsBack_setParent_self : (tree.setParent child holder).PointsBack child := by
  intro other another
  rw [holds_setParent] at another
  rw [arranged.parent?_setParent held, if_pos rfl, arranged.unique held another]

theorem pointsBack_setParent {id : DirId} (linked : tree.PointsBack id) :
    (tree.setParent child holder).PointsBack id := by
  by_cases here : child = id
  · exact here ▸ arranged.pointsBack_setParent_self held
  · intro other another
    rw [holds_setParent] at another
    rw [arranged.parent?_setParent held, if_neg here, linked other another]

end IsArranged

theorem IsArranged.linkParentsWithin (arranged : tree.IsArranged) (levels : Nat) (id : DirId) :
    (tree.linkParentsWithin levels id).IsArranged :=
  linkParentsWithin_induction (motive := IsArranged) (fun _ now => now.setParent _ _) levels tree id
    arranged

/-- An arranged tree in which some directory points back at what holds it. -/
structure IsLinkedAt (tree : FileTree) (id : DirId) : Prop extends tree.IsArranged where
  pointsBack : tree.PointsBack id

theorem IsLinkedAt.setParent {id holder child : DirId} (held : tree.Holds holder child)
    (linked : tree.IsLinkedAt id) : (tree.setParent child holder).IsLinkedAt id where
  toIsArranged := linked.toIsArranged.setParent child holder
  pointsBack := linked.toIsArranged.pointsBack_setParent held linked.pointsBack

theorem IsLinkedAt.linkParentsWithin {below : DirId} (linked : tree.IsLinkedAt below)
    (levels : Nat) (id : DirId) : (tree.linkParentsWithin levels id).IsLinkedAt below :=
  linkParentsWithin_induction (motive := (IsLinkedAt · below)) .setParent levels tree id linked

/-- What the turn of one child links stays linked when all children have had their turn. -/
theorem isLinkedAt_linkEach {levels : Nat} {id child below : DirId} {children : List DirId}
    (turn : ∀ now : FileTree, now.IsArranged → now.Holds = tree.Holds →
      ((now.setParent child id).linkParentsWithin levels child).IsLinkedAt below)
    (member : child ∈ children) (held : ∀ child ∈ children, tree.Holds id child)
    (arranged : tree.IsArranged) : (linkEach levels id tree children).IsLinkedAt below := by
  induction children generalizing tree with
  | nil => cases member
  | cons head children inductionHypothesis =>
      rw [linkEach_cons]
      have same : ((tree.setParent head id).linkParentsWithin levels head).Holds = tree.Holds := by
        rw [holds_linkParentsWithin, holds_setParent]
      have later : ∀ other ∈ children,
          ((tree.setParent head id).linkParentsWithin levels head).Holds id other :=
        fun other member => same ▸ held other (List.mem_cons_of_mem head member)
      -- The turns after the child's keep what is linked; until it comes the children are the same.
      rcases List.mem_cons.mp member with rfl | member
      · exact linkEach_induction (motive := (IsLinkedAt · below)) .setParent
          (fun _ _ linked => linked.linkParentsWithin levels _) later (turn tree arranged rfl)
      · refine inductionHypothesis (fun now arranged still => ?_) member later ?_
        · exact turn now arranged (still.trans same)
        · exact (arranged.setParent head id).linkParentsWithin levels head

/-- Linking comes by every directory that is not too many levels below. -/
theorem isLinkedAt_linkParentsWithin (arranged : tree.IsArranged) {levels : Nat} {id below : DirId}
    (way : TransGen tree.Holds id below) (near : below ≤ id + levels) :
    (tree.linkParentsWithin levels id).IsLinkedAt below := by
  -- Numbers grow on the way down, so every level brings the directory nearer.
  induction levels generalizing tree id with
  | zero => exact absurd near (Nat.not_le_of_lt (arranged.lt_of_transGen way))
  | succ levels inductionHypothesis =>
      obtain ⟨child, held, further⟩ := TransGen.head'_iff.mp way
      rw [linkParentsWithin_succ]
      refine isLinkedAt_linkEach (fun now arrangedNow same => ?_) held (fun _ held => held) arranged
      have heldNow : now.Holds id child := same ▸ held
      have linking := arrangedNow.setParent child id
      rcases reflTransGen_iff_eq_or_transGen.mp further with rfl | further
      · have linked : (now.setParent below id).IsLinkedAt below :=
          ⟨linking, arrangedNow.pointsBack_setParent_self heldNow⟩
        exact linked.linkParentsWithin levels below
      · refine inductionHypothesis linking ?_ ?_
        · rwa [holds_setParent, same]
        · calc
            below ≤ id + (levels + 1) := near
            _ = id + 1 + levels := (Nat.succ_add_eq_add_succ id levels).symm
            _ ≤ child + levels := Nat.add_le_add_right (arranged.lt_of_holds held) levels

theorem parent?_root_linkParentsWithin (arranged : tree.IsArranged)
    (orphan : tree.parent? root = none) (levels : Nat) (id : DirId) :
    (tree.linkParentsWithin levels id).parent? root = none := by
  refine (linkParentsWithin_induction
    (motive := fun now => now.IsArranged ∧ now.parent? root = none) ?_ levels tree id
    ⟨arranged, orphan⟩).2
  rintro now holder child held ⟨arranged, orphan⟩
  refine ⟨arranged.setParent child holder, ?_⟩
  rw [arranged.parent?_setParent held, if_neg (arranged.ne_root_of_holds held), orphan]

theorem isArranged_single (name : String) : (single name).IsArranged := by
  have childless : ∀ holder id, ¬(single name).Holds holder id := by
    intro holder id held
    cases holder <;> simp [Holds, subdirectories, children, directory?, single] at held
  constructor
  case rooted => exact Nat.zero_lt_one
  case lt_of_holds => exact fun held => absurd held (childless _ _)
  case valid_of_holds => exact fun held => absurd held (childless _ _)
  case nodup =>
    intro holder
    cases holder <;> simp [subdirectories, children, directory?, single]
  case unique => exact fun held => absurd held (childless _ _)
  case held => exact fun valid below => absurd (Nat.lt_one_iff.mp valid) below

theorem isArranged_unlinked (layout : Layout) : (unlinked layout).IsArranged :=
  (isArranged_single layout.name).place Nat.zero_lt_one layout.entries

theorem parent?_unlinked (layout : Layout) (id : DirId) :
    (unlinked layout).parent? id = none := by
  refine parent?_place (fun id => ?_) root layout.entries id
  cases id <;> simp [parent?, directory?, single]

theorem isLinked_ofLayout (layout : Layout) : (ofLayout layout).IsLinked := by
  have placed := isArranged_unlinked layout
  have orphans := parent?_unlinked layout
  constructor
  case toIsArranged => exact placed.linkParentsWithin _ root
  case parent?_root => exact parent?_root_linkParentsWithin placed (orphans root) _ root
  case pointsBack =>
    intro id holder held
    have before : (unlinked layout).Holds holder id := by
      rwa [ofLayout, linkParents, holds_linkParentsWithin] at held
    have valid := placed.valid_of_holds before
    have way := placed.transGen_root valid (placed.ne_root_of_holds before)
    have near : id ≤ root + (unlinked layout).size :=
      Nat.le_trans (Nat.le_of_lt valid) (Nat.le_add_left ..)
    exact (isLinkedAt_linkParentsWithin placed way near).pointsBack holder held

namespace IsLinked

variable (linked : tree.IsLinked)
include linked

theorem parent?_eq_some_iff {holder id : DirId} :
    tree.parent? id = some holder ↔ tree.Holds holder id := by
  constructor
  · intro parent
    have valid : id < tree.size := by
      by_contra unused
      rw [parent?, tree.directory?_eq_none (Nat.le_of_not_lt unused)] at parent
      cases parent
    have below : id ≠ root := by
      rintro rfl
      rw [linked.parent?_root] at parent
      cases parent
    obtain ⟨other, held⟩ := linked.held valid below
    rwa [Option.some.inj (parent.symm.trans (linked.pointsBack id other held))]
  · exact linked.pointsBack id holder

theorem parent?_eq_none_iff {id : DirId} (valid : id < tree.size) :
    tree.parent? id = none ↔ id = root := by
  constructor
  · intro orphan
    by_contra below
    obtain ⟨holder, held⟩ := linked.held valid below
    rw [linked.pointsBack id holder held] at orphan
    cases orphan
  · rintro rfl
    exact linked.parent?_root

/-- There is nothing left to be linked. -/
theorem linkParents_eq_self (id : DirId) (recursive : Bool) :
    tree.linkParents id recursive = tree := by
  refine linkParentsWithin_induction (motive := (· = tree)) ?_ _ tree id rfl
  rintro now holder child held rfl
  exact now.setParent_eq_self (linked.pointsBack child holder held)

theorem addFile {id : DirId} (valid : id < tree.size) (file : File) :
    (tree.addFile id file).IsLinked where
  toIsArranged := linked.toIsArranged.addFile valid file
  parent?_root := (parent?_addChild ..).trans linked.parent?_root
  pointsBack := by
    intro child holder held
    rw [Holds, subdirectories_addFile valid] at held
    exact (parent?_addChild ..).trans (linked.pointsBack child holder held)

theorem addDirectory {parent : DirId} (valid : parent < tree.size) (name : String) :
    (tree.addDirectory parent name).IsLinked where
  toIsArranged := linked.toIsArranged.graft valid rfl
  parent?_root := by
    have old : root ≠ tree.size := Nat.ne_of_lt (Nat.zero_lt_of_lt valid)
    exact (parent?_graft root).trans ((if_neg old).trans linked.parent?_root)
  pointsBack := by
    intro child holder held
    refine (parent?_graft child).trans ?_
    rcases (holds_graft_iff valid rfl).mp held with held | ⟨rfl, rfl⟩
    · rw [if_neg (Nat.ne_of_lt (linked.valid_of_holds held)), linked.pointsBack child holder held]
    · rw [if_pos rfl]

end IsLinked

theorem Grown.isLinked (grown : tree.Grown) : tree.IsLinked := by
  induction grown with
  | ofLayout layout => exact isLinked_ofLayout layout
  | addDirectory _ valid name linked => exact linked.addDirectory valid name
  | addFile _ valid file linked => exact linked.addFile valid file
  | linkParents _ _ recursive linked => rwa [linked.linkParents_eq_self]

/-- In every tree that can be grown, the root has no parent and is nobody's child.  Every other
directory is named once in all the lists of children, and it points back at the one whose list names
it, which comes before it.  So nothing is below itself, everything is below the root, and only the
root has no parent. -/
theorem links_of_grown (grown : tree.Grown) :
    tree.parent? root = none ∧
    (∀ holder, .directory root ∉ tree.children holder) ∧
    (∀ id, id < tree.size → id ≠ root →
      ((List.range tree.size).flatMap tree.children).count (.directory id) = 1 ∧
        ∃ holder, tree.parent? id = some holder) ∧
    (∀ holder id, tree.parent? id = some holder ↔ .directory id ∈ tree.children holder) ∧
    (∀ holder id, .directory id ∈ tree.children holder → id < tree.size) ∧
    (∀ holder id, tree.parent? id = some holder → holder < id) ∧
    (∀ id, ¬TransGen tree.Holds id id) ∧
    (∀ id, id < tree.size → tree.Reaches root id) ∧
    (∀ id, id < tree.size → (tree.parent? id = none ↔ id = root)) := by
  have linked := grown.isLinked
  refine ⟨linked.parent?_root, ?_, ?_, ?_, ?_, ?_, ?_, ?_, ?_⟩
  · intro holder member
    exact linked.ne_root_of_holds (mem_children_iff_holds.mp member) rfl
  · intro id valid below
    obtain ⟨holder, held⟩ := linked.held valid below
    exact ⟨linked.count_children valid below, holder, linked.pointsBack id holder held⟩
  · intro holder id
    rw [linked.parent?_eq_some_iff, mem_children_iff_holds]
  · exact fun holder id member => linked.valid_of_holds (mem_children_iff_holds.mp member)
  · exact fun holder id parent => linked.lt_of_holds (linked.parent?_eq_some_iff.mp parent)
  · exact fun id way => Nat.lt_irrefl id (linked.lt_of_transGen way)
  · exact fun id valid => linked.reaches_root valid
  · exact fun id valid => linked.parent?_eq_none_iff valid

/-- Two directories laid out one inside the other, and then another directory and a file added. -/
def extendedTree : FileTree :=
  let laid := ofLayout { entries := .directory "a" (.directory "b" .nil .nil) .nil }
  ((laid.addDirectory 1 "c").addFile 3 helloWorld).linkParents 1 true

theorem extendedTree_grown : extendedTree.Grown :=
  .linkParents (.addFile (.addDirectory (.ofLayout _) (by decide) "c") (by decide) _) (by decide) _

/-- The directory that was added is named once, in the list of the one that it was added to. -/
theorem links_of_grown_extended :
    extendedTree.Grown ∧
    ((List.range extendedTree.size).flatMap extendedTree.children).count (.directory 3) = 1 ∧
    extendedTree.parent? 3 = some 1 ∧ extendedTree.Reaches root 3 := by
  have grown := extendedTree_grown
  obtain ⟨-, -, once, same, -, -, -, reached, -⟩ := links_of_grown grown
  refine ⟨grown, (once 3 (by decide) (by decide)).1, (same 1 3).mpr (by decide), ?_⟩
  exact reached 3 (by decide)

end VirtualTerminal.FileTree
