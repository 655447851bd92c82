import VirtualTerminal.Proofs.FileTree.Building

/-!
# What linking sets

Linking goes down a tree while it changes it.  It follows the lists of children, which it does not
change, and numbers grow on the way, so it comes to an end in every arranged tree, however deep.  Of
the directories below the one it starts from it sets the links, to where each of them is listed, and
it leaves everything else alone.
-/

namespace VirtualTerminal.FileTree

open Relation

/-- Linking some children of a directory one after the other takes one tree to another.  If all
levels are linked, what is below a child is linked before the next one has its turn.  Nothing bounds
the levels here, so this holds of no tree if linking goes on for ever. -/
inductive Linking : Bool → DirId → List DirId → FileTree → FileTree → Prop
  | done {recursive : Bool} {id : DirId} {tree : FileTree} : Linking recursive id [] tree tree
  | child {id child : DirId} {children : List DirId} {tree final : FileTree}
      (valid : child < tree.size)
      (rest : Linking false id children (tree.setParent child id) final) :
      Linking false id (child :: children) tree final
  | subtree {id child : DirId} {children : List DirId} {tree between final : FileTree}
      (valid : child < tree.size)
      (below : Linking true child ((tree.setParent child id).subdirectories child)
        (tree.setParent child id) between)
      (rest : Linking true id children between final) :
      Linking true id (child :: children) tree final

variable {tree : FileTree} {id below holder : DirId} {children : List DirId} {levels : Nat}

theorem Linking.unique {recursive : Bool} {first second : FileTree}
    (one : Linking recursive id children tree first)
    (other : Linking recursive id children tree second) : first = second := by
  induction one generalizing second with
  | done =>
      cases other
      rfl
  | child _ _ inductionHypothesis =>
      cases other with
      | child _ rest => exact inductionHypothesis rest
  | subtree _ _ _ belowHypothesis restHypothesis =>
      cases other with
      | subtree _ below rest =>
          obtain rfl := belowHypothesis below
          exact restHypothesis rest

theorem subdirectories_eq_nil (unused : tree.size ≤ id) : tree.subdirectories id = [] := by
  simp [subdirectories, FileTree.children, tree.directory?_eq_none unused]

section

variable (arranged : tree.IsArranged) (held : ∀ child ∈ children, tree.Holds id child)
include arranged held

theorem linking_children : Linking false id children tree (linkEach 0 id tree children) := by
  induction children generalizing tree with
  | nil => exact .done
  | cons child children inductionHypothesis =>
      refine .child (arranged.valid_of_holds (held child List.mem_cons_self)) ?_
      apply inductionHypothesis (arranged.setParent child id)
      intro other member
      rw [holds_setParent]
      exact held other (List.mem_cons_of_mem child member)

theorem linking_linkEach
    (turn : ∀ (now : FileTree) (child : DirId), now.IsArranged → now.size = tree.size → id < child →
      Linking true child (now.subdirectories child) now (now.linkParentsWithin levels child)) :
    Linking true id children tree (linkEach levels id tree children) := by
  induction children generalizing tree with
  | nil => exact .done
  | cons child children inductionHypothesis =>
      have here := held child List.mem_cons_self
      have linked := arranged.setParent child id
      have same : (tree.setParent child id).size = tree.size := size_update ..
      rw [linkEach_cons]
      refine .subtree (arranged.valid_of_holds here)
        (turn _ child linked same (arranged.lt_of_holds here)) ?_
      apply inductionHypothesis (linked.linkParentsWithin levels child)
      · intro other member
        rw [holds_linkParentsWithin, holds_setParent]
        exact held other (List.mem_cons_of_mem child member)
      · intro now other arrangedNow sameNow after
        rw [size_linkParentsWithin, same] at sameNow
        exact turn now other arrangedNow sameNow after

end

/-- Every level starts at a higher number, so as many levels as there are numbers left are enough. -/
theorem linking_linkParentsWithin (arranged : tree.IsArranged) (enough : tree.size ≤ id + levels) :
    Linking true id (tree.subdirectories id) tree (tree.linkParentsWithin levels id) := by
  induction levels generalizing tree id with
  | zero =>
      have childless : tree.subdirectories id = [] := subdirectories_eq_nil enough
      rw [childless]
      exact .done
  | succ levels inductionHypothesis =>
      rw [linkParentsWithin_succ]
      refine linking_linkEach arranged (fun _ held => held) fun now child arrangedNow same after => ?_
      apply inductionHypothesis arrangedNow
      calc
        now.size = tree.size := same
        _ ≤ id + (levels + 1) := enough
        _ = id + 1 + levels := (Nat.succ_add_eq_add_succ id levels).symm
        _ ≤ child + levels := Nat.add_le_add_right after levels

/-- In an arranged tree linking comes to an end, and only with the tree that is computed. -/
theorem linking_iff (arranged : tree.IsArranged) (id : DirId) (recursive : Bool)
    (final : FileTree) :
    Linking recursive id (tree.subdirectories id) tree final ↔
      final = tree.linkParents id recursive := by
  have ends : Linking recursive id (tree.subdirectories id) tree (tree.linkParents id recursive) := by
    cases recursive with
    | false => exact linking_children arranged fun _ held => held
    | true => exact linking_linkParentsWithin arranged (Nat.le_add_left ..)
  constructor
  · exact fun other => other.unique ends
  · rintro rfl
    exact ends

theorem parent?_setParent_of_ne {other : DirId} (different : id ≠ other) (parent : DirId) :
    (tree.setParent id parent).parent? other = tree.parent? other := by
  rw [parent?, directory?_setParent, if_neg different, parent?]

theorem parent?_linkEach_zero (valid : ∀ child ∈ children, child < tree.size) :
    (linkEach 0 id tree children).parent? below =
      if below ∈ children then some id else tree.parent? below := by
  induction children generalizing tree with
  | nil => simp [linkEach]
  | cons child children inductionHypothesis =>
      obtain ⟨here, later⟩ := List.forall_mem_cons.mp valid
      have rest : ∀ other ∈ children, other < (tree.setParent child id).size := by
        intro other member
        rw [setParent, size_update]
        exact later other member
      have linked : linkEach 0 id tree (child :: children) =
          linkEach 0 id (tree.setParent child id) children := rfl
      rw [linked, inductionHypothesis rest, tree.parent?_setParent here]
      by_cases same : child = below
      · simp [same]
      · simp [same, Ne.symm same]

/-- No link is set but below the directory where linking starts. -/
theorem parent?_linkEach_of_apart
    (turn : ∀ (now : FileTree) (child : DirId), ¬now.Reaches child below →
      (now.linkParentsWithin levels child).parent? below = now.parent? below)
    (apart : ∀ child ∈ children, ¬tree.Reaches child below) :
    (linkEach levels id tree children).parent? below = tree.parent? below := by
  induction children generalizing tree with
  | nil => rfl
  | cons child children inductionHypothesis =>
      obtain ⟨here, later⟩ := List.forall_mem_cons.mp apart
      have different : child ≠ below := by
        rintro rfl
        exact here .refl
      have same : (tree.setParent child id).Reaches = tree.Reaches := by
        unfold Reaches
        rw [holds_setParent]
      have unreached : ((tree.setParent child id).linkParentsWithin levels child).Reaches =
          tree.Reaches := by
        rw [← same]
        unfold Reaches
        rw [holds_linkParentsWithin]
      rw [linkEach_cons, inductionHypothesis (unreached ▸ later), turn _ child (same ▸ here),
        parent?_setParent_of_ne different]

theorem parent?_linkParentsWithin_of_apart (apart : ¬TransGen tree.Holds id below) :
    (tree.linkParentsWithin levels id).parent? below = tree.parent? below := by
  induction levels generalizing tree id with
  | zero => rfl
  | succ levels inductionHypothesis =>
      rw [linkParentsWithin_succ]
      apply parent?_linkEach_of_apart
      · exact fun now child unreached => inductionHypothesis fun way => unreached way.to_reflTransGen
      · exact fun child held way => apart (TransGen.head' held way)

namespace IsArranged

variable (arranged : tree.IsArranged) (orphans : ∀ id, tree.parent? id = none)
include arranged orphans

theorem parent?_linkParents_children :
    (tree.linkParents id false).parent? below = some holder ↔
      holder = id ∧ tree.Holds id below := by
  have linked : tree.linkParents id false = linkEach 0 id tree (tree.subdirectories id) := rfl
  rw [linked, parent?_linkEach_zero fun child held => arranged.valid_of_holds held, orphans]
  by_cases held : below ∈ tree.subdirectories id
  · simp [held, Holds, eq_comm]
  · simp [held, Holds]

theorem parent?_linkParents_subtree :
    (tree.linkParents id true).parent? below = some holder ↔
      TransGen tree.Holds id below ∧ tree.Holds holder below := by
  have set : TransGen tree.Holds id below → ∀ {holder}, tree.Holds holder below →
      (tree.linkParents id true).parent? below = some holder := by
    intro way holder held
    have near : below ≤ id + tree.size :=
      Nat.le_trans (Nat.le_of_lt (arranged.valid_of_holds held)) (Nat.le_add_left ..)
    apply (isLinkedAt_linkParentsWithin arranged way near).pointsBack
    rwa [holds_linkParentsWithin]
  constructor
  · intro linked
    -- There were no links at the start, so this one was set on the way down.
    have way : TransGen tree.Holds id below := by
      by_contra apart
      have same : (tree.linkParents id true).parent? below = tree.parent? below :=
        parent?_linkParentsWithin_of_apart apart
      rw [same, orphans] at linked
      cases linked
    obtain ⟨last, -, held⟩ := TransGen.tail'_iff.mp way
    obtain rfl := Option.some.inj (linked.symm.trans (set way held))
    exact ⟨way, held⟩
  · rintro ⟨way, held⟩
    exact set way held

end IsArranged

/-- In every tree that can be grown linking comes to an end, from whatever directory and on one level
or all, and leaves the tree as it is.  In the tree of a layout that is not linked yet it comes to an
end as well and sets nothing but links: on one level those of the directory's children, to the
directory, and on all levels those of the directories below it, each to the one that lists it. -/
theorem linking_sets_missing_links :
    (∀ (tree : FileTree) (id : DirId) (recursive : Bool), tree.Grown →
      tree.linkParents id recursive = tree ∧
      ∀ final, Linking recursive id (tree.subdirectories id) tree final ↔ final = tree) ∧
    ∀ (layout : Layout) (id : DirId),
      let placed := unlinked layout
      (∀ other, placed.parent? other = none) ∧
      (∀ recursive final, Linking recursive id (placed.subdirectories id) placed final ↔
        final = placed.linkParents id recursive) ∧
      (∀ recursive, (placed.linkParents id recursive).unlink = placed) ∧
      (∀ holder below, (placed.linkParents id false).parent? below = some holder ↔
        holder = id ∧ placed.Holds id below) ∧
      ∀ holder below, (placed.linkParents id true).parent? below = some holder ↔
        TransGen placed.Holds id below ∧ placed.Holds holder below := by
  constructor
  · intro tree id recursive grown
    have linked := grown.isLinked
    have same := linked.linkParents_eq_self id recursive
    refine ⟨same, fun final => ?_⟩
    rw [linking_iff linked.toIsArranged, same]
  · intro layout id placed
    have arranged := isArranged_unlinked layout
    have orphans := parent?_unlinked layout
    refine ⟨orphans, fun recursive final => linking_iff arranged id recursive final, ?_, ?_, ?_⟩
    · intro recursive
      rw [unlink_linkParents, unlink_eq_self orphans]
    · exact fun holder below => arranged.parent?_linkParents_children orphans
    · exact fun holder below => arranged.parent?_linkParents_subtree orphans

/-- A directory in a directory.  Linking one level from the root leaves the inner one alone, and once
both are linked nothing is left to be set. -/
theorem linking_sets_missing_links_nested :
    let layout : Layout := { entries := .directory "a" (.directory "b" .nil .nil) .nil }
    ((unlinked layout).linkParents root false).parent? 1 = some 0 ∧
    ((unlinked layout).linkParents root false).parent? 2 ≠ some 1 ∧
    ((unlinked layout).linkParents root true).parent? 2 = some 1 ∧
    (ofLayout layout).Grown ∧ (ofLayout layout).linkParents 1 true = ofLayout layout := by
  intro layout
  have grown : (ofLayout layout).Grown := .ofLayout layout
  have outer : (unlinked layout).Holds 0 1 := mem_children_iff_holds.mp (by decide)
  have inner : (unlinked layout).Holds 1 2 := mem_children_iff_holds.mp (by decide)
  obtain ⟨-, -, -, children, subtree⟩ := linking_sets_missing_links.2 layout root
  refine ⟨(children 0 1).mpr ⟨rfl, outer⟩, ?_, ?_, grown, ?_⟩
  · intro linked
    exact absurd ((children 1 2).mp linked).1 (by decide)
  · exact (subtree 1 2).mpr ⟨.tail (.single outer) inner, inner⟩
  · exact (linking_sets_missing_links.1 _ 1 true grown).1

end VirtualTerminal.FileTree
