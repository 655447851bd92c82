import VirtualTerminal.FileTree.Layout
import VirtualTerminal.FileTree.Resolve

/-!
# Paths in turn

A path that goes on behind another one leads where the second leads from where the first has led, or
fails as the first does.  Only what is edited off the ends of a path before it is walked could tell
the two ways apart: an empty segment at the end of the first path, which is dropped unless more
follows, and the root's name at the start of the second, which leads to the root only in front.
-/

namespace VirtualTerminal

/-- Whether a path starts at the root of a tree, wherever it is taken. -/
def FileTree.IsAbsolute (tree : FileTree) (path : String) : Prop :=
  (Path.segments path).head? = some (tree.name root)

instance (tree : FileTree) (path : String) : Decidable (tree.IsAbsolute path) :=
  inferInstanceAs (Decidable (_ = _))

namespace FileTree

variable {tree : FileTree} {id : DirId} {path : String}

theorem findDirectory_of_absolute {rest : List String}
    (segments : Path.segments path = tree.name root :: rest) :
    tree.findDirectory id path = tree.walk root (Path.dropFinalSlash rest) := by
  rw [findDirectory, segments]
  exact if_pos rfl

theorem findDirectory_of_relative (relative : ¬tree.IsAbsolute path) :
    tree.findDirectory id path = tree.walk id (Path.dropFinalSlash (Path.segments path)) := by
  unfold IsAbsolute at relative
  unfold findDirectory
  cases segments : Path.segments path with
  | nil => exact absurd segments (Path.segments_ne_nil path)
  | cons first rest =>
      have other : first ≠ tree.name root := by simpa [segments] using relative
      exact if_neg other

/-- The front of a path says where it starts. -/
theorem isAbsolute_append_slash {further : String} :
    tree.IsAbsolute (path ++ "/" ++ further) ↔ tree.IsAbsolute path := by
  unfold IsAbsolute
  rw [Path.segments_append_slash]
  cases segments : Path.segments path with
  | nil => exact absurd segments (Path.segments_ne_nil path)
  | cons first rest => rfl

theorem isAbsolute_append_final_slash : tree.IsAbsolute (path ++ "/") ↔ tree.IsAbsolute path := by
  rw [← String.append_empty (s := path ++ "/")]
  exact isAbsolute_append_slash

/-- Whatever edits the end of the segments leaves those in front of others alone. -/
theorem walk_dropFinalSlash_append (id : DirId) (first : List String) {second : List String}
    (nonempty : second ≠ []) :
    tree.walk id (Path.dropFinalSlash (first ++ second)) =
      (tree.walk id first).bind (tree.walk · (Path.dropFinalSlash second)) := by
  rw [Path.dropFinalSlash_append first nonempty, walk_append]

/-- In every tree and from every directory, a path with a further one behind it leads where the
further one leads from where the first has led; if the first leads nowhere it fails for the same
reason.  The first must not end in an empty segment and the further one must not start at the root.
-/
theorem findDirectory_append_slash {further : String}
    (final : (Path.segments path).getLast? ≠ some "") (relative : ¬tree.IsAbsolute further) :
    tree.findDirectory id (path ++ "/" ++ further) =
      (tree.findDirectory id path).bind (tree.findDirectory · further) := by
  have nonempty := Path.segments_ne_nil further
  have last : (tree.findDirectory · further) =
      (tree.walk · (Path.dropFinalSlash (Path.segments further))) := by
    funext next
    exact findDirectory_of_relative relative
  have whole := Path.segments_append_slash path further
  rw [last]
  by_cases absolute : tree.IsAbsolute path
  · obtain ⟨rest, segments⟩ := List.head?_eq_some_iff.mp absolute
    rw [segments] at final
    have restFinal := Path.getLast?_ne_empty_of_cons final
    rw [segments, List.cons_append] at whole
    rw [findDirectory_of_absolute whole, findDirectory_of_absolute segments,
      walk_dropFinalSlash_append root rest nonempty, Path.dropFinalSlash_eq_self restFinal]
  · rw [findDirectory_of_relative (mt isAbsolute_append_slash.mp absolute),
      findDirectory_of_relative absolute, whole, walk_dropFinalSlash_append id _ nonempty,
      Path.dropFinalSlash_eq_self final]

/-- In a tree with a nameless directory the further path may start with a slash. -/
theorem findDirectory_append_slash_nameless :
    let inner : Entries := .directory "" (.directory "b" .nil .nil) .nil
    let tree := ofLayout { name := "r", entries := .directory "a" inner .nil }
    (Path.segments "r/a").getLast? ≠ some "" ∧ ¬tree.IsAbsolute "/b/.." ∧
      tree.findDirectory root ("r/a" ++ "/" ++ "/b/..") =
        (tree.findDirectory root "r/a").bind (tree.findDirectory · "/b/..") ∧
      (tree.findDirectory root "r/a").toOption = some 1 ∧
      (tree.findDirectory 1 "/b/..").toOption = some 2 := by
  intro inner tree
  have final : (Path.segments "r/a").getLast? ≠ some "" := by decide +kernel
  have relative : ¬tree.IsAbsolute "/b/.." := by decide +kernel
  exact ⟨final, relative, findDirectory_append_slash final relative, by decide +kernel,
    by decide +kernel⟩

end FileTree

end VirtualTerminal
