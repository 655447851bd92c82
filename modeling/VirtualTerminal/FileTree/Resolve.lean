import VirtualTerminal.Error
import VirtualTerminal.FileTree.Basic
import VirtualTerminal.Path

/-!
What a path leads to.

A path starts at the root if its first segment is the root's name, and at the working directory
otherwise.  Each further segment stays, goes up or goes down to the first child of its name.
-/

namespace VirtualTerminal.FileTree

variable (tree : FileTree)

def step (id : DirId) (segment : String) : Except PathError DirId :=
  if segment = "." then .ok id
  else if segment = ".." then
    match tree.parent? id with
    | some parent => .ok parent
    | none => .error .rootHasNoParent
  else
    match (tree.children id).find? (tree.nodeName · = segment) with
    | some (.directory child) => .ok child
    | some (.file file) => .error (.isAFile file.name)
    | none => .error (.directoryNotFound segment)

def walk (id : DirId) : List String → Except PathError DirId
  | [] => .ok id
  | segment :: segments =>
      match tree.step id segment with
      | .ok next => walk next segments
      | .error error => .error error

def findDirectory (workingDirectory : DirId) (path : String) : Except PathError DirId :=
  match Path.segments path with
  | [] => .ok workingDirectory
  | first :: rest =>
      if first = tree.name root then tree.walk root (Path.dropFinalSlash rest)
      else tree.walk workingDirectory (Path.dropFinalSlash (first :: rest))

/-- The directory that a file's name is looked up in. -/
def findHolder (workingDirectory : DirId) (name : Path.FileName) : Except PathError DirId :=
  match name.directory with
  | some directory => tree.findDirectory workingDirectory directory
  | none => .ok workingDirectory

def findFile (workingDirectory : DirId) (path : String) : Except PathError File :=
  match Path.fileName? path with
  | none => .error (.malformed path)
  | some target =>
      match tree.findHolder workingDirectory target with
      | .error error => .error error
      | .ok holder =>
          match (tree.files holder).find? (·.name = target.name) with
          | some file => .ok file
          | none => .error (.fileNotFound target.name (tree.fullPath holder))

variable {tree}

@[simp]
theorem walk_nil (id : DirId) : tree.walk id [] = .ok id := rfl

theorem walk_cons (id : DirId) (segment : String) (segments : List String) :
    tree.walk id (segment :: segments) = (tree.step id segment).bind (tree.walk · segments) := by
  rw [walk]
  cases tree.step id segment <;> rfl

theorem walk_append (id : DirId) (first second : List String) :
    tree.walk id (first ++ second) = (tree.walk id first).bind (tree.walk · second) := by
  induction first generalizing id with
  | nil => rfl
  | cons segment first inductionHypothesis =>
      rw [List.cons_append, walk, walk]
      cases tree.step id segment with
      | ok next => exact inductionHypothesis next
      | error error => rfl

end VirtualTerminal.FileTree
