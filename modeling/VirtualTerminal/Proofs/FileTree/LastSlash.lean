import VirtualTerminal.Proofs.FileTree.Files

/-!
# Files behind the last slash

The pattern of file paths finds the last slash of a path: it reads up to it because it prefers to
read as far as it can, and no further because no slash is in a name.  So what is around the last
slash decides what a path leads to: the text up to it names a directory, the text behind it a file
in there.
-/

namespace VirtualTerminal

namespace Path

open Text Text.Pattern

/-- What stands in front of the last slash is read up to and with it. -/
theorem prefers_directory {before name : List Char} (unbroken : '\n' ∉ before)
    (slashless : '/' ∉ name) (past : List Char) (groups : List (Nat × List Char)) :
    ((Pattern.many ['\n']).next (.literal '/')).Prefers ⟨past, before ++ '/' :: name, groups⟩
      ⟨'/' :: (before.reverse ++ past), name, groups⟩ := by
  show ((repetitions ['\n'] groups past (before ++ '/' :: name)).flatMap
    (Pattern.literal '/').ways).head? = _
  induction before generalizing past with
  | nil =>
      have absent : '/' ∉ (⟨'/' :: past, name, groups⟩ : Point).rest := slashless
      have further : (repetitions ['\n'] groups ('/' :: past) name).flatMap
          (Pattern.literal '/').ways = [] := ways_next_literal_of_not_mem absent (.many ['\n'])
      rw [List.nil_append, repetitions_cons, if_neg (by decide), List.flatMap_append, further]
      rfl
  | cons c before inductionHypothesis =>
      obtain ⟨here, later⟩ := not_or.mp (mt List.mem_cons.mpr unbroken)
      have included : c ∉ ['\n'] := by simpa using Ne.symm here
      rw [List.cons_append, repetitions_cons, if_neg included, List.flatMap_append, List.head?_append,
        inductionHypothesis later]
      simp

/-- The directory of a path is optional and goes up to the last slash. -/
theorem prefers_optional_directory {front name : List Char} (unbroken : '\n' ∉ front)
    (slashless : '/' ∉ name) (final : front = [] ∨ ∃ before, front = before ++ ['/']) :
    (Pattern.optional (.group 1 (.next (.many ['\n']) (.literal '/')))).Prefers
      { rest := front ++ name }
      ⟨front.reverse, name, if front = [] then [] else [(1, front)]⟩ := by
  rcases final with rfl | ⟨before, rfl⟩
  · apply prefers_optional_of_none
    rw [ways_group, ways_next_literal_of_not_mem (by simpa using slashless), List.map_nil]
  · have read := prefers_directory (fun member => unbroken (List.mem_append_left _ member))
      slashless [] []
    have whole : Point.since ⟨'/' :: (before.reverse ++ []), name, []⟩
        { rest := before ++ '/' :: name } = before ++ ['/'] := by
      simp [Point.since, List.take_of_length_le]
    have kept := prefers_optional (prefers_group 1 read)
    rw [whole] at kept
    simpa [Point.keep] using kept

theorem matchedName?_of_broken {path : String} (broken : '\n' ∈ path.toList) :
    matchedName? path = none := by
  have unread : filePattern.match? path = none := by
    rw [filePattern, match?_start_next, List.head?_eq_none_iff, List.eq_nil_iff_forall_not_mem]
    intro reached member
    obtain ⟨text, read, absent⟩ := exists_of_mem_ways member
    have ended : reached.rest = [] := by
      obtain ⟨_, -, after⟩ := List.mem_flatMap.mp member
      obtain ⟨last, -, stopped⟩ := List.mem_flatMap.mp after
      rw [ways_stop] at stopped
      split at stopped
      next finished => rw [List.mem_singleton.mp stopped, finished]
      next => cases stopped
    rw [ended, List.append_nil] at read
    exact absent '\n' (by simp [Avoids]) (read ▸ broken)
  rw [matchedName?, unread]
  rfl

theorem matchedName?_of_toList_eq {path name : String} {front : List Char}
    (text : path.toList = front ++ name.toList) (slashless : '/' ∉ name.toList)
    (final : front = [] ∨ ∃ before, front = before ++ ['/']) :
    matchedName? path =
      if '\n' ∈ path.toList ∨ name = "" then none
      else some {
        directory := if front = [] then none else some (String.ofList front)
        name := name } := by
  by_cases broken : '\n' ∈ path.toList
  · rw [matchedName?_of_broken broken, if_pos (.inl broken)]
  · rw [text, List.mem_append, not_or] at broken
    have included : ∀ c ∈ name.toList, c ∉ ['/', '\n'] := by
      intro c member
      have noSlash : c ≠ '/' := fun same => slashless (same ▸ member)
      have noBreak : c ≠ '\n' := fun same => broken.2 (same ▸ member)
      simp [noSlash, noBreak]
    have directory := prefers_optional_directory broken.1 slashless final
    have last : (Pattern.many ['/', '\n']).Prefers
        ⟨front.reverse, name.toList, if front = [] then [] else [(1, front)]⟩
        ⟨name.toList.reverse ++ front.reverse, [], if front = [] then [] else [(1, front)]⟩ :=
      prefers_many included
    have named := prefers_group 2 last
    rw [Point.since_append, List.reverse_reverse] at named
    have found : filePattern.match? path = some
        ⟨name.toList.reverse ++ front.reverse, [],
          (2, name.toList) :: if front = [] then [] else [(1, front)]⟩ := by
      rw [filePattern, match?_start_next, text]
      exact prefers_next directory (prefers_next named (prefers_stop rfl))
    by_cases filled : name = ""
    · have nameless : '\n' ∈ path.toList ∨ name = "" := .inr filled
      rw [matchedName?, found, if_pos nameless]
      simp [Point.group?, filled]
    · have fits : ¬('\n' ∈ path.toList ∨ name = "") := by
        rw [text, List.mem_append]
        exact not_or.mpr ⟨not_or.mpr broken, filled⟩
      rw [matchedName?, found, if_neg fits]
      by_cases bare : front = [] <;> simp [Point.group?, List.lookup_cons, filled, bare]

/-- A path is all up to and with its last slash, if there is one, and the name behind it. -/
structure IsParted (path directory name : String) : Prop where
  whole : path = directory ++ name
  slashless : '/' ∉ name.toList
  final : directory = "" ∨ ∃ front, directory = front ++ "/"

theorem exists_isParted (path : String) : ∃ directory name, IsParted path directory name := by
  rcases slashless_or_eq_append path with slashless | ⟨front, name, slashless, whole⟩
  · exact ⟨"", path, String.empty_append.symm, slashless, .inl rfl⟩
  · exact ⟨front ++ "/", name, whole, slashless, .inr ⟨front, rfl⟩⟩

namespace IsParted

variable {path directory name : String} (parted : IsParted path directory name)
include parted

theorem toList_eq : path.toList = directory.toList ++ name.toList := by
  rw [parted.whole, String.toList_append]

theorem final_toList : directory.toList = [] ∨ ∃ before, directory.toList = before ++ ['/'] := by
  rcases parted.final with rfl | ⟨front, rfl⟩
  · exact .inl rfl
  · exact .inr ⟨front.toList, by simp⟩

theorem fileName?_eq :
    fileName? path =
      if '\n' ∈ path.toList ∨ name = "" then none
      else some { directory := if directory = "" then none else some directory, name := name } := by
  rw [fileName?_of_toList_eq parted.toList_eq parted.slashless parted.final_toList,
    String.ofList_toList]
  simp only [String.toList_eq_nil_iff]

/-- What the pattern finds in a path is what its last slash tells. -/
theorem matchedName?_eq : matchedName? path = fileName? path := by
  rw [matchedName?_of_toList_eq parted.toList_eq parted.slashless parted.final_toList,
    fileName?_of_toList_eq parted.toList_eq parted.slashless parted.final_toList]

theorem name_eq_empty_iff : name = "" ↔ path = "" ∨ path.toList.getLast? = some '/' := by
  constructor
  · rintro rfl
    have whole := parted.whole
    rw [String.append_empty] at whole
    rcases parted.final with rfl | ⟨front, rfl⟩
    · exact .inl whole
    · exact .inr (by simp [whole])
  · rintro (rfl | ends)
    · exact (String.append_eq_empty_iff.mp parted.whole.symm).2
    · by_contra filled
      have nonempty : name.toList ≠ [] := by simpa using filled
      rw [parted.toList_eq, List.getLast?_append_of_ne_nil _ nonempty] at ends
      exact parted.slashless (List.mem_of_getLast? ends)

end IsParted

end Path

namespace FileTree

variable {tree : FileTree} {id : DirId} {path directory name : String}

theorem findFile_of_isParted (parted : Path.IsParted path directory name)
    (fits : ¬('\n' ∈ path.toList ∨ name = "")) :
    tree.findFile id path =
      (if directory = "" then .ok id else tree.findDirectory id directory).bind
        (tree.fileIn name) := by
  have named := parted.fileName?_eq
  rw [if_neg fits] at named
  rw [findFile_of_fileName? named]
  by_cases bare : directory = "" <;> simp [findHolder, bare]

/-- Neither a way through directories nor a look into one calls a path malformed. -/
theorem findFile_eq_malformed_iff (parted : Path.IsParted path directory name) :
    tree.findFile id path = .error (.malformed path) ↔ '\n' ∈ path.toList ∨ name = "" := by
  constructor
  · intro failed
    by_contra fits
    rw [findFile_of_isParted parted fits] at failed
    cases held : (if directory = "" then .ok id else tree.findDirectory id directory) with
    | error error =>
        rw [held] at failed
        cases failed
        split at held
        next => cases held
        next => exact findDirectory_isOfWay held
    | ok holder =>
        rw [held] at failed
        change tree.fileIn name holder = _ at failed
        unfold fileIn at failed
        split at failed <;> cases failed
  · intro spoilt
    rw [findFile, parted.fileName?_eq, if_pos spoilt]

/-- In every tree, from every directory, what is around the last slash of a path decides what file it
leads to, and that is what the pattern of file paths finds.  The path is malformed just if it holds a
line break, is empty or ends in a slash.  Otherwise it fails as the text up to the slash does as a
path to a directory; if that leads to one, or else in the directory where the path is taken, it leads
to the first file of the name behind the slash, and fails for want of one just if there is none,
whatever directories bear the name. -/
theorem findFile_decided_at_last_slash (tree : FileTree) (workingDirectory : DirId)
    (path : String) :
    Path.matchedName? path = Path.fileName? path ∧
    ∃ directory name, Path.IsParted path directory name ∧
      let malformed := '\n' ∈ path.toList ∨ path = "" ∨ path.toList.getLast? = some '/'
      let held :=
        if directory = "" then .ok workingDirectory
        else tree.findDirectory workingDirectory directory
      (tree.findFile workingDirectory path = .error (.malformed path) ↔ malformed) ∧
      (¬malformed →
        (∀ error, held = .error error → tree.findFile workingDirectory path = .error error) ∧
        ∀ holder, held = .ok holder →
          (∀ file, tree.findFile workingDirectory path = .ok file ↔
            file.name = name ∧ ∃ before, tree.IsFirstBehind holder before file) ∧
          (tree.findFile workingDirectory path =
              .error (.fileNotFound name (tree.fullPath holder)) ↔
            ∀ file, .file file ∈ tree.children holder → file.name ≠ name)) := by
  obtain ⟨directory, name, parted⟩ := Path.exists_isParted path
  refine ⟨parted.matchedName?_eq, directory, name, parted, ?_⟩
  intro malformed held
  have spoilt : '\n' ∈ path.toList ∨ name = "" ↔ malformed :=
    or_congr_right parted.name_eq_empty_iff
  refine ⟨(findFile_eq_malformed_iff parted).trans spoilt, fun wellFormed => ?_⟩
  have lookedUp : tree.findFile workingDirectory path = held.bind (tree.fileIn name) :=
    findFile_of_isParted parted (mt spoilt.mp wellFormed)
  constructor
  · intro error failed
    rw [lookedUp, failed]
    rfl
  · intro holder found
    have inside : tree.findFile workingDirectory path = tree.fileIn name holder := by
      rw [lookedUp, found]
      rfl
    rw [inside]
    exact ⟨fun _ => fileIn_eq_ok_iff, fileIn_eq_notFound_iff⟩

/-- Two slashes are two segments, of which the directory's path keeps both. -/
example : Path.matchedName? "/a//b" = some { directory := some "/a//", name := "b" } := by
  decide +kernel

end FileTree

end VirtualTerminal
