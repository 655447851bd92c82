/-!
A text cut at every occurrence of a separator, or behind every one.

Cut at the separators, a text has always one piece more than there are separators, so a text without
any is one piece and the empty text is one empty piece.  Cut behind them, no piece is empty.
-/

namespace VirtualTerminal.Text

/-- The piece before the first separator, and the pieces after it. -/
def cut (separator : Char) (text : List Char) : List Char × List (List Char) :=
  text.foldr
    (fun c (first, rest) => if c = separator then ([], first :: rest) else (c :: first, rest))
    ([], [])

def pieces (separator : Char) (text : List Char) : List (List Char) :=
  (cut separator text).1 :: (cut separator text).2

def split (separator : Char) (text : String) : List String :=
  (pieces separator text.toList).map String.ofList

/-- The pieces with the separators that end them.  What is behind the last separator is one more
piece, without an end, if there is anything. -/
def endedPieces (separator : Char) (text : List Char) : List (List Char) :=
  text.foldr
    (fun c pieces =>
      if c = separator then [c] :: pieces
      else
        match pieces with
        | [] => [[c]]
        | piece :: pieces => (c :: piece) :: pieces)
    []

/-- The lines of a script.  A final line break opens one more, empty line. -/
def lines (text : String) : List String :=
  split '\n' text

variable {separator : Char}

theorem cut_cons_separator (text : List Char) :
    cut separator (separator :: text) = ([], pieces separator text) := by
  simp [cut, pieces]

theorem cut_cons_of_ne {c : Char} (different : c ≠ separator) (text : List Char) :
    cut separator (c :: text) = (c :: (cut separator text).1, (cut separator text).2) := by
  simp [cut, different]

@[simp]
theorem pieces_nil : pieces separator [] = [[]] := rfl

theorem pieces_cons_separator (text : List Char) :
    pieces separator (separator :: text) = [] :: pieces separator text := by
  rw [pieces, cut_cons_separator]

theorem pieces_cons_of_ne {c : Char} (different : c ≠ separator) (text : List Char) :
    pieces separator (c :: text) =
      (c :: (cut separator text).1) :: (cut separator text).2 := by
  rw [pieces, cut_cons_of_ne different]

theorem pieces_append_separator (first second : List Char) :
    pieces separator (first ++ separator :: second) =
      pieces separator first ++ pieces separator second := by
  induction first with
  | nil => exact pieces_cons_separator second
  | cons c first inductionHypothesis =>
      by_cases same : c = separator
      · subst same
        rw [List.cons_append, pieces_cons_separator, inductionHypothesis, pieces_cons_separator,
          List.cons_append]
      · rw [pieces, pieces, List.cons_append, List.cons.injEq] at inductionHypothesis
        rw [List.cons_append, pieces_cons_of_ne same, pieces_cons_of_ne same, List.cons_append,
          inductionHypothesis.1, inductionHypothesis.2]

theorem pieces_eq_singleton {text : List Char} (absent : separator ∉ text) :
    pieces separator text = [text] := by
  induction text with
  | nil => rfl
  | cons c text inductionHypothesis =>
      rw [List.mem_cons, not_or] at absent
      have rest := inductionHypothesis absent.2
      rw [pieces, List.cons.injEq] at rest
      rw [pieces_cons_of_ne (Ne.symm absent.1), rest.1, rest.2]

theorem length_pieces (text : List Char) :
    (pieces separator text).length = text.count separator + 1 := by
  induction text with
  | nil => rfl
  | cons c text inductionHypothesis =>
      by_cases same : c = separator
      · subst same
        rw [pieces_cons_separator, List.length_cons, inductionHypothesis, List.count_cons_self]
      · rw [pieces_cons_of_ne same, List.count_cons_of_ne same, ← inductionHypothesis]
        rfl

theorem length_lines (text : String) : (lines text).length = text.toList.count '\n' + 1 := by
  rw [lines, split, List.length_map, length_pieces]

/-- Texts without a separator in them are the pieces of what they are joined to. -/
theorem pieces_intercalate {texts : List (List Char)} (filled : texts ≠ [])
    (absent : ∀ text ∈ texts, separator ∉ text) :
    pieces separator ([separator].intercalate texts) = texts := by
  induction texts with
  | nil => exact absurd rfl filled
  | cons text texts inductionHypothesis =>
      obtain ⟨here, later⟩ := List.forall_mem_cons.mp absent
      cases texts with
      | nil => simpa [List.intercalate] using pieces_eq_singleton here
      | cons next texts =>
          rw [List.intercalate_cons_cons, List.append_assoc, List.singleton_append,
            pieces_append_separator, pieces_eq_singleton here,
            inductionHypothesis (List.cons_ne_nil _ _) later, List.singleton_append]

theorem lines_intercalate {texts : List String} (filled : texts ≠ [])
    (absent : ∀ text ∈ texts, '\n' ∉ text.toList) :
    lines ("\n".intercalate texts) = texts := by
  have separator : "\n".toList = ['\n'] := by simp
  rw [lines, split, String.toList_intercalate, separator, pieces_intercalate]
  · simp
  · simpa using filled
  · simpa using absent

theorem not_mem_of_mem_pieces {text piece : List Char}
    (member : piece ∈ pieces separator text) : separator ∉ piece := by
  induction text generalizing piece with
  | nil => simp_all
  | cons c text inductionHypothesis =>
      by_cases same : c = separator
      · subst same
        rw [pieces_cons_separator, List.mem_cons] at member
        rcases member with rfl | member
        · simp
        · exact inductionHypothesis member
      · rw [pieces_cons_of_ne same, List.mem_cons] at member
        rcases member with rfl | member
        · have first : separator ∉ (cut separator text).1 := inductionHypothesis (by simp [pieces])
          simp [Ne.symm same, first]
        · exact inductionHypothesis (by simp [pieces, member])

theorem endedPieces_cons_separator (text : List Char) :
    endedPieces separator (separator :: text) = [separator] :: endedPieces separator text := by
  simp [endedPieces]

theorem endedPieces_cons_of_eq_nil {c : Char} (different : c ≠ separator) {text : List Char}
    (none : endedPieces separator text = []) : endedPieces separator (c :: text) = [[c]] := by
  rw [endedPieces] at none
  rw [endedPieces, List.foldr_cons, none, if_neg different]

theorem endedPieces_cons_of_eq_cons {c : Char} (different : c ≠ separator) {text piece : List Char}
    {pieces : List (List Char)} (some : endedPieces separator text = piece :: pieces) :
    endedPieces separator (c :: text) = (c :: piece) :: pieces := by
  rw [endedPieces] at some
  rw [endedPieces, List.foldr_cons, some, if_neg different]

/-- A text that holds no separator is one piece with the separator behind it. -/
theorem endedPieces_append {first : List Char} (absent : separator ∉ first) (rest : List Char) :
    endedPieces separator (first ++ separator :: rest) =
      (first ++ [separator]) :: endedPieces separator rest := by
  induction first with
  | nil => exact endedPieces_cons_separator rest
  | cons c first inductionHypothesis =>
      rw [List.mem_cons, not_or] at absent
      exact endedPieces_cons_of_eq_cons (Ne.symm absent.1) (inductionHypothesis absent.2)

theorem endedPieces_eq_singleton {text : List Char} (absent : separator ∉ text)
    (filled : text ≠ []) : endedPieces separator text = [text] := by
  induction text with
  | nil => exact absurd rfl filled
  | cons c text inductionHypothesis =>
      rw [List.mem_cons, not_or] at absent
      cases text with
      | nil => exact endedPieces_cons_of_eq_nil (Ne.symm absent.1) rfl
      | cons next text =>
          exact endedPieces_cons_of_eq_cons (Ne.symm absent.1)
            (inductionHypothesis absent.2 (List.cons_ne_nil next text))

theorem ne_nil_of_mem_endedPieces {text piece : List Char}
    (member : piece ∈ endedPieces separator text) : piece ≠ [] := by
  induction text generalizing piece with
  | nil => cases member
  | cons c text inductionHypothesis =>
      by_cases same : c = separator
      · subst same
        rw [endedPieces_cons_separator, List.mem_cons] at member
        rcases member with rfl | member
        · exact List.cons_ne_nil _ _
        · exact inductionHypothesis member
      · cases later : endedPieces separator text with
        | nil =>
            rw [endedPieces_cons_of_eq_nil same later, List.mem_singleton] at member
            exact member ▸ List.cons_ne_nil _ _
        | cons first pieces =>
            rw [endedPieces_cons_of_eq_cons same later, List.mem_cons] at member
            rcases member with rfl | member
            · exact List.cons_ne_nil _ _
            · exact inductionHypothesis (later ▸ List.mem_cons_of_mem _ member)

end VirtualTerminal.Text
