import VirtualTerminal.Line.Token
import VirtualTerminal.Text.Pieces

/-!
# How long tokens and lines are

Between two tokens of a line at least one character stands for nothing, be it a blank or a quote.
So the arguments of a line, with one space between them, are shorter than the line.  The lines of a
script and the line breaks between them take up the script.
-/

namespace VirtualTerminal

namespace Text

/-- How long texts are one behind the other, each with one character that ends it. -/
def extent {α : Type} (length : α → Nat) (texts : List α) : Nat :=
  texts.foldr (fun text sum => length text + 1 + sum) 0

variable {α : Type} {length : α → Nat}

@[simp]
theorem extent_nil : extent length [] = 0 := rfl

@[simp]
theorem extent_cons (text : α) (texts : List α) :
    extent length (text :: texts) = length text + 1 + extent length texts := rfl

@[simp]
theorem extent_append (first second : List α) :
    extent length (first ++ second) = extent length first + extent length second := by
  induction first with
  | nil => simp
  | cons text first inductionHypothesis =>
      rw [List.cons_append, extent_cons, extent_cons, inductionHypothesis]
      exact (Nat.add_assoc ..).symm

@[simp]
theorem extent_reverse (texts : List α) : extent length texts.reverse = extent length texts := by
  induction texts with
  | nil => rfl
  | cons text texts inductionHypothesis =>
      rw [List.reverse_cons, extent_append, inductionHypothesis, Nat.add_comm]
      rfl

theorem extent_flatMap {β : Type} {texts : β → List α} {size : β → Nat}
    (each : ∀ item, extent length (texts item) = size item) (items : List β) :
    extent length (items.flatMap texts) = items.foldr (fun item sum => size item + sum) 0 := by
  induction items with
  | nil => rfl
  | cons item items inductionHypothesis =>
      rw [List.flatMap_cons, extent_append, each, inductionHypothesis, List.foldr_cons]

theorem length_flatMap_eq_extent {β : Type} {lists : α → List β}
    (each : ∀ text, (lists text).length = length text + 1) (texts : List α) :
    (texts.flatMap lists).length = extent length texts := by
  induction texts with
  | nil => rfl
  | cons text texts inductionHypothesis =>
      rw [List.flatMap_cons, List.length_append, each, inductionHypothesis, extent_cons]

theorem extent_map_ofList (texts : List (List Char)) :
    extent String.length (texts.map String.ofList) = extent List.length texts := by
  simp [extent, List.foldr_map]

/-- Between texts that are joined each separator stands once, behind the last one none. -/
theorem length_intercalate_le (texts : List String) :
    (" ".intercalate texts).length ≤ extent String.length texts - 1 := by
  rw [← String.length_toList, String.toList_intercalate]
  have separator : " ".toList = [' '] := by simp
  rw [separator]
  induction texts with
  | nil => simp
  | cons text texts inductionHypothesis =>
      cases texts with
      | nil => simp [List.intercalate, String.length_toList]
      | cons next texts =>
          simp only [List.map_cons] at inductionHypothesis ⊢
          rw [List.intercalate_cons_cons]
          simp only [extent_cons, List.length_append, String.length_toList] at inductionHypothesis ⊢
          simp only [List.length_singleton]
          omega

/-- The lines of a text take up just the text and one more end. -/
theorem extent_pieces (separator : Char) (text : List Char) :
    extent List.length (pieces separator text) = text.length + 1 := by
  induction text with
  | nil => rfl
  | cons c text inductionHypothesis =>
      by_cases same : c = separator
      · subst same
        rw [pieces_cons_separator, extent_cons, inductionHypothesis, List.length_nil,
          List.length_cons]
        omega
      · rw [pieces, extent_cons] at inductionHypothesis
        rw [pieces_cons_of_ne same, extent_cons, List.length_cons, List.length_cons]
        omega

theorem extent_lines (text : String) : extent String.length (lines text) = text.length + 1 := by
  rw [lines, split, extent_map_ofList, extent_pieces, String.length_toList]

end Text

namespace Line

open Text

namespace Scan

/-- How much of a line must have been read for as much to be known. -/
def size (scan : Scan) : Nat :=
  extent List.length scan.tokens + scan.word.length + scan.quoted.toNat

variable {scan : Scan}

theorem size_close (scan : Scan) : scan.close.size = extent List.length scan.tokens +
    scan.word.length + 1 := by
  simp [size, close]
  omega

theorem size_separate_le (outside : scan.quoted = false) : scan.separate.size ≤ scan.size + 1 := by
  unfold separate
  split
  · exact Nat.le_succ _
  · rw [size_close, size, outside]
    exact Nat.le_refl _

theorem size_quote_le (scan : Scan) : scan.quote.size ≤ scan.size + 1 := by
  unfold quote
  split
  next rest word => simp [size, word]
  next =>
    split
    next inside =>
      rw [size_close, size, inside]
      exact Nat.le_succ _
    next outside =>
      rw [Bool.not_eq_true] at outside
      simp [size, outside]

theorem size_read_le (scan : Scan) (c : Char) : (scan.read c).size ≤ scan.size + 1 := by
  unfold read
  split
  next => exact scan.size_quote_le
  next =>
    split
    next blank =>
      rw [Bool.and_eq_true, Bool.not_eq_true'] at blank
      exact size_separate_le blank.2
    next =>
      simp only [size, List.length_cons]
      omega

theorem size_readAll_le (scan : Scan) (text : List Char) :
    (scan.readAll text).size ≤ scan.size + text.length := by
  induction text generalizing scan with
  | nil => exact Nat.le_refl _
  | cons c text inductionHypothesis =>
      have rest := inductionHypothesis (scan.read c)
      have first := scan.size_read_le c
      simp only [readAll_cons, List.length_cons]
      omega

end Scan

/-- The tokens of a line take up no more than the line and one character behind it. -/
theorem extent_tokens_le {line : String} {ts : List String} (read : tokens line = .ok ts) :
    extent String.length ts ≤ line.length + 1 := by
  rw [tokens_eq_ok_iff, tokens?, Scan.finish?] at read
  have all := Scan.size_readAll_le {} line.toList
  split at read
  next => cases read
  next outside =>
    rw [Bool.not_eq_true] at outside
    cases read
    have last := Scan.size_separate_le outside
    have bound : extent List.length (Scan.readAll {} line.toList).separate.tokens ≤
        (Scan.readAll {} line.toList).separate.size := by
      rw [Scan.size]
      omega
    have start : Scan.size {} = 0 := rfl
    rw [extent_map_ofList, extent_reverse]
    rw [start, String.length_toList] at all
    omega

/-- The arguments of a line, with a space between them, are shorter than the line. -/
theorem length_arguments_lt {line keyword : String} {arguments : List String}
    (read : tokens line = .ok (keyword :: arguments)) :
    (" ".intercalate arguments).length < line.length := by
  have filled : line.length ≠ 0 := by
    intro empty
    rw [String.length_eq_zero_iff.mp empty, tokens_eq_ok_iff, tokens?_empty] at read
    cases read
  have whole := extent_tokens_le read
  have joined := length_intercalate_le arguments
  rw [extent_cons] at whole
  omega

end Line

end VirtualTerminal
