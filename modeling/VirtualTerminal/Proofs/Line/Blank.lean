import VirtualTerminal.Line.Token

/-!
# Lines without tokens

There are two ways to tell that nothing is in a line: all its characters are blank, or it splits into
no tokens.  They agree on every line.  From the first character that is not blank on, a scan has a
token, a word or an open quote, and a line that ends there has a token or cannot be read.
-/

namespace VirtualTerminal.Line

namespace Scan

/-- A scan that has met more than blanks. -/
def IsBegun (scan : Scan) : Prop :=
  scan.tokens ≠ [] ∨ scan.word ≠ [] ∨ scan.quoted = true

variable {scan : Scan} {c : Char} {text : List Char}

theorem isBegun_close : scan.close.IsBegun :=
  .inl (List.cons_ne_nil _ _)

theorem isBegun_quote : scan.quote.IsBegun := by
  unfold quote
  split
  next rest => exact .inr (.inl (List.cons_ne_nil _ _))
  next =>
    split
    next => exact isBegun_close
    next => exact .inr (.inr rfl)

theorem IsBegun.separate (begun : scan.IsBegun) : scan.separate.IsBegun := by
  unfold Scan.separate
  split
  next => exact begun
  next => exact isBegun_close

theorem IsBegun.read (begun : scan.IsBegun) (c : Char) : (scan.read c).IsBegun := by
  unfold Scan.read
  split
  next => exact isBegun_quote
  next =>
    split
    next => exact begun.separate
    next => exact .inr (.inl (List.cons_ne_nil _ _))

theorem IsBegun.readAll (begun : scan.IsBegun) (text : List Char) :
    (scan.readAll text).IsBegun := by
  induction text generalizing scan with
  | nil => exact begun
  | cons c text inductionHypothesis => exact inductionHypothesis (begun.read c)

theorem isBegun_read_of_not_blank (seen : Text.isBlank c = false) : (scan.read c).IsBegun := by
  unfold Scan.read
  split
  next => exact isBegun_quote
  next =>
    rw [seen, Bool.false_and, if_neg Bool.false_ne_true]
    exact .inr (.inl (List.cons_ne_nil _ _))

theorem read_empty_of_blank (blank : Text.isBlank c = true) : ({} : Scan).read c = {} :=
  read_of_blank blank rfl

theorem readAll_empty_of_blank (blank : text.all Text.isBlank = true) :
    ({} : Scan).readAll text = {} := by
  induction text with
  | nil => rfl
  | cons c text inductionHypothesis =>
      obtain ⟨first, rest⟩ := Bool.and_eq_true_iff.mp blank
      rw [readAll_cons, read_empty_of_blank first, inductionHypothesis rest]

theorem isBegun_readAll_of_not_blank (seen : text.all Text.isBlank = false) :
    (scan.readAll text).IsBegun := by
  induction text generalizing scan with
  | nil => exact absurd seen.symm Bool.false_ne_true
  | cons c text inductionHypothesis =>
      rw [List.all_cons, Bool.and_eq_false_iff] at seen
      rcases seen with first | rest
      · exact (isBegun_read_of_not_blank first).readAll text
      · exact inductionHypothesis rest

/-- Nothing that was begun gets lost at the end of a line. -/
theorem IsBegun.finish?_ne_nil (begun : scan.IsBegun) : scan.finish? ≠ some [] := by
  intro none
  unfold finish? at none
  split at none
  next => cases none
  next unquoted =>
    have tokens : scan.separate.tokens = [] := by simpa using none
    unfold Scan.separate at tokens
    split at tokens
    next wordless =>
      rcases begun with token | word | quoted
      · exact token tokens
      · exact word (List.isEmpty_iff.mp wordless)
      · exact unquoted quoted
    next => exact List.cons_ne_nil _ _ tokens

end Scan

/-- A line splits into no tokens just if it is blank. -/
theorem tokens_eq_nil_iff (line : String) :
    tokens line = .ok [] ↔ Text.isBlankText line = true := by
  rw [tokens_eq_ok_iff, tokens?, Text.isBlankText]
  cases blank : line.toList.all Text.isBlank with
  | true =>
      rw [Scan.readAll_empty_of_blank blank]
      exact ⟨fun _ => rfl, fun _ => rfl⟩
  | false =>
      have begun : (Scan.readAll {} line.toList).IsBegun := Scan.isBegun_readAll_of_not_blank blank
      exact ⟨fun none => absurd none begun.finish?_ne_nil,
        fun other => absurd other Bool.false_ne_true⟩

end VirtualTerminal.Line
