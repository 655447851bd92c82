import VirtualTerminal.Proofs.Line.Pieces

/-!
# Tokens are the pieces of a line

A scan decides by the word in progress whether a quote is escaped, a position by the character in
front of it.  The two agree at every position, so that scanning a line from its front cuts it into
just the pieces that its positions tell.
-/

namespace VirtualTerminal.Line

variable {chars : List Char} {c : Char}

theorem isDelimiter_length (chars : List Char) (c : Char) :
    isDelimiter (chars ++ [c]) chars.length = (c == '"' && chars.getLast? != some '\\') := by
  rw [isDelimiter, List.getElem?_concat_length, List.take_left]
  rfl

theorem delimitersBefore_concat (chars : List Char) (c : Char) :
    delimitersBefore (chars ++ [c]) (chars ++ [c]).length =
      delimitersBefore chars chars.length +
        if c = '"' ∧ chars.getLast? ≠ some '\\' then 1 else 0 := by
  rw [List.length_append, List.length_singleton, delimitersBefore_succ,
    delimitersBefore_append (Nat.le_refl _), isDelimiter_length]
  simp

theorem isSeparator_length (chars : List Char) (c : Char) :
    isSeparator (chars ++ [c]) chars.length =
      (Text.isBlank c && delimitersBefore chars chars.length % 2 == 0) := by
  rw [isSeparator, List.getElem?_concat_length, delimitersBefore_append (Nat.le_refl _)]
  rfl

theorem isClosing_length (chars : List Char) (c : Char) :
    isClosing (chars ++ [c]) chars.length =
      (c == '"' && chars.getLast? != some '\\' &&
        delimitersBefore chars chars.length % 2 == 1) := by
  rw [isClosing, delimitersBefore_succ, delimitersBefore_append (Nat.le_refl _),
    isDelimiter_length]
  cases c == '"' && chars.getLast? != some '\\' with
  | false => rfl
  | true =>
      rcases Nat.mod_two_eq_zero_or_one (delimitersBefore chars chars.length) with even | odd
      · simp [even, Nat.add_mod]
      · simp [odd, Nat.add_mod]

theorem isCut_length (chars : List Char) (c : Char) :
    isCut (chars ++ [c]) chars.length =
      ((Text.isBlank c && delimitersBefore chars chars.length % 2 == 0) ||
        (c == '"' && chars.getLast? != some '\\' &&
          delimitersBefore chars chars.length % 2 == 1)) := by
  rw [isCut, isSeparator_length, isClosing_length]

theorem isKept_length (chars : List Char) (c : Char) :
    isKept (chars ++ [c]) chars.length = !(c == '"' && chars.getLast? != some '\\') := by
  have behind : (chars ++ [c])[chars.length + 1]? = none :=
    List.getElem?_eq_none (by rw [List.length_append]; exact Nat.le_refl _)
  rw [isKept, isDelimiter_length, behind]
  simp

/-- The finished tokens of a line: the pieces that end at cuts. -/
def finishedTexts (chars : List Char) : List (List Char) :=
  tokenTexts chars (piecesTo chars 0 (cuts chars))

/-- What is kept behind the last cut. -/
def openText (chars : List Char) : List Char :=
  keptText chars (lastStart chars) chars.length

theorem tokenTexts_pieces (chars : List Char) :
    tokenTexts chars (pieces chars) =
      finishedTexts chars ++ if openText chars = [] then [] else [openText chars] := by
  rw [pieces, tokenTexts_append, tokenTexts_of_unclosed rfl]
  rfl

theorem finishedTexts_of_uncut
    (uncut : isCut (chars ++ [c]) chars.length = false) :
    finishedTexts (chars ++ [c]) = finishedTexts chars := by
  rw [finishedTexts, cuts_concat, uncut, if_neg Bool.false_ne_true, List.append_nil,
    tokenTexts_piecesTo_append, finishedTexts]

theorem finishedTexts_of_cut
    (cut : isCut (chars ++ [c]) chars.length = true) :
    finishedTexts (chars ++ [c]) = finishedTexts chars ++
      tokenTexts (chars ++ [c]) [pieceTo (chars ++ [c]) (lastStart chars) chars.length] := by
  rw [finishedTexts, cuts_concat, cut, if_pos rfl, piecesTo_concat, tokenTexts_append,
    tokenTexts_piecesTo_append, finishedTexts, lastStart]

theorem openText_of_cut
    (cut : isCut (chars ++ [c]) chars.length = true) :
    openText (chars ++ [c]) = [] := by
  rw [openText, lastStart_concat, cut, if_pos rfl, List.length_append, List.length_singleton,
    keptText_self]

/-- What has been read up to the last character stays, unless a quote escapes it. -/
theorem openText_of_uncut
    (uncut : isCut (chars ++ [c]) chars.length = false)
    (apart : chars.getLast? ≠ some '\\' ∨ c ≠ '"') :
    openText (chars ++ [c]) = openText chars ++ if c = '"' then [] else [c] := by
  have before : keptText (chars ++ [c]) (lastStart chars) chars.length = openText chars := by
    apply keptText_append (Nat.le_refl _)
    rcases apart with plain | other
    · exact .inr (.inl plain)
    · exact .inr (.inr (by simpa using other))
  rw [openText, lastStart_concat, uncut, if_neg Bool.false_ne_true, List.length_append,
    List.length_singleton, keptText_succ (lastStart_le chars), before, isKept_length,
    List.getElem?_concat_length]
  congr 1
  rcases apart with plain | other
  · by_cases quote : c = '"' <;> simp [quote, plain]
  · simp [other]

/-- A quote that is escaped takes the place of the backslash in front of it. -/
theorem openText_escape (chars : List Char) :
    openText (chars ++ ['\\'] ++ ['"']) = openText chars ++ ['"'] ∧
      openText (chars ++ ['\\']) = openText chars ++ ['\\'] := by
  have plain : isCut (chars ++ ['\\']) chars.length = false := by
    rw [isCut_length]
    rfl
  refine ⟨?_, openText_of_uncut plain (.inr (by decide))⟩
  have uncut : isCut (chars ++ ['\\'] ++ ['"']) (chars ++ ['\\']).length = false := by
    rw [isCut_length, List.getLast?_concat]
    rfl
  have start : lastStart (chars ++ ['\\'] ++ ['"']) = lastStart chars := by
    rw [lastStart_concat, uncut, if_neg Bool.false_ne_true, lastStart_concat, plain,
      if_neg Bool.false_ne_true]
  have stop : (chars ++ ['\\'] ++ ['"']).length = (chars ++ ['\\']).length + 1 :=
    List.length_append
  have before : (chars ++ ['\\']).length = chars.length + 1 := List.length_append
  have dropped : isKept (chars ++ ['\\'] ++ ['"']) chars.length = false := by
    simp [isKept]
  have kept : isKept (chars ++ ['\\'] ++ ['"']) (chars ++ ['\\']).length = true := by
    rw [isKept_length, List.getLast?_concat]
    rfl
  have front :
      keptText (chars ++ ['\\'] ++ ['"']) (lastStart chars) chars.length = openText chars := by
    rw [List.append_assoc]
    exact keptText_append (Nat.le_refl _) (.inr (.inr (by simp)))
  have ordered := lastStart_le chars
  rw [openText, start, stop, keptText_succ (by omega), kept, before, keptText_succ ordered, dropped,
    front]
  simp

namespace Scan

variable {scan : Scan}

theorem quote_of_escaped {rest : List Char} (escaped : scan.word = '\\' :: rest) :
    scan.quote = { scan with word := '"' :: rest } := by
  simp only [quote, escaped]

theorem quote_of_plain (plain : scan.word.head? ≠ some '\\') :
    scan.quote = if scan.quoted then scan.close else { scan with quoted := true } := by
  unfold quote
  split
  next rest escaped => simp [escaped] at plain
  next => rfl

theorem tokens_separate :
    scan.separate.tokens.reverse =
      scan.tokens.reverse ++ if scan.word.reverse = [] then [] else [scan.word.reverse] := by
  unfold separate
  by_cases empty : scan.word = []
  · simp [empty]
  · simp [empty, close]

theorem word_separate : scan.separate.word = [] := by
  unfold separate
  split
  next empty => exact List.isEmpty_iff.mp empty
  next => rfl

theorem quoted_separate (outside : scan.quoted = false) : scan.separate.quoted = false := by
  unfold separate
  split
  next => exact outside
  next => rfl

/-- What a scan knows of a line that it has read. -/
structure HasRead (scan : Scan) (chars : List Char) : Prop where
  quoted : scan.quoted = (delimitersBefore chars chars.length % 2 == 1)
  escaping : scan.word.head? = some '\\' ↔ chars.getLast? = some '\\'
  tokens : scan.tokens.reverse = finishedTexts chars
  word : scan.word.reverse = openText chars

theorem HasRead.empty : HasRead {} [] where
  quoted := rfl
  escaping := by simp
  tokens := rfl
  word := rfl

theorem HasRead.odd_of_inside (known : scan.HasRead chars) (inside : scan.quoted = true) :
    delimitersBefore chars chars.length % 2 = 1 :=
  beq_iff_eq.mp (known.quoted.symm.trans inside)

theorem HasRead.even_of_outside (known : scan.HasRead chars) (outside : scan.quoted = false) :
    delimitersBefore chars chars.length % 2 = 0 := by
  have parity := beq_eq_false_iff_ne.mp (known.quoted.symm.trans outside)
  omega

/-- The backslash that the word in progress ends in gives way to the quote. -/
theorem HasRead.escaped {rest : List Char} (known : scan.HasRead chars)
    (shape : scan.word = '\\' :: rest) :
    HasRead { scan with word := '"' :: rest } (chars ++ ['"']) := by
  have last : chars.getLast? = some '\\' := known.escaping.mp (by rw [shape, List.head?_cons])
  obtain ⟨front, rfl⟩ := List.getLast?_eq_some_iff.mp last
  obtain ⟨after, before⟩ := openText_escape front
  constructor
  case quoted =>
    rw [delimitersBefore_concat, if_neg (by simp), Nat.add_zero]
    exact known.quoted
  case escaping =>
    simp
  case tokens =>
    rw [finishedTexts_of_uncut]
    · exact known.tokens
    · rw [isCut_length, last]
      rfl
  case word =>
    have word := known.word
    rw [shape, before, List.reverse_cons] at word
    rw [after, List.reverse_cons, List.append_cancel_right word]

/-- A delimiter that opens a pair of quotes. -/
theorem HasRead.opened (known : scan.HasRead chars) (plain : chars.getLast? ≠ some '\\')
    (outside : scan.quoted = false) :
    HasRead { scan with quoted := true } (chars ++ ['"']) := by
  have even := known.even_of_outside outside
  have uncut : isCut (chars ++ ['"']) chars.length = false := by
    rw [isCut_length, even]
    simp
  constructor
  case quoted =>
    rw [delimitersBefore_concat, if_pos ⟨rfl, plain⟩, Nat.add_mod, even]
    rfl
  case escaping =>
    simp [known.escaping, plain]
  case tokens =>
    rw [finishedTexts_of_uncut uncut]
    exact known.tokens
  case word =>
    rw [openText_of_uncut uncut (.inl plain), if_pos rfl, List.append_nil]
    exact known.word

/-- A delimiter that closes a pair of quotes. -/
theorem HasRead.closed (known : scan.HasRead chars) (plain : chars.getLast? ≠ some '\\')
    (inside : scan.quoted = true) : HasRead scan.close (chars ++ ['"']) := by
  have odd := known.odd_of_inside inside
  have closing : isClosing (chars ++ ['"']) chars.length = true := by
    rw [isClosing_length, odd]
    simp [plain]
  have cut : isCut (chars ++ ['"']) chars.length = true := by
    rw [isCut, closing, Bool.or_true]
  have text : (pieceTo (chars ++ ['"']) (lastStart chars) chars.length).text (chars ++ ['"']) =
      openText chars := by
    rw [Piece.text, pieceTo, if_pos closing, keptText_succ (lastStart_le chars),
      keptText_append (Nat.le_refl _) (.inr (.inl plain)), isKept_length]
    simp [plain, openText]
  constructor
  case quoted =>
    rw [delimitersBefore_concat, if_pos ⟨rfl, plain⟩, Nat.add_mod, odd]
    rfl
  case escaping =>
    simp [close]
  case tokens =>
    rw [finishedTexts_of_cut cut, tokenTexts_of_closed closing, text, close, List.reverse_cons,
      known.tokens, known.word]
  case word =>
    rw [openText_of_cut cut]
    rfl

/-- A blank outside quotes. -/
theorem HasRead.separated (known : scan.HasRead chars) (blank : Text.isBlank c = true)
    (outside : scan.quoted = false) : HasRead scan.separate (chars ++ [c]) := by
  have other := Text.ne_quote_of_isBlank blank
  have even := known.even_of_outside outside
  have unclosed : isClosing (chars ++ [c]) chars.length = false := by
    rw [isClosing_length]
    simp [other]
  have cut : isCut (chars ++ [c]) chars.length = true := by
    rw [isCut_length, blank, even]
    rfl
  have text : (pieceTo (chars ++ [c]) (lastStart chars) chars.length).text (chars ++ [c]) =
      openText chars := by
    rw [Piece.text, pieceTo, if_neg (Bool.eq_false_iff.mp unclosed)]
    exact keptText_append (Nat.le_refl _) (.inr (.inr (by simpa using other)))
  constructor
  case quoted =>
    rw [delimitersBefore_concat, if_neg (by simp [other]), Nat.add_zero, even]
    exact quoted_separate outside
  case escaping =>
    rw [word_separate, List.getLast?_concat]
    constructor
    · rintro ⟨⟩
    · rintro ⟨⟩
      simp at blank
  case tokens =>
    rw [finishedTexts_of_cut cut, tokenTexts_of_unclosed unclosed, text, tokens_separate,
      known.tokens, known.word]
  case word =>
    rw [openText_of_cut cut, word_separate]
    rfl

/-- Any other character joins the word in progress. -/
theorem HasRead.extended (known : scan.HasRead chars) (other : c ≠ '"')
    (inside : (Text.isBlank c && !scan.quoted) = false) :
    HasRead { scan with word := c :: scan.word } (chars ++ [c]) := by
  have uncut : isCut (chars ++ [c]) chars.length = false := by
    rw [known.quoted] at inside
    rw [isCut_length]
    rcases Nat.mod_two_eq_zero_or_one (delimitersBefore chars chars.length) with even | odd
    · simpa [even, other] using inside
    · simp [odd, other]
  constructor
  case quoted =>
    rw [delimitersBefore_concat, if_neg (by simp [other]), Nat.add_zero]
    exact known.quoted
  case escaping =>
    simp
  case tokens =>
    rw [finishedTexts_of_uncut uncut]
    exact known.tokens
  case word =>
    rw [openText_of_uncut uncut (.inr other), if_neg other, List.reverse_cons, known.word]

theorem HasRead.read (known : scan.HasRead chars) (c : Char) :
    HasRead (scan.read c) (chars ++ [c]) := by
  unfold Scan.read
  split
  next quoted =>
    subst quoted
    by_cases escaped : scan.word.head? = some '\\'
    · obtain ⟨rest, shape⟩ := List.head?_eq_some_iff.mp escaped
      rw [quote_of_escaped shape]
      exact known.escaped shape
    · have plain : chars.getLast? ≠ some '\\' := fun last => escaped (known.escaping.mpr last)
      rw [quote_of_plain escaped]
      split
      next inside => exact known.closed plain inside
      next outside => exact known.opened plain (Bool.eq_false_iff.mpr outside)
  next other =>
    split
    next blank =>
      rw [Bool.and_eq_true, Bool.not_eq_true'] at blank
      exact known.separated blank.1 blank.2
    next inside => exact known.extended other (Bool.eq_false_iff.mpr inside)

/-- Where the line ends, what is still open becomes a token if it is not empty. -/
theorem HasRead.finished (known : scan.HasRead chars) :
    scan.separate.tokens.reverse = tokenTexts chars (pieces chars) := by
  rw [tokens_separate, tokenTexts_pieces, known.tokens, known.word]

theorem HasRead.readAll (known : scan.HasRead chars) (text : List Char) :
    HasRead (scan.readAll text) (chars ++ text) := by
  induction text generalizing scan chars with
  | nil => simpa using known
  | cons c text inductionHypothesis =>
      have further := inductionHypothesis (known.read c)
      rwa [List.append_assoc, List.singleton_append] at further

end Scan

/-- A line fails to be read just where the number of its delimiters is odd; the tokens of any other
line are the pieces between its cuts, without the delimiters and the backslashes in front of double
quotes, of which an empty one counts only if a delimiter ended it. -/
theorem tokens_eq_pieceTokens (line : String) :
    tokens line =
      if delimitersBefore line.toList line.toList.length % 2 = 1 then .error .unterminatedQuote
      else .ok (pieceTokens line.toList) := by
  have known := Scan.HasRead.empty.readAll line.toList
  rw [List.nil_append] at known
  unfold tokens tokens? Scan.finish?
  rw [known.quoted, known.finished, pieceTokens]
  by_cases odd : delimitersBefore line.toList line.toList.length % 2 = 1
  · rw [if_pos odd, if_pos (beq_iff_eq.mpr odd)]
  · rw [if_neg odd, if_neg (mt beq_iff_eq.mp odd)]

/-- A closing quote ends a token, even an empty one; a backslash hides the quote behind it. -/
example : pieceTokens "a\\\"b  c\"d e\"\"\"\\f".toList = ["a\"b", "cd e", "", "\\f"] := by
  decide +kernel

end VirtualTerminal.Line
