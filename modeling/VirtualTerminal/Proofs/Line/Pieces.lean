import VirtualTerminal.Line.Token

/-!
# The pieces of a line

Where the tokens of a line stand, told by positions alone: which quotes are delimiters, where the
line is cut, and what is left of the piece between two cuts.

What a position is depends on the characters up to it, save that a backslash waits for the next one.
So when a line goes on, nothing changes but a backslash at its end.
-/

namespace VirtualTerminal.Line

section

variable (chars : List Char)

/-- A double quote is a delimiter unless a backslash stands right before it. -/
def isDelimiter (i : Nat) : Bool :=
  chars[i]? == some '"' && (chars.take i).getLast? != some '\\'

/-- The number of delimiters in front of a position. -/
def delimitersBefore (i : Nat) : Nat :=
  (List.range i).countP (isDelimiter chars)

/-- A blank behind an even number of delimiters. -/
def isSeparator (i : Nat) : Bool :=
  chars[i]?.any Text.isBlank && delimitersBefore chars i % 2 == 0

/-- A delimiter with an even number, counted from one. -/
def isClosing (i : Nat) : Bool :=
  isDelimiter chars i && delimitersBefore chars (i + 1) % 2 == 0

/-- The line is cut at separators and behind closing delimiters. -/
def isCut (i : Nat) : Bool :=
  isSeparator chars i || isClosing chars i

def cuts : List Nat :=
  (List.range chars.length).filter (isCut chars)

/-- A character is kept unless it is a delimiter or a backslash right before a double quote. -/
def isKept (i : Nat) : Bool :=
  !isDelimiter chars i && !(chars[i]? == some '\\' && chars[i + 1]? == some '"')

/-- What is kept from one position up to another. -/
def keptText (start stop : Nat) : List Char :=
  ((List.range' start (stop - start)).filter (isKept chars)).flatMap (chars[·]?.toList)

/-- The positions from `start` on that come before `stop`; `closed` if a delimiter ended them. -/
structure Piece where
  start : Nat
  stop : Nat
  closed : Bool
  deriving Repr, DecidableEq

/-- A piece is cut off at a blank, or right after a delimiter. -/
def pieceTo (start cut : Nat) : Piece where
  start := start
  stop := if isClosing chars cut then cut + 1 else cut
  closed := isClosing chars cut

/-- The pieces that end at cuts. -/
def piecesTo (start : Nat) : List Nat → List Piece
  | [] => []
  | cut :: cuts => pieceTo chars start cut :: piecesTo (cut + 1) cuts

/-- Where the piece behind the last cut starts. -/
def lastStart : Nat :=
  (cuts chars).getLast?.elim 0 (· + 1)

def pieces : List Piece :=
  piecesTo chars 0 (cuts chars) ++
    [{ start := lastStart chars, stop := chars.length, closed := false }]

def Piece.text (piece : Piece) : List Char :=
  keptText chars piece.start piece.stop

/-- A piece that comes out empty is no token unless a delimiter ended it. -/
def Piece.isToken (piece : Piece) : Bool :=
  piece.closed || !(piece.text chars).isEmpty

def tokenTexts (pieces : List Piece) : List (List Char) :=
  (pieces.filter (Piece.isToken chars)).map (Piece.text chars)

/-- The tokens of a line by positions. -/
def pieceTokens : List String :=
  (tokenTexts chars (pieces chars)).map String.ofList

end

variable {chars more : List Char} {i start stop : Nat}

theorem isDelimiter_append (within : i < chars.length) :
    isDelimiter (chars ++ more) i = isDelimiter chars i := by
  rw [isDelimiter, isDelimiter, List.getElem?_append_left within,
    List.take_append_of_le_length (Nat.le_of_lt within)]

theorem delimitersBefore_append (within : i ≤ chars.length) :
    delimitersBefore (chars ++ more) i = delimitersBefore chars i := by
  apply List.countP_congr
  intro j member
  have before := List.mem_range.mp member
  rw [isDelimiter_append (Nat.lt_of_lt_of_le before within)]

theorem delimitersBefore_succ (chars : List Char) (i : Nat) :
    delimitersBefore chars (i + 1) =
      delimitersBefore chars i + if isDelimiter chars i then 1 else 0 := by
  rw [delimitersBefore, List.range_succ, List.countP_append, List.countP_singleton]
  rfl

theorem isSeparator_append (within : i < chars.length) :
    isSeparator (chars ++ more) i = isSeparator chars i := by
  rw [isSeparator, isSeparator, List.getElem?_append_left within,
    delimitersBefore_append (Nat.le_of_lt within)]

theorem isClosing_append (within : i < chars.length) :
    isClosing (chars ++ more) i = isClosing chars i := by
  rw [isClosing, isClosing, isDelimiter_append within, delimitersBefore_append within]

theorem isCut_append (within : i < chars.length) : isCut (chars ++ more) i = isCut chars i := by
  rw [isCut, isCut, isSeparator_append within, isClosing_append within]

theorem lt_length_of_mem_cuts (member : i ∈ cuts chars) : i < chars.length :=
  List.mem_range.mp (List.mem_filter.mp member).1

theorem cuts_concat (chars : List Char) (c : Char) :
    cuts (chars ++ [c]) =
      cuts chars ++ if isCut (chars ++ [c]) chars.length then [chars.length] else [] := by
  rw [cuts, List.length_append, List.length_singleton, List.range_succ, List.filter_append]
  congr 1
  · apply List.filter_congr
    intro i member
    rw [isCut_append (List.mem_range.mp member)]
  · cases cut : isCut (chars ++ [c]) chars.length <;> simp [cut]

theorem lastStart_le (chars : List Char) : lastStart chars ≤ chars.length := by
  unfold lastStart
  cases last : (cuts chars).getLast? with
  | none => exact Nat.zero_le _
  | some cut => exact lt_length_of_mem_cuts (List.mem_of_getLast? last)

theorem lastStart_concat (chars : List Char) (c : Char) :
    lastStart (chars ++ [c]) =
      if isCut (chars ++ [c]) chars.length then chars.length + 1 else lastStart chars := by
  rw [lastStart, cuts_concat]
  split
  next => rw [List.getLast?_concat, Option.elim_some]
  next => rw [List.append_nil, lastStart]

/-- Only a backslash at the end of a line waits for what comes next. -/
theorem isKept_append (within : i < chars.length)
    (apart : i + 1 < chars.length ∨ chars[i]? ≠ some '\\' ∨ more.head? ≠ some '"') :
    isKept (chars ++ more) i = isKept chars i := by
  rw [isKept, isKept, isDelimiter_append within, List.getElem?_append_left within]
  by_cases inner : i + 1 < chars.length
  · rw [List.getElem?_append_left inner]
  have final : i + 1 = chars.length := by omega
  have next : (chars ++ more)[i + 1]? = more.head? := by
    rw [final, List.getElem?_append_right (Nat.le_refl _), Nat.sub_self, List.head?_eq_getElem?]
  have behind : chars[i + 1]? = none := List.getElem?_eq_none (Nat.le_of_eq final.symm)
  rw [next, behind]
  rcases apart with inside | plain | other
  · exact absurd inside inner
  · simp [plain]
  · simp [other]

theorem keptText_succ (ordered : start ≤ stop) :
    keptText chars start (stop + 1) = keptText chars start stop ++
      if isKept chars stop then chars[stop]?.toList else [] := by
  have longer : stop + 1 - start = stop - start + 1 := by omega
  have last : start + (stop - start) = stop := by omega
  rw [keptText, longer, List.range'_1_concat, last, List.filter_append, List.flatMap_append,
    keptText]
  cases kept : isKept chars stop <;> simp [kept]

theorem keptText_append (within : stop ≤ chars.length)
    (apart : stop < chars.length ∨ chars.getLast? ≠ some '\\' ∨ more.head? ≠ some '"') :
    keptText (chars ++ more) start stop = keptText chars start stop := by
  have inside : ∀ i ∈ List.range' start (stop - start), i < stop := by
    intro i member
    obtain ⟨low, high⟩ := List.mem_range'_1.mp member
    omega
  have same : (List.range' start (stop - start)).filter (isKept (chars ++ more)) =
      (List.range' start (stop - start)).filter (isKept chars) := by
    apply List.filter_congr
    intro i member
    have before := inside i member
    apply isKept_append (Nat.lt_of_lt_of_le before within)
    rcases apart with inner | plain | other
    · exact .inl (by omega)
    · by_cases next : i + 1 < chars.length
      · exact .inl next
      · have final : i = chars.length - 1 := by omega
        rw [List.getLast?_eq_getElem?, ← final] at plain
        exact .inr (.inl plain)
    · exact .inr (.inr other)
  rw [keptText, same, keptText, List.flatMap_def, List.flatMap_def]
  congr 1
  apply List.map_congr_left
  intro i member
  have before := inside i (List.mem_filter.mp member).1
  rw [List.getElem?_append_left (Nat.lt_of_lt_of_le before within)]

@[simp]
theorem keptText_self (chars : List Char) (start : Nat) : keptText chars start start = [] := by
  simp [keptText]

theorem pieceTo_append {cut : Nat} (within : cut < chars.length) (start : Nat) :
    pieceTo (chars ++ more) start cut = pieceTo chars start cut := by
  rw [pieceTo, pieceTo, isClosing_append within]

theorem piecesTo_append {cuts : List Nat} (within : ∀ cut ∈ cuts, cut < chars.length)
    (start : Nat) : piecesTo (chars ++ more) start cuts = piecesTo chars start cuts := by
  induction cuts generalizing start with
  | nil => rfl
  | cons cut cuts inductionHypothesis =>
      rw [piecesTo, piecesTo, pieceTo_append (within cut (List.mem_cons_self ..)),
        inductionHypothesis fun other member => within other (List.mem_cons_of_mem _ member)]

theorem piecesTo_concat (chars : List Char) (start cut : Nat) (cuts : List Nat) :
    piecesTo chars start (cuts ++ [cut]) =
      piecesTo chars start cuts ++ [pieceTo chars (cuts.getLast?.elim start (· + 1)) cut] := by
  induction cuts generalizing start with
  | nil => rfl
  | cons first cuts inductionHypothesis =>
      rw [List.cons_append, piecesTo, inductionHypothesis, piecesTo, List.cons_append,
        List.getLast?_cons]
      cases cuts.getLast? <;> rfl

theorem eq_pieceTo_of_mem_piecesTo {piece : Piece} {cuts : List Nat}
    (member : piece ∈ piecesTo chars start cuts) :
    ∃ first, ∃ cut ∈ cuts, piece = pieceTo chars first cut := by
  induction cuts generalizing start with
  | nil => cases member
  | cons cut cuts inductionHypothesis =>
      rcases List.mem_cons.mp member with rfl | later
      · exact ⟨start, cut, List.mem_cons_self .., rfl⟩
      · obtain ⟨first, other, listed, same⟩ := inductionHypothesis later
        exact ⟨first, other, List.mem_cons_of_mem _ listed, same⟩

/-- A piece that ends at a cut does not end in a backslash that waits for what comes next. -/
theorem text_pieceTo_append {cut : Nat} (member : cut ∈ cuts chars) (start : Nat) :
    (pieceTo chars start cut).text (chars ++ more) = (pieceTo chars start cut).text chars := by
  have within := lt_length_of_mem_cuts member
  unfold Piece.text pieceTo
  split
  next closing =>
    apply keptText_append (Nat.succ_le_of_lt within)
    by_cases inner : cut + 1 < chars.length
    · exact .inl inner
    · have final : cut = chars.length - 1 := by omega
      have quote : chars[cut]? = some '"' := by
        simp only [isClosing, isDelimiter, Bool.and_eq_true, beq_iff_eq] at closing
        exact closing.1.1
      rw [List.getLast?_eq_getElem?, ← final, quote]
      exact .inr (.inl (by decide))
  next => exact keptText_append (Nat.le_of_lt within) (.inl within)

theorem tokenTexts_append (first second : List Piece) :
    tokenTexts chars (first ++ second) = tokenTexts chars first ++ tokenTexts chars second := by
  simp [tokenTexts]

theorem tokenTexts_of_closed {piece : Piece} (closed : piece.closed = true) :
    tokenTexts chars [piece] = [piece.text chars] := by
  simp [tokenTexts, Piece.isToken, closed]

theorem tokenTexts_of_unclosed {piece : Piece} (unclosed : piece.closed = false) :
    tokenTexts chars [piece] =
      if piece.text chars = [] then [] else [piece.text chars] := by
  by_cases empty : piece.text chars = []
  · simp [tokenTexts, Piece.isToken, unclosed, empty]
  · simp [tokenTexts, Piece.isToken, unclosed, empty]

theorem tokenTexts_piecesTo_append :
    tokenTexts (chars ++ more) (piecesTo (chars ++ more) 0 (cuts chars)) =
      tokenTexts chars (piecesTo chars 0 (cuts chars)) := by
  have texts : ∀ piece ∈ piecesTo chars 0 (cuts chars),
      piece.text (chars ++ more) = piece.text chars := by
    intro piece member
    obtain ⟨first, cut, listed, rfl⟩ := eq_pieceTo_of_mem_piecesTo member
    exact text_pieceTo_append listed first
  rw [piecesTo_append fun cut => lt_length_of_mem_cuts, tokenTexts, tokenTexts]
  have chosen : ∀ piece ∈ piecesTo chars 0 (cuts chars),
      piece.isToken (chars ++ more) = piece.isToken chars := by
    intro piece member
    rw [Piece.isToken, texts piece member, Piece.isToken]
  rw [List.filter_congr chosen]
  apply List.map_congr_left
  intro piece member
  exact texts piece (List.mem_filter.mp member).1

end VirtualTerminal.Line
