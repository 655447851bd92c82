import VirtualTerminal.Proofs.Line.Blank
import VirtualTerminal.Proofs.Line.Tokens

/-!
# Blanks keep the parts of a line apart

A line that can be read leaves no quote open.  So a blank behind it ends whatever word is in
progress, and what follows the blank is read as if it stood by itself.  At the end of a line blanks
are of no account in any case: outside quotes they separate nothing from nothing, and between quotes
they close none.
-/

namespace VirtualTerminal.Line

namespace Scan

/-- A scan behind tokens that were finished before it, the latest of them in front. -/
def behind (earlier : List (List Char)) (scan : Scan) : Scan :=
  { scan with tokens := scan.tokens ++ earlier }

section

variable (earlier : List (List Char)) (scan : Scan)

theorem separate_behind : (scan.behind earlier).separate = scan.separate.behind earlier := by
  unfold separate
  by_cases empty : scan.word.isEmpty
  · rw [if_pos empty, if_pos (show (scan.behind earlier).word.isEmpty from empty)]
  · rw [if_neg empty, if_neg (show ¬(scan.behind earlier).word.isEmpty from empty)]
    rfl

theorem quote_behind : (scan.behind earlier).quote = scan.quote.behind earlier := by
  by_cases escaped : scan.word.head? = some '\\'
  · obtain ⟨rest, shape⟩ := List.head?_eq_some_iff.mp escaped
    rw [quote_of_escaped shape, quote_of_escaped (show (scan.behind earlier).word = _ from shape)]
    rfl
  · have plain : (scan.behind earlier).word.head? ≠ some '\\' := escaped
    rw [quote_of_plain escaped, quote_of_plain plain]
    cases quoted : scan.quoted <;> simp [behind, close, quoted]

theorem read_behind (c : Char) : (scan.behind earlier).read c = (scan.read c).behind earlier := by
  unfold read
  by_cases quotes : c = '"'
  · rw [if_pos quotes, if_pos quotes, quote_behind]
  rw [if_neg quotes, if_neg quotes]
  by_cases blank : Text.isBlank c && !scan.quoted
  · rw [if_pos blank, if_pos (show Text.isBlank c && !(scan.behind earlier).quoted from blank),
      separate_behind]
  · rw [if_neg blank, if_neg (show ¬(Text.isBlank c && !(scan.behind earlier).quoted) from blank)]
    rfl

/-- Nothing that is read looks at the tokens that are finished already. -/
theorem readAll_behind (text : List Char) :
    (scan.behind earlier).readAll text = (scan.readAll text).behind earlier := by
  induction text generalizing scan with
  | nil => rfl
  | cons c text inductionHypothesis =>
      rw [readAll_cons, read_behind, inductionHypothesis, readAll_cons]

theorem finish?_behind :
    (scan.behind earlier).finish? =
      scan.finish?.map (earlier.reverse.map String.ofList ++ ·) := by
  unfold finish?
  rw [separate_behind]
  cases quoted : scan.quoted <;> simp [behind, quoted]

end

variable {scan : Scan} {c : Char} {text : List Char}

/-- A scan that has ended its last word starts anew behind the tokens that it has finished. -/
theorem separate_eq_behind (outside : scan.quoted = false) :
    scan.separate = ({} : Scan).behind scan.separate.tokens := by
  have word : scan.separate.word = [] := word_separate
  have quoted := quoted_separate outside
  generalize scan.separate = separated at word quoted
  cases separated
  cases word
  cases quoted
  rfl

theorem finish?_eq_some_iff {ts : List String} :
    scan.finish? = some ts ↔
      scan.quoted = false ∧ scan.separate.tokens.reverse.map String.ofList = ts := by
  unfold finish?
  cases scan.quoted <;> simp

/-- A blank at the end of a line makes no difference, whether it stands between quotes or not. -/
theorem finish?_read_of_blank (blank : Text.isBlank c = true) :
    (scan.read c).finish? = scan.finish? := by
  cases quoted : scan.quoted with
  | false =>
      rw [read_of_blank blank quoted]
      by_cases empty : scan.word.isEmpty
      · simp [separate, empty]
      · simp [finish?, separate, close, quoted, empty]
  | true => simp [read, finish?, quoted, Text.ne_quote_of_isBlank blank]

theorem finish?_readAll_of_blank (blank : text.all Text.isBlank = true) :
    (scan.readAll text).finish? = scan.finish? := by
  induction text generalizing scan with
  | nil => rfl
  | cons c text inductionHypothesis =>
      obtain ⟨first, rest⟩ := Bool.and_eq_true_iff.mp blank
      rw [readAll_cons, inductionHypothesis rest, finish?_read_of_blank first]

end Scan

variable {first line blanks : String} {ts : List String} {c : Char}

theorem tokens?_append_of_blank (read : tokens? first = some ts)
    (blank : Text.isBlank c = true) (second : String) :
    tokens? (first ++ String.singleton c ++ second) = (tokens? second).map (ts ++ ·) := by
  obtain ⟨outside, rfl⟩ := Scan.finish?_eq_some_iff.mp read
  have seam : Scan.readAll {} (first ++ String.singleton c).toList =
      ({} : Scan).behind (Scan.readAll {} first.toList).separate.tokens := by
    simp only [String.toList_append, String.toList_singleton, Scan.readAll_append,
      Scan.readAll_cons, Scan.readAll_nil, Scan.read_of_blank blank outside]
    exact Scan.separate_eq_behind outside
  rw [tokens?, String.toList_append, Scan.readAll_append, seam, Scan.readAll_behind,
    Scan.finish?_behind]
  rfl

theorem tokens_append_of_blank (read : tokens first = .ok ts) (blank : Text.isBlank c = true)
    (second : String) :
    tokens (first ++ String.singleton c ++ second) = (tokens second).map (ts ++ ·) := by
  rw [tokens, tokens?_append_of_blank (tokens_eq_ok_iff.mp read) blank, tokens]
  cases tokens? second <;> rfl

theorem tokens_blanks_append (blank : Text.isBlankText blanks = true) :
    tokens (blanks ++ line) = tokens line := by
  have same : tokens? (blanks ++ line) = tokens? line := by
    rw [tokens?, String.toList_append, Scan.readAll_append, Scan.readAll_empty_of_blank blank,
      tokens?]
  rw [tokens, same, tokens]

theorem tokens_append_blanks (blank : Text.isBlankText blanks = true) :
    tokens (line ++ blanks) = tokens line := by
  have same : tokens? (line ++ blanks) = tokens? line := by
    rw [tokens?, String.toList_append, Scan.readAll_append, Scan.finish?_readAll_of_blank blank,
      tokens?]
  rw [tokens, same, tokens]

/-- Behind a line that can be read and a blank, any other line is read as it is by itself: to its
tokens behind those of the first, or not at all for the same reason.  Blanks in front of a line and
behind it make no difference, whether it can be read or not. -/
theorem tokens_apart_at_blanks :
    (∀ (first second : String) (ts : List String) (c : Char),
      tokens first = .ok ts → Text.isBlank c = true →
        tokens (first ++ String.singleton c ++ second) = (tokens second).map (ts ++ ·)) ∧
    (∀ before line after : String,
      Text.isBlankText before = true → Text.isBlankText after = true →
        tokens (before ++ line ++ after) = tokens line) := by
  constructor
  · intro first second ts c read blank
    exact tokens_append_of_blank read blank second
  · intro before line after blankBefore blankAfter
    rw [tokens_append_blanks blankAfter, tokens_blanks_append blankBefore]

/-- A backslash does not hide a quote from which a blank parts it, and a quote that is left open
stays open whatever blanks surround it. -/
theorem tokens_apart_at_blanks_backslash :
    tokens "ab\"c \"\\" = .ok ["abc ", "\\"] ∧
    tokens "ab\"c \"\\\u2003\"d\" e" = .ok ["abc ", "\\", "d", "e"] ∧
    tokens "\t\u00A0 f \"g \n" = .error .unterminatedQuote := by
  have read : tokens "ab\"c \"\\" = .ok ["abc ", "\\"] := rfl
  have further : tokens "\"d\" e" = .ok ["d", "e"] := rfl
  have unread : tokens "f \"g" = .error .unterminatedQuote := rfl
  refine ⟨read, ?_, ?_⟩
  · have parted := tokens_apart_at_blanks.1 _ "\"d\" e" _ '\u2003' read (by decide)
    rw [further] at parted
    exact parted
  · have same := tokens_apart_at_blanks.2 "\t\u00A0 " "f \"g" " \n" (by decide) (by decide)
    rw [unread] at same
    exact same

end VirtualTerminal.Line
