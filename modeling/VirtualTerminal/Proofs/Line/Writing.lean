import VirtualTerminal.Line.Quoting
import VirtualTerminal.Proofs.Line.Tokens

/-!
# Which tokens can be written

The tokens of a line can be written.  One that a quote ended does not end in a backslash, which would
have hidden the quote, and one that a blank or the end of the line ended holds no blank.  The other
way round, a line that is written for such tokens is read as just these: what is written for one of
them leaves nothing behind that the next could run into.
-/

namespace VirtualTerminal.Line

namespace Scan

variable {scan : Scan}

/-- What is finished can be written, and what is in progress outside quotes holds no blank. -/
structure IsTidy (scan : Scan) : Prop where
  tokens : ∀ token ∈ scan.tokens, isWritable token = true
  word : scan.quoted = false → ∀ c ∈ scan.word, Text.isBlank c = false

namespace IsTidy

theorem empty : IsTidy {} where
  tokens := by simp
  word := by simp

theorem close (tidy : scan.IsTidy) (writable : isWritable scan.word.reverse = true) :
    scan.close.IsTidy where
  tokens := by
    intro token member
    rcases List.mem_cons.mp member with rfl | earlier
    · exact writable
    · exact tidy.tokens token earlier
  word := by simp [Scan.close]

theorem separate (tidy : scan.IsTidy) (outside : scan.quoted = false) :
    scan.separate.IsTidy := by
  unfold Scan.separate
  split
  next => exact tidy
  next present =>
    apply tidy.close
    rw [isWritable_iff]
    refine .inr ⟨by simpa using present, ?_⟩
    exact fun c member => tidy.word outside c (List.mem_reverse.mp member)

/-- A quote ends a token only if no backslash stands before it. -/
theorem quote (tidy : scan.IsTidy) : scan.quote.IsTidy := by
  by_cases escaped : scan.word.head? = some '\\'
  · obtain ⟨rest, shape⟩ := List.head?_eq_some_iff.mp escaped
    rw [quote_of_escaped shape]
    refine ⟨tidy.tokens, fun outside c member => ?_⟩
    rcases List.mem_cons.mp member with rfl | earlier
    · exact Text.isBlank_quote
    · exact tidy.word outside c (shape ▸ List.mem_cons_of_mem _ earlier)
  · rw [quote_of_plain escaped]
    split
    next =>
      apply tidy.close
      rw [isWritable_iff, List.getLast?_reverse]
      exact .inl escaped
    next => exact ⟨tidy.tokens, nofun⟩

theorem read (tidy : scan.IsTidy) (c : Char) : (scan.read c).IsTidy := by
  unfold Scan.read
  by_cases quoted : c = '"'
  · rw [if_pos quoted]
    exact tidy.quote
  rw [if_neg quoted]
  by_cases blank : (Text.isBlank c && !scan.quoted) = true
  · rw [if_pos blank]
    rw [Bool.and_eq_true, Bool.not_eq_true'] at blank
    exact tidy.separate blank.2
  · rw [if_neg blank]
    refine ⟨tidy.tokens, fun outside other member => ?_⟩
    rcases List.mem_cons.mp member with rfl | earlier
    · simpa [show scan.quoted = false from outside] using blank
    · exact tidy.word outside other earlier

theorem readAll (tidy : scan.IsTidy) (text : List Char) : (scan.readAll text).IsTidy := by
  induction text generalizing scan with
  | nil => exact tidy
  | cons c text inductionHypothesis => exact inductionHypothesis (tidy.read c)

end IsTidy

/-- A character is read back from what is written for it if it may stand where it does. -/
theorem readAll_escapeQuotes_singleton {c : Char}
    (kept : scan.quoted = true ∨ Text.isBlank c = false) :
    scan.readAll (escapeQuotes [c]) = { scan with word := c :: scan.word } := by
  by_cases quoted : c = '"'
  · subst quoted
    simp [escapeQuotes, Scan.read, Scan.quote]
  · rcases kept with inside | plain
    · simp [escapeQuotes, Scan.read, quoted, inside]
    · simp [escapeQuotes, Scan.read, quoted, plain]

theorem readAll_escapeQuotes {text : List Char}
    (kept : scan.quoted = true ∨ ∀ c ∈ text, Text.isBlank c = false) :
    scan.readAll (escapeQuotes text) = { scan with word := text.reverse ++ scan.word } := by
  induction text generalizing scan with
  | nil => rfl
  | cons c text inductionHypothesis =>
      have first := kept.imp_right fun plain => plain c List.mem_cons_self
      have rest := kept.imp_right fun plain other member =>
        plain other (List.mem_cons_of_mem _ member)
      rw [← List.singleton_append, escapeQuotes_append, readAll_append,
        readAll_escapeQuotes_singleton first]
      rw [List.reverse_append, List.append_assoc]
      exact inductionHypothesis rest

variable {token : List Char} (finished : List (List Char))

/-- Between quotes any token can be written that does not hide the closing one. -/
theorem readAll_wrap (unhidden : token.getLast? ≠ some '\\') :
    readAll { tokens := finished } (wrap (escapeQuotes token)) = {
      tokens := token :: finished } := by
  have opened : Scan.read { tokens := finished } '"' = { tokens := finished, quoted := true } :=
    rfl
  have closed : Scan.quote { tokens := finished, word := token.reverse, quoted := true } = {
      tokens := token :: finished } := by
    rw [quote_of_plain (by rwa [List.head?_reverse])]
    simp [Scan.close]
  rw [wrap, List.cons_append, readAll_cons, opened, readAll_append, readAll_escapeQuotes (.inl rfl)]
  simpa [Scan.read] using closed

/-- What is written for a token leaves no quote open, and the next blank ends the token. -/
theorem readAll_writeToken (writable : isWritable token = true) :
    (readAll { tokens := finished } (writeToken token)).quoted = false ∧
      (readAll { tokens := finished } (writeToken token)).separate = {
        tokens := token :: finished } := by
  rw [isWritable_iff] at writable
  unfold writeToken
  by_cases quoted : token = [] ∨ token.any Text.isBlank = true
  · have unhidden : token.getLast? ≠ some '\\' := by
      rcases writable with unhidden | ⟨present, plain⟩
      · exact unhidden
      · obtain ⟨c, member, blank⟩ := List.any_eq_true.mp (quoted.resolve_left present)
        exact absurd blank (Bool.eq_false_iff.mp (plain c member))
    rw [if_pos quoted, readAll_wrap finished unhidden]
    exact ⟨rfl, rfl⟩
  · rw [not_or] at quoted
    have plain : ∀ c ∈ token, Text.isBlank c = false := by simpa using quoted.2
    rw [if_neg (not_or.mpr quoted), readAll_escapeQuotes (.inr plain)]
    simp [Scan.separate, Scan.close, quoted.1]

/-- Tokens written with spaces between them are read in turn. -/
theorem finish?_written {written : List (List Char)}
    (writable : ∀ token ∈ written, isWritable token = true) :
    (readAll { tokens := finished } ([' '].intercalate (written.map writeToken))).finish? =
      some ((finished.reverse ++ written).map String.ofList) := by
  induction written generalizing finished with
  | nil => simp [Scan.finish?, Scan.separate, List.intercalate]
  | cons token written inductionHypothesis =>
      obtain ⟨closed, ended⟩ := readAll_writeToken finished (writable token List.mem_cons_self)
      cases written with
      | nil => simp [List.intercalate, Scan.finish?, closed, ended]
      | cons next written =>
          -- The space ends the token because the token leaves no quote open.
          rw [List.map_cons, List.map_cons, List.intercalate_cons_cons, readAll_append,
            readAll_append, readAll_cons, readAll_nil, read_of_blank (by decide) closed, ended,
            ← List.map_cons,
            inductionHypothesis _ fun other member => writable other (List.mem_cons_of_mem _ member)]
          simp

end Scan

/-- The tokens that a line has can be written. -/
theorem isWritable_of_tokens {line : String} {ts : List String} (read : tokens line = .ok ts) :
    ∀ token ∈ ts, isWritable token.toList = true := by
  have tidy := Scan.IsTidy.empty.readAll line.toList
  rw [tokens_eq_ok_iff, tokens?, Scan.finish?] at read
  split at read
  next => cases read
  next outside =>
    cases read
    intro token member
    obtain ⟨text, listed, rfl⟩ := List.mem_map.mp member
    rw [String.toList_ofList]
    exact (tidy.separate (Bool.eq_false_iff.mpr outside)).tokens text (List.mem_reverse.mp listed)

theorem tokens_write {ts : List String}
    (writable : ∀ token ∈ ts, isWritable token.toList = true) : tokens (write ts) = .ok ts := by
  have texts : ∀ text ∈ ts.map String.toList, isWritable text = true := by
    intro text member
    obtain ⟨token, listed, rfl⟩ := List.mem_map.mp member
    exact writable token listed
  have written := Scan.finish?_written [] texts
  rw [tokens_eq_ok_iff, tokens?, write, String.toList_ofList]
  simpa [Function.comp_def] using written

/-- A command line with its argument between quotes is read as the keyword and the argument. -/
theorem tokens_callQuoted {keyword argument : String} (filled : keyword ≠ "")
    (plain : ∀ c ∈ keyword.toList, c ≠ '"' ∧ Text.isBlank c = false)
    (unhidden : argument.toList.getLast? ≠ some '\\') :
    tokens (callQuoted keyword argument) = .ok [keyword, argument] := by
  have text : (callQuoted keyword argument).toList =
      escapeQuotes keyword.toList ++ ' ' :: wrap (escapeQuotes argument.toList) := by
    have same : escapeQuotes keyword.toList = keyword.toList :=
      escapeQuotes_eq_self fun c member => (plain c member).1
    simp [callQuoted, same]
  have word : Scan.readAll {} (escapeQuotes keyword.toList) = {
      word := keyword.toList.reverse } := by
    rw [Scan.readAll_escapeQuotes (.inr fun c member => (plain c member).2), List.append_nil]
  have ended : Scan.read { word := keyword.toList.reverse } ' ' = {
      tokens := [keyword.toList] } := by
    rw [Scan.read_of_blank (by decide) rfl]
    simp [Scan.separate, Scan.close, filled]
  rw [tokens_eq_ok_iff, tokens?, text, Scan.readAll_append, word, Scan.readAll_cons, ended,
    Scan.readAll_wrap _ unhidden]
  simp [Scan.finish?, Scan.separate]

/-- Some line has the given tokens just where each of them can be written: it does not end in a
backslash, or it is not empty and holds no blank.  The line that is written for them is then one. -/
theorem exists_tokens_iff_isWritable (ts : List String) :
    ((∃ line, tokens line = .ok ts) ↔ ∀ token ∈ ts, isWritable token.toList = true) ∧
      ((∀ token ∈ ts, isWritable token.toList = true) → tokens (write ts) = .ok ts) := by
  refine ⟨⟨?_, fun writable => ⟨write ts, tokens_write writable⟩⟩, tokens_write⟩
  rintro ⟨line, read⟩
  exact isWritable_of_tokens read

/-- Quotes, blanks and final backslashes side by side; a final backslash and a blank in one token
are too much. -/
theorem exists_tokens_iff_isWritable_mixed :
    tokens "say \"a \\\"b\\\"\" \"\" c\\ \\\\\"" = .ok ["say", "a \"b\"", "", "c\\", "\\\""] ∧
      ¬∃ line, tokens line = .ok ["say", "a b\\"] := by
  have text : write ["say", "a \"b\"", "", "c\\", "\\\""] =
      "say \"a \\\"b\\\"\" \"\" c\\ \\\\\"" := by decide +kernel
  constructor
  · rw [← text]
    exact (exists_tokens_iff_isWritable _).2 (by decide +kernel)
  · rw [(exists_tokens_iff_isWritable _).1]
    decide +kernel

end VirtualTerminal.Line
