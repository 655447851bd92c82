import VirtualTerminal.Line.Token

/-!
Lines written for given tokens.
-/

namespace VirtualTerminal.Line

/-- Puts a backslash before each double quote. -/
def escapeQuotes (text : List Char) : List Char :=
  text.flatMap fun c => if c = '"' then ['\\', '"'] else [c]

def wrap (text : List Char) : List Char :=
  '"' :: text ++ ['"']

/-- Writes a token, between quotes only if it is empty or holds a blank. -/
def writeToken (token : List Char) : List Char :=
  if token = [] ∨ token.any Text.isBlank then wrap (escapeQuotes token) else escapeQuotes token

/-- Writes tokens with single spaces between them. -/
def write (tokens : List String) : String :=
  String.ofList ([' '].intercalate (tokens.map fun token => writeToken token.toList))

/-- Whether a token can stand in a line.  A final backslash would escape a closing quote, so a token
that ends in one must do without quotes. -/
def isWritable (token : List Char) : Bool :=
  token.getLast? ≠ some '\\' || (token ≠ [] && !token.any Text.isBlank)

/-- The command line that calls `keyword` with one argument between quotes. -/
def callQuoted (keyword argument : String) : String :=
  keyword ++ " " ++ String.ofList (wrap (escapeQuotes argument.toList))

@[simp]
theorem escapeQuotes_nil : escapeQuotes [] = [] := rfl

theorem escapeQuotes_append (first second : List Char) :
    escapeQuotes (first ++ second) = escapeQuotes first ++ escapeQuotes second :=
  List.flatMap_append

theorem escapeQuotes_eq_self {text : List Char} (quoteless : ∀ c ∈ text, c ≠ '"') :
    escapeQuotes text = text := by
  induction text with
  | nil => rfl
  | cons c text inductionHypothesis =>
      obtain ⟨here, later⟩ := List.forall_mem_cons.mp quoteless
      rw [escapeQuotes, List.flatMap_cons, if_neg here, List.singleton_append]
      exact congrArg (c :: ·) (inductionHypothesis later)

@[simp]
theorem write_nil : write [] = "" := rfl

theorem isWritable_iff {token : List Char} :
    isWritable token = true ↔
      token.getLast? ≠ some '\\' ∨ token ≠ [] ∧ ∀ c ∈ token, Text.isBlank c = false := by
  simp [isWritable]

end VirtualTerminal.Line
