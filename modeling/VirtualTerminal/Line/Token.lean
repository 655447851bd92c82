import VirtualTerminal.Error
import VirtualTerminal.Text.Blank

/-!
The tokens of an input line.

Blanks separate tokens.  A pair of double quotes keeps the blanks between them and always ends a
token, if need be an empty one; what stands right before the opening quote belongs to it.  A
backslash before a double quote makes the quote an ordinary character and stands for nothing
elsewhere.
-/

namespace VirtualTerminal.Line

/-- What is known after a part of a line: the finished tokens and the characters of the word in
progress, each with the latest in front. -/
structure Scan where
  tokens : List (List Char) := []
  word : List Char := []
  quoted : Bool := false
  deriving Repr, DecidableEq

namespace Scan

/-- The word in progress becomes a token, even an empty one. -/
def close (scan : Scan) : Scan where
  tokens := scan.word.reverse :: scan.tokens

/-- The word in progress becomes a token if there is one. -/
def separate (scan : Scan) : Scan :=
  if scan.word.isEmpty then scan else scan.close

def quote (scan : Scan) : Scan :=
  match scan.word with
  | '\\' :: rest => { scan with word := '"' :: rest }
  | _ => if scan.quoted then scan.close else { scan with quoted := true }

def read (scan : Scan) (c : Char) : Scan :=
  if c = '"' then scan.quote
  else if Text.isBlank c && !scan.quoted then scan.separate
  else { scan with word := c :: scan.word }

def readAll (scan : Scan) (text : List Char) : Scan :=
  text.foldl read scan

/-- The tokens of a line that ends here; none while a quote is open. -/
def finish? (scan : Scan) : Option (List String) :=
  if scan.quoted then none else some (scan.separate.tokens.reverse.map String.ofList)

variable {scan : Scan}

@[simp]
theorem readAll_nil : scan.readAll [] = scan := rfl

@[simp]
theorem readAll_cons (c : Char) (text : List Char) :
    scan.readAll (c :: text) = (scan.read c).readAll text := rfl

@[simp]
theorem readAll_append (first second : List Char) :
    scan.readAll (first ++ second) = (scan.readAll first).readAll second :=
  List.foldl_append

theorem read_of_blank {c : Char} (blank : Text.isBlank c = true) (outside : scan.quoted = false) :
    scan.read c = scan.separate := by
  simp [read, Text.ne_quote_of_isBlank blank, blank, outside]

@[simp]
theorem finish?_isSome : scan.finish?.isSome = !scan.quoted := by
  cases quoted : scan.quoted <;> simp [finish?, quoted]

end Scan

def tokens? (line : String) : Option (List String) :=
  (Scan.readAll {} line.toList).finish?

def tokens (line : String) : Except Error (List String) :=
  match tokens? line with
  | some tokens => .ok tokens
  | none => .error .unterminatedQuote

@[simp]
theorem tokens?_empty : tokens? "" = some [] := by
  simp [tokens?, Scan.finish?, Scan.separate]

theorem tokens_eq_ok_iff {line : String} {ts : List String} :
    tokens line = .ok ts ↔ tokens? line = some ts := by
  cases result : tokens? line <;> simp [tokens, result]

end VirtualTerminal.Line
