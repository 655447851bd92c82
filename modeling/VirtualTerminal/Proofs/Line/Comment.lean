import VirtualTerminal.Proofs.Line.Separation

/-!
# Comment lines

A comment line is a number sign, a blank and a text.  It is split into tokens like any other line, so
it is read just where the text is, and its tokens are those of the text behind the number sign.
-/

namespace VirtualTerminal.Line

/-- The line that says a text to the reader and nothing to the session. -/
def comment (text : String) : String :=
  "# " ++ text

/-- What is read of a comment is what is read of its text, behind the number sign; so a quote that
the text leaves open is left open in the comment. -/
theorem tokens_comment (text : String) :
    tokens (comment text) = (tokens text).map ("#" :: ·) := by
  have marker : tokens "#" = .ok ["#"] := rfl
  have marked : comment text = "#" ++ String.singleton ' ' ++ text := rfl
  rw [marked, tokens_append_of_blank marker (by decide)]
  rfl

/-- Comments that can be read stand between the lines of a script; so many of them. -/
inductive Commented : Nat → List String → List String → Prop
  | nil : Commented 0 [] []
  | line {added : Nat} {lines commented : List String} (line : String)
      (rest : Commented added lines commented) : Commented added (line :: lines) (line :: commented)
  | comment {added : Nat} {lines commented : List String} {text : String} {ts : List String}
      (read : tokens text = .ok ts) (rest : Commented added lines commented) :
      Commented (added + 1) lines (comment text :: commented)

end VirtualTerminal.Line
