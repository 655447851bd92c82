import Mathlib.Data.List.Forall2
import VirtualTerminal.Proofs.Line.Separation
import VirtualTerminal.Text.Pieces

/-!
# Carriage returns before line breaks

Where each line break of a script follows a carriage return, the lines of the script end in carriage
returns.  A carriage return is blank, so at the end of a line it makes no difference to the tokens,
nor to whether a quote is left open.
-/

namespace VirtualTerminal

/-- A text with a carriage return before each line break. -/
def withReturns (text : String) : String :=
  String.ofList (text.toList.flatMap fun c => if c = '\n' then ['\r', '\n'] else [c])

/-- A text without its carriage returns. -/
def withoutReturns (text : String) : String :=
  String.ofList (text.toList.filter (· ≠ '\r'))

@[simp]
theorem withoutReturns_append (first second : String) :
    withoutReturns (first ++ second) = withoutReturns first ++ withoutReturns second := by
  simp [withoutReturns]

/-- Two lines are read alike and show the same but for carriage returns. -/
structure Line.AreTwins (line other : String) : Prop where
  tokens : Line.tokens other = Line.tokens line
  shown : withoutReturns other = withoutReturns line

namespace Line

theorem AreTwins.refl (line : String) : AreTwins line line where
  tokens := rfl
  shown := rfl

theorem AreTwins.symm {line other : String} (twins : AreTwins line other) :
    AreTwins other line where
  tokens := twins.tokens.symm
  shown := twins.shown.symm

theorem areTwins_append_return (line : String) : AreTwins line (line ++ "\r") where
  tokens := tokens_append_blanks (by decide)
  shown := by simp [withoutReturns]

end Line

/-- The pieces of a text with returns are those of the text, with returns behind all but the last
one. -/
theorem forall₂_pieces_withReturns (text : List Char) :
    List.Forall₂ (fun piece other => other = piece ∨ other = piece ++ ['\r'])
      (Text.pieces '\n' text)
      (Text.pieces '\n' (text.flatMap fun c => if c = '\n' then ['\r', '\n'] else [c])) := by
  induction text with
  | nil => exact .cons (.inl rfl) .nil
  | cons c text inductionHypothesis =>
      rw [List.flatMap_cons]
      by_cases broken : c = '\n'
      · subst broken
        rw [if_pos rfl, Text.pieces_cons_separator, List.cons_append, List.cons_append,
          List.nil_append, Text.pieces_cons_of_ne (by decide), Text.cut_cons_separator]
        exact .cons (.inr rfl) inductionHypothesis
      · rw [if_neg broken, List.singleton_append, Text.pieces_cons_of_ne broken,
          Text.pieces_cons_of_ne broken]
        rw [Text.pieces, Text.pieces] at inductionHypothesis
        cases inductionHypothesis with
        | cons first rest =>
            refine .cons ?_ rest
            rcases first with same | returned
            · exact .inl (congrArg (List.cons c) same)
            · exact .inr (congrArg (List.cons c) returned)

/-- The lines of a script with returns are twins of those of the script. -/
theorem forall₂_lines_withReturns (script : String) :
    List.Forall₂ Line.AreTwins (Text.lines script) (Text.lines (withReturns script)) := by
  rw [Text.lines, Text.lines, Text.split, Text.split, withReturns, String.toList_ofList,
    List.forall₂_map_left_iff, List.forall₂_map_right_iff]
  apply (forall₂_pieces_withReturns script.toList).imp
  rintro piece other (rfl | rfl)
  · exact .refl _
  · have ended : String.ofList (piece ++ ['\r']) = String.ofList piece ++ "\r" := by
      simp
    rw [ended]
    exact Line.areTwins_append_return _

end VirtualTerminal
