import VirtualTerminal.Console.Interactive

/-!
# Lines of a typed text

A text is typed as lines.  Each ends with a line break, which a carriage return may stand in front
of; the last line ends with the text if it has no break.  These are the lines that the readings of
the text hold, and every text is typed as some.
-/

namespace VirtualTerminal.Console

/-- The text is typed as these lines.  What is behind the last line break is a line if there is
anything.  A line that ends with a line break alone has no carriage return at its end. -/
inductive TypedAs : String → List String → Prop
  | nothing : TypedAs "" []
  | unended {line : String} (whole : '\n' ∉ line.toList) (filled : line ≠ "") :
      TypedAs line [line]
  | ended {line rest : String} {lines : List String} (whole : '\n' ∉ line.toList)
      (bare : line.toList.getLast? ≠ some '\r') (later : TypedAs rest lines) :
      TypedAs (line ++ "\n" ++ rest) (line :: lines)
  | returned {line rest : String} {lines : List String} (whole : '\n' ∉ line.toList)
      (later : TypedAs rest lines) :
      TypedAs (line ++ "\r\n" ++ rest) (line :: lines)

/-- The lines that the readings of a text hold. -/
def typedLines (input : String) : List String :=
  (readings input).map typedLine

theorem ne_empty_of_mem_readings {input reading : String} (member : reading ∈ readings input) :
    reading ≠ "" := by
  obtain ⟨piece, among, rfl⟩ := List.mem_map.mp member
  simpa using Text.ne_nil_of_mem_endedPieces among

section

variable {line : String}

theorem typedLine_of_whole (whole : '\n' ∉ line.toList) : typedLine line = line := by
  unfold typedLine
  split
  next backwards => exact absurd (List.mem_reverse.mp (backwards ▸ List.mem_cons_self)) whole
  next backwards => exact absurd (List.mem_reverse.mp (backwards ▸ List.mem_cons_self)) whole
  next => rfl

theorem typedLine_returned (line : String) : typedLine (line ++ "\r\n") = line := by
  simp [typedLine]

theorem typedLine_ended (bare : line.toList.getLast? ≠ some '\r') :
    typedLine (line ++ "\n") = line := by
  have backwards : (line ++ "\n").toList.reverse = '\n' :: line.toList.reverse := by simp
  rw [← List.head?_reverse] at bare
  rw [typedLine, backwards]
  split
  next rest same =>
      rw [(List.cons.inj same).2] at bare
      exact absurd rfl bare
  next rest _ same =>
      rw [← (List.cons.inj same).2, List.reverse_reverse, String.ofList_toList]
  next other => exact absurd rfl (other line.toList.reverse)

theorem typedLines_of_whole (whole : '\n' ∉ line.toList) (filled : line ≠ "") :
    typedLines line = [line] := by
  have characters : line.toList ≠ [] := by simpa using filled
  rw [typedLines, readings, Text.endedPieces_eq_singleton whole characters]
  simp [typedLine_of_whole whole]

theorem typedLines_append (whole : '\n' ∉ line.toList) (rest : String) :
    typedLines (line ++ "\n" ++ rest) = typedLine (line ++ "\n") :: typedLines rest := by
  have characters : (line ++ "\n" ++ rest).toList = line.toList ++ '\n' :: rest.toList := by simp
  have reading : String.ofList (line.toList ++ ['\n']) = line ++ "\n" := by
    rw [← String.toList_inj]
    simp
  rw [typedLines, readings, characters, Text.endedPieces_append whole, List.map_cons, List.map_cons,
    reading]
  rfl

end

/-- Every text is typed as some lines. -/
theorem TypedAs.total (input : String) : ∃ lines, TypedAs input lines := by
  -- by the length of the text: what is behind its first line break is shorter
  induction length : input.length using Nat.strongRecOn generalizing input with
  | _ length inductionHypothesis =>
      subst length
      by_cases broken : '\n' ∈ input.toList
      · obtain ⟨first, rest, characters, whole⟩ := List.eq_append_cons_of_mem broken
        have shorter : (String.ofList rest).length < input.length := by
          rw [← String.length_toList, ← String.length_toList, characters]
          simp
          omega
        obtain ⟨lines, later⟩ := inductionHypothesis _ shorter _ rfl
        by_cases last : first.getLast? = some '\r'
        · obtain ⟨line, rfl⟩ := List.getLast?_eq_some_iff.mp last
          have here : '\n' ∉ (String.ofList line).toList := by simp_all
          have text : input = String.ofList line ++ "\r\n" ++ String.ofList rest := by
            rw [← String.toList_inj, characters]
            simp
          rw [text]
          exact ⟨_, .returned here later⟩
        · have text : input = String.ofList first ++ "\n" ++ String.ofList rest := by
            rw [← String.toList_inj, characters]
            simp
          rw [text]
          exact ⟨_, .ended (by simpa using whole) (by simpa using last) later⟩
      · by_cases filled : input = ""
        · exact ⟨[], filled ▸ .nothing⟩
        · exact ⟨[input], .unended broken filled⟩

theorem TypedAs.typedLines_eq {input : String} {lines : List String}
    (typed : TypedAs input lines) : typedLines input = lines := by
  induction typed with
  | nothing => rfl
  | unended whole filled => exact typedLines_of_whole whole filled
  | ended whole bare _ inductionHypothesis =>
      rw [typedLines_append whole, typedLine_ended bare, inductionHypothesis]
  | @returned line rest lines whole _ inductionHypothesis =>
      have ended : line ++ "\r\n" = line ++ "\r" ++ "\n" := by
        rw [String.append_assoc]
        rfl
      have wholeToo : '\n' ∉ (line ++ "\r").toList := by simp [whole]
      rw [ended, typedLines_append wholeToo, ← ended, typedLine_returned, inductionHypothesis]

/-- The readings of a text hold the lines that it is typed as, and no others. -/
theorem typedAs_iff {input : String} {lines : List String} :
    TypedAs input lines ↔ typedLines input = lines := by
  refine ⟨TypedAs.typedLines_eq, fun same => ?_⟩
  obtain ⟨others, typed⟩ := TypedAs.total input
  rw [← same, typed.typedLines_eq]
  exact typed

end VirtualTerminal.Console
