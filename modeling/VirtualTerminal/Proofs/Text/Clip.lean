import VirtualTerminal.Redaction

/-!
# What is shown of a long text

The bytes of a text are counted, and its characters are kept whole.  The longest head that stays
within a number of bytes is the one that is shown, and it ends where going back from that number one
byte at a time first meets the end of a character.
-/

namespace VirtualTerminal.Text

variable {head text : List Char} {limit : Nat}

theorem utf8ByteSize_ofList (text : List Char) :
    (String.ofList text).utf8ByteSize = byteSize text := by
  induction text with
  | nil => rfl
  | cons c text inductionHypothesis =>
      have parted : String.ofList (c :: text) = String.singleton c ++ String.ofList text := by
        rw [String.singleton_eq_ofList, ← String.ofList_append, List.singleton_append]
      rw [parted, String.utf8ByteSize_append, String.utf8ByteSize_singleton, inductionHypothesis,
        byteSize_cons]

theorem byteSize_toList (text : String) : byteSize text.toList = text.utf8ByteSize := by
  rw [← utf8ByteSize_ofList, String.ofList_toList]

/-- No head within the limit is longer. -/
theorem prefix_headWithin (front : head <+: text) (within : byteSize head ≤ limit) :
    head <+: headWithin limit text := by
  induction text generalizing head limit with
  | nil => simpa [headWithin] using front
  | cons c text inductionHypothesis =>
      cases head with
      | nil => exact List.nil_prefix
      | cons d head =>
          obtain ⟨rfl, further⟩ := List.cons_prefix_cons.mp front
          rw [byteSize_cons] at within
          rw [headWithin, if_pos (by omega), List.cons_prefix_cons]
          exact ⟨rfl, inductionHypothesis further (by omega)⟩

/-- A head of a text within so many bytes, of which every other such head is a head. -/
structure IsLongestHead (limit : Nat) (text head : String) : Prop where
  front : ∃ rest, text = head ++ rest
  within : head.utf8ByteSize ≤ limit
  longest : ∀ other rest, text = other ++ rest → other.utf8ByteSize ≤ limit →
    ∃ more, head = other ++ more

theorem isLongestHead_headWithin (limit : Nat) (text : String) :
    IsLongestHead limit text (String.ofList (headWithin limit text.toList)) where
  front := by
    obtain ⟨rest, parts⟩ := headWithin_prefix limit text.toList
    refine ⟨String.ofList rest, ?_⟩
    rw [← String.ofList_append, parts, String.ofList_toList]
  within := by
    rw [utf8ByteSize_ofList]
    exact byteSize_headWithin_le limit text.toList
  longest := by
    rintro other rest rfl within
    have front : other.toList <+: (other ++ rest).toList :=
      ⟨rest.toList, String.toList_append.symm⟩
    rw [← byteSize_toList] at within
    obtain ⟨more, parts⟩ := prefix_headWithin front within
    refine ⟨String.ofList more, ?_⟩
    rw [← parts, String.ofList_append, String.ofList_toList]

/-- The first place met in going back from a number of bytes at which a character ends, or the start
of the text. -/
def placeBack (text : String) : Nat → Nat
  | 0 => 0
  | place + 1 =>
      if String.Pos.Raw.isValid text ⟨place + 1⟩ then place + 1 else placeBack text place

/-- A character ends just where a head of the text ends. -/
theorem isValid_iff {text : String} {place : Nat} :
    String.Pos.Raw.isValid text ⟨place⟩ = true ↔
      ∃ head rest, text = head ++ rest ∧ head.utf8ByteSize = place := by
  rw [String.Pos.Raw.isValid_eq_true_iff, String.Pos.Raw.isValid_iff_exists_append]
  simp [String.Pos.Raw.ext_iff, eq_comm]

theorem placeBack_eq {text : String} {place : Nat}
    (valid : String.Pos.Raw.isValid text ⟨place⟩ = true) (within : place ≤ limit)
    (last : ∀ other, String.Pos.Raw.isValid text ⟨other⟩ = true → other ≤ limit → other ≤ place) :
    placeBack text limit = place := by
  induction limit with
  | zero => exact (Nat.le_zero.mp within).symm
  | succ limit inductionHypothesis =>
      rw [placeBack]
      split
      next here => exact Nat.le_antisymm (last _ here (Nat.le_refl _)) within
      next inside =>
        have below : place ≠ limit + 1 := by
          rintro rfl
          exact inside valid
        apply inductionHypothesis (by omega)
        exact fun other valid within => last other valid (Nat.le_succ_of_le within)

theorem IsLongestHead.placeBack_eq {text head : String} (longest : IsLongestHead limit text head) :
    placeBack text limit = head.utf8ByteSize := by
  obtain ⟨rest, parts⟩ := longest.front
  apply Text.placeBack_eq (isValid_iff.mpr ⟨head, rest, parts, rfl⟩) longest.within
  rintro place valid within
  obtain ⟨other, behind, parts, rfl⟩ := isValid_iff.mp valid
  obtain ⟨more, rfl⟩ := longest.longest other behind parts within
  rw [String.utf8ByteSize_append]
  exact Nat.le_add_right _ _

end VirtualTerminal.Text

namespace VirtualTerminal.Redaction

open Text

/-- Where input is not shown, every text is hidden alike.  Where it is, a text that stays within the
limit is shown whole.  Of any other text the longest head within the limit is shown, which ends at
the first place met in going back from the limit at which a character ends, and the bytes behind it
are counted. -/
theorem apply_shows_longest_head (redaction : Redaction) (text : String) :
    ∃ shown missing,
      IsLongestHead redaction.maxBytes text shown ∧
      shown.utf8ByteSize = placeBack text redaction.maxBytes ∧
      missing + shown.utf8ByteSize = text.utf8ByteSize ∧
      redaction.apply text =
        if redaction.showInput then
          if text.utf8ByteSize ≤ redaction.maxBytes then text
          else shown ++ "...[truncated " ++ toString missing ++ " bytes]"
        else "[hidden]" := by
  have longest := isLongestHead_headWithin redaction.maxBytes text
  obtain ⟨rest, parts⟩ := longest.front
  have total := congrArg String.utf8ByteSize parts
  rw [String.utf8ByteSize_append, utf8ByteSize_ofList] at total
  refine ⟨_, text.utf8ByteSize - byteSize (headWithin redaction.maxBytes text.toList), longest,
    longest.placeBack_eq.symm, ?_, ?_⟩
  · rw [utf8ByteSize_ofList]
    omega
  · rw [apply, clip, byteSize_toList]

/-- Three bytes end inside the second character. -/
example : clip 3 "éééé" = "é...[truncated 6 bytes]" := by
  decide +kernel

end VirtualTerminal.Redaction
