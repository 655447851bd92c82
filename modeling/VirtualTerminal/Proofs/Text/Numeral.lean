import Mathlib.Data.Nat.Digits.Defs
import VirtualTerminal.Text.Numeral

/-!
# What a numeral stands for

A numeral is read from its front, one digit at a time, and what it stands for is told by the places
of its digits.  The two agree on every text, however many zeros stand in front, and a text that is no
numeral is not read.
-/

namespace VirtualTerminal.Text

/-- The number of a digit. -/
def digitValue (c : Char) : Nat :=
  c.toNat - '0'.toNat

/-- The number that digits stand for by their places, the last one for ones. -/
def placeValue (digits : List Char) : Nat :=
  Nat.ofDigits 10 (digits.reverse.map digitValue)

/-- One or more ASCII digits, with a plus sign in front or without one, and the number that they
stand for. -/
inductive IsNumeral : List Char → Nat → Prop
  | plain {digits : List Char} (present : digits ≠ []) (all : ∀ c ∈ digits, c.isDigit = true) :
      IsNumeral digits (placeValue digits)
  | signed {digits : List Char} (present : digits ≠ []) (all : ∀ c ∈ digits, c.isDigit = true) :
      IsNumeral ('+' :: digits) (placeValue digits)

variable {c : Char} {text : List Char} {value : Nat}

theorem digit?_eq (c : Char) : digit? c = if c.isDigit then some (digitValue c) else none := by
  have same : ('0' ≤ c ∧ c ≤ '9') ↔ c.isDigit = true := by
    simp [Char.isDigit, Char.le_def]
  simp only [digit?, same, digitValue]

theorem placeValue_cons (c : Char) (digits : List Char) :
    placeValue (c :: digits) = placeValue digits + 10 ^ digits.length * digitValue c := by
  simp [placeValue, Nat.ofDigits_append]

/-- The digits that come later move the number read before them up by as many places. -/
theorem foldlM_digit?_eq_some_iff (start : Nat) :
    text.foldlM (fun value c => (digit? c).map (10 * value + ·)) start = some value ↔
      (∀ c ∈ text, c.isDigit = true) ∧
        placeValue text + 10 ^ text.length * start = value := by
  induction text generalizing start with
  | nil => simp [placeValue]
  | cons c text inductionHypothesis =>
      rw [List.foldlM_cons, digit?_eq]
      by_cases digit : c.isDigit = true
      · have moved : placeValue (c :: text) + 10 ^ (c :: text).length * start =
            placeValue text + 10 ^ text.length * (10 * start + digitValue c) := by
          rw [placeValue_cons, List.length_cons, Nat.pow_succ, Nat.mul_add, Nat.mul_assoc]
          omega
        rw [if_pos digit, moved]
        simpa [digit] using inductionHypothesis (10 * start + digitValue c)
      · simp [digit]

theorem decimal?_eq_some_iff :
    decimal? text = some value ↔
      text ≠ [] ∧ (∀ c ∈ text, c.isDigit = true) ∧ placeValue text = value := by
  unfold decimal?
  split
  next empty => simp [empty]
  next present =>
    rw [foldlM_digit?_eq_some_iff]
    simp [present]

theorem signedDecimal?_eq_some_iff : signedDecimal? text = some value ↔ IsNumeral text value := by
  constructor
  · intro read
    unfold signedDecimal? at read
    split at read
    next digits =>
      obtain ⟨present, all, rfl⟩ := decimal?_eq_some_iff.mp read
      exact .signed present all
    next =>
      obtain ⟨present, all, rfl⟩ := decimal?_eq_some_iff.mp read
      exact .plain present all
  · intro numeral
    cases numeral with
    | plain present all =>
        unfold signedDecimal?
        split
        next =>
          have plus : '+'.isDigit = true := all '+' List.mem_cons_self
          exact absurd plus (by decide)
        next => exact decimal?_eq_some_iff.mpr ⟨present, all, rfl⟩
    | signed present all => exact decimal?_eq_some_iff.mpr ⟨present, all, rfl⟩

theorem IsNumeral.unique {other : Nat} (numeral : IsNumeral text value)
    (another : IsNumeral text other) : value = other := by
  have first := signedDecimal?_eq_some_iff.mpr numeral
  have second := signedDecimal?_eq_some_iff.mpr another
  exact Option.some.inj (first.symm.trans second)

end VirtualTerminal.Text
