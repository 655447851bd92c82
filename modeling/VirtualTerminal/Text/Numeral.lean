/-!
Decimal numerals: one or more of the ten ASCII digits, with any number of zeros in front.
-/

namespace VirtualTerminal.Text

def digit? (c : Char) : Option Nat :=
  if '0' ≤ c ∧ c ≤ '9' then some (c.toNat - '0'.toNat) else none

def decimal? (text : List Char) : Option Nat :=
  if text = [] then none
  else text.foldlM (fun value c => (digit? c).map (10 * value + ·)) 0

/-- A numeral after an optional plus sign. -/
def signedDecimal? : List Char → Option Nat
  | '+' :: text => decimal? text
  | text => decimal? text

@[simp]
theorem decimal?_nil : decimal? [] = none := rfl

end VirtualTerminal.Text
