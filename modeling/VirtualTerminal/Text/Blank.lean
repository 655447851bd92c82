/-!
Classes of characters.  `isBlank` is the Unicode property White_Space and `isControl` the general
category Cc.
-/

namespace VirtualTerminal.Text

def isBlank (c : Char) : Bool :=
  (0x09 ≤ c.toNat && c.toNat ≤ 0x0D) ||
  c.toNat == 0x20 || c.toNat == 0x85 || c.toNat == 0xA0 || c.toNat == 0x1680 ||
  (0x2000 ≤ c.toNat && c.toNat ≤ 0x200A) ||
  c.toNat == 0x2028 || c.toNat == 0x2029 || c.toNat == 0x202F || c.toNat == 0x205F ||
  c.toNat == 0x3000

def isControl (c : Char) : Bool :=
  c.toNat ≤ 0x1F || (0x7F ≤ c.toNat && c.toNat ≤ 0x9F)

/-- A text with nothing to see in it. -/
def isBlankText (text : String) : Bool :=
  text.toList.all isBlank

@[simp]
theorem isBlank_quote : isBlank '"' = false := by decide

@[simp]
theorem isBlank_backslash : isBlank '\\' = false := by decide

theorem ne_quote_of_isBlank {c : Char} (blank : isBlank c = true) : c ≠ '"' := by
  rintro rfl
  exact Bool.false_ne_true (isBlank_quote.symm.trans blank)

@[simp]
theorem isBlankText_empty : isBlankText "" = true := by
  simp [isBlankText]

end VirtualTerminal.Text
