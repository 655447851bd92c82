/-!
Sizes and cuts of a text in UTF-8 bytes.  A cut never divides a character.
-/

namespace VirtualTerminal.Text

def byteSize (text : List Char) : Nat :=
  text.foldr (fun c size => c.utf8Size + size) 0

/-- The longest head of at most `limit` bytes. -/
def headWithin (limit : Nat) : List Char → List Char
  | [] => []
  | c :: text =>
      if c.utf8Size ≤ limit then c :: headWithin (limit - c.utf8Size) text else []

/-- What follows the first `bytes` bytes; none if they end inside a character or past the end. -/
def afterBytes? (bytes : Nat) : List Char → Option (List Char)
  | [] => if bytes = 0 then some [] else none
  | c :: text =>
      if bytes = 0 then some (c :: text)
      else if c.utf8Size ≤ bytes then afterBytes? (bytes - c.utf8Size) text
      else none

@[simp]
theorem byteSize_nil : byteSize [] = 0 := rfl

@[simp]
theorem byteSize_cons (c : Char) (text : List Char) :
    byteSize (c :: text) = c.utf8Size + byteSize text := rfl

@[simp]
theorem byteSize_append (first second : List Char) :
    byteSize (first ++ second) = byteSize first + byteSize second := by
  induction first with
  | nil => simp
  | cons c first inductionHypothesis =>
      rw [List.cons_append, byteSize_cons, byteSize_cons, inductionHypothesis, Nat.add_assoc]

theorem headWithin_prefix (limit : Nat) (text : List Char) :
    headWithin limit text <+: text := by
  induction text generalizing limit with
  | nil => exact List.prefix_refl _
  | cons c text inductionHypothesis =>
      rw [headWithin]
      split
      · simpa using inductionHypothesis _
      · exact List.nil_prefix

theorem byteSize_headWithin_le (limit : Nat) (text : List Char) :
    byteSize (headWithin limit text) ≤ limit := by
  induction text generalizing limit with
  | nil => simp [headWithin]
  | cons c text inductionHypothesis =>
      rw [headWithin]
      split
      · have := inductionHypothesis (limit - c.utf8Size)
        simp only [byteSize_cons]
        omega
      · simp

theorem afterBytes?_append (first second : List Char) :
    afterBytes? (byteSize first) (first ++ second) = some second := by
  induction first with
  | nil => cases second <;> simp [afterBytes?]
  | cons c first inductionHypothesis =>
      have positive := c.utf8Size_pos
      rw [List.cons_append, afterBytes?, byteSize_cons, if_neg (by omega),
        if_pos (by omega), Nat.add_sub_cancel_left, inductionHypothesis]

end VirtualTerminal.Text
