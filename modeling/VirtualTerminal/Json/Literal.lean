/-!
String literals of JSON.

Written, a literal escapes quotes, backslashes and the characters below the space, and nothing else.
Read, it may escape any character; one above U+FFFF is then written as a pair of surrogates, and a
surrogate without its other half stands for nothing.  Each written literal reads back
(`string?_encode`).
-/

namespace VirtualTerminal.Json

def escape (c : Char) : List Char :=
  match c with
  | '"' => ['\\', '"']
  | '\\' => ['\\', '\\']
  | '\x08' => ['\\', 'b']
  | '\x0c' => ['\\', 'f']
  | '\n' => ['\\', 'n']
  | '\r' => ['\\', 'r']
  | '\t' => ['\\', 't']
  | c =>
      if c.toNat < 0x20 then
        ['\\', 'u', '0', '0', Nat.digitChar (c.toNat / 16), Nat.digitChar (c.toNat % 16)]
      else [c]

def encode (text : String) : String :=
  "\"" ++ String.ofList (text.toList.flatMap escape) ++ "\""

def hexDigit? (c : Char) : Option Nat :=
  if '0' ≤ c ∧ c ≤ '9' then some (c.toNat - '0'.toNat)
  else if 'a' ≤ c ∧ c ≤ 'f' then some (c.toNat - 'a'.toNat + 10)
  else if 'A' ≤ c ∧ c ≤ 'F' then some (c.toNat - 'A'.toNat + 10)
  else none

/-- The number that the first four characters write in hexadecimal, and what follows them. -/
def unit? : List Char → Option (Nat × List Char)
  | a :: b :: c :: d :: rest => do
      return (((((← hexDigit? a) * 16 + (← hexDigit? b)) * 16 + (← hexDigit? c)) * 16 +
        (← hexDigit? d)), rest)
  | _ => none

/-- The character that a letter stands for behind a backslash. -/
def letter? (c : Char) : Option Char :=
  match c with
  | '"' => some '"'
  | '\\' => some '\\'
  | '/' => some '/'
  | 'b' => some '\x08'
  | 'f' => some '\x0c'
  | 'n' => some '\n'
  | 'r' => some '\r'
  | 't' => some '\t'
  | _ => none

/-- The lower half of a surrogate pair, behind the upper one. -/
def lowSurrogate? : List Char → Option (Nat × List Char)
  | '\\' :: 'u' :: rest => (unit? rest).filter fun (low, _) => 0xDC00 ≤ low ∧ low ≤ 0xDFFF
  | _ => none

def codePoint? (text : List Char) : Option (Char × List Char) := do
  let (unit, rest) ← unit? text
  if 0xD800 ≤ unit ∧ unit ≤ 0xDBFF then
    let (low, rest) ← lowSurrogate? rest
    return (Char.ofNat (0x10000 + (unit - 0xD800) * 0x400 + (low - 0xDC00)), rest)
  else if 0xDC00 ≤ unit ∧ unit ≤ 0xDFFF then none
  else return (Char.ofNat unit, rest)

/-- The first character of a text within a literal, and what follows it. -/
def char? : List Char → Option (Char × List Char)
  | '\\' :: 'u' :: rest => codePoint? rest
  | '\\' :: c :: rest => (letter? c).map (·, rest)
  | c :: rest => if c.toNat < 0x20 ∨ c = '\\' then none else some (c, rest)
  | [] => none

theorem unit?_length {text rest : List Char} {unit : Nat}
    (read : unit? text = some (unit, rest)) : rest.length < text.length := by
  match text with
  | a :: b :: c :: d :: tail =>
      simp only [unit?, Option.bind_eq_bind, Option.bind_eq_some_iff, Option.pure_def,
        Option.some.injEq, Prod.mk.injEq] at read
      obtain ⟨_, _, _, _, _, _, _, _, _, rfl⟩ := read
      simp only [List.length_cons]
      omega
  | [] | [_] | [_, _] | [_, _, _] => simp [unit?] at read

theorem lowSurrogate?_length {text rest : List Char} {low : Nat}
    (read : lowSurrogate? text = some (low, rest)) : rest.length < text.length := by
  unfold lowSurrogate? at read
  split at read
  · have := unit?_length (Option.filter_eq_some_iff.mp read).1
    simp only [List.length_cons]
    omega
  · simp at read

theorem codePoint?_length {text rest : List Char} {c : Char}
    (read : codePoint? text = some (c, rest)) : rest.length < text.length := by
  simp only [codePoint?, Option.bind_eq_bind, Option.bind_eq_some_iff, Prod.exists] at read
  obtain ⟨unit, tail, first, read⟩ := read
  have shorter := unit?_length first
  split at read
  · obtain ⟨⟨low, last⟩, second, read⟩ := Option.bind_eq_some_iff.mp read
    simp only [Option.pure_def, Option.some.injEq, Prod.mk.injEq] at read
    rw [← read.2]
    exact Nat.lt_trans (lowSurrogate?_length second) shorter
  · split at read
    · simp at read
    · simp only [Option.pure_def, Option.some.injEq, Prod.mk.injEq] at read
      rw [← read.2]
      exact shorter

theorem char?_length {text rest : List Char} {c : Char}
    (read : char? text = some (c, rest)) : rest.length < text.length := by
  unfold char? at read
  split at read
  · have := codePoint?_length read
    simp only [List.length_cons]
    omega
  · obtain ⟨_, _, same⟩ := Option.map_eq_some_iff.mp read
    simp only [Prod.mk.injEq] at same
    rw [← same.2]
    simp only [List.length_cons]
    omega
  · split at read
    · simp at read
    · simp only [Option.some.injEq, Prod.mk.injEq] at read
      simp [← read.2]
  · simp at read

/-- The text up to the closing quote behind the characters read before, latest first, and what
follows the quote. -/
def stringFrom? (before : List Char) (text : List Char) : Option (List Char × List Char) :=
  match text with
  | '"' :: rest => some (before.reverse, rest)
  | text =>
      match _read : char? text with
      | some (c, rest) => stringFrom? (c :: before) rest
      | none => none
termination_by text.length
decreasing_by exact char?_length _read

/-- Reads a literal. -/
def string? : List Char → Option (List Char × List Char)
  | '"' :: rest => stringFrom? [] rest
  | _ => none

theorem hexDigit?_digitChar {n : Nat} (small : n < 16) :
    hexDigit? (Nat.digitChar n) = some n := by
  have all : ∀ n : Fin 16, hexDigit? (Nat.digitChar n) = some n.val := by decide
  exact all ⟨n, small⟩

theorem codePoint?_control {c : Char} (control : c.toNat < 0x20) (rest : List Char) :
    codePoint? ('0' :: '0' :: Nat.digitChar (c.toNat / 16) ::
      Nat.digitChar (c.toNat % 16) :: rest) = some (c, rest) := by
  have zero : hexDigit? '0' = some 0 := by decide
  have value : (0 * 16 + 0) * 16 + c.toNat / 16 = c.toNat / 16 := by omega
  have whole : c.toNat / 16 * 16 + c.toNat % 16 = c.toNat := by omega
  have unit : unit? ('0' :: '0' :: Nat.digitChar (c.toNat / 16) ::
      Nat.digitChar (c.toNat % 16) :: rest) = some (c.toNat, rest) := by
    simp only [unit?, zero, hexDigit?_digitChar (n := c.toNat / 16) (by omega),
      hexDigit?_digitChar (n := c.toNat % 16) (by omega), Option.bind_eq_bind, Option.bind_some,
      Option.pure_def, value, whole]
  rw [codePoint?, unit]
  simp only [Option.bind_eq_bind, Option.bind_some]
  rw [if_neg (by omega), if_neg (by omega), Char.ofNat_toNat]
  rfl

theorem char?_escape (c : Char) (rest : List Char) : char? (escape c ++ rest) = some (c, rest) := by
  unfold escape
  split
  case h_8 c quote backslash _ _ _ _ _ =>
    split
    · exact codePoint?_control ‹_› rest
    · rw [List.singleton_append, char?.eq_def]
      split <;> simp_all
  all_goals rfl

theorem escape_ne_quote (c : Char) (rest tail : List Char) : escape c ++ rest ≠ '"' :: tail := by
  unfold escape
  split
  case h_8 => split <;> simp_all
  all_goals simp

theorem stringFrom?_of_char? {before text rest : List Char} {c : Char}
    (noQuote : ∀ tail, text ≠ '"' :: tail) (read : char? text = some (c, rest)) :
    stringFrom? before text = stringFrom? (c :: before) rest := by
  rw [stringFrom?.eq_def]
  split
  · exact absurd rfl (noQuote _)
  · split <;> simp_all

theorem stringFrom?_escape (before text rest : List Char) :
    stringFrom? before (text.flatMap escape ++ '"' :: rest) =
      some (before.reverse ++ text, rest) := by
  induction text generalizing before with
  | nil => simp [stringFrom?]
  | cons c text inductionHypothesis =>
      rw [List.flatMap_cons, List.append_assoc,
        stringFrom?_of_char? (escape_ne_quote c _) (char?_escape c _), inductionHypothesis]
      simp

/-- What is written is read, whatever follows. -/
theorem string?_encode (text : String) (rest : List Char) :
    string? ((encode text).toList ++ rest) = some (text.toList, rest) := by
  have shape : (encode text).toList ++ rest =
      '"' :: (text.toList.flatMap escape ++ '"' :: rest) := by
    simp [encode]
  rw [shape, string?, stringFrom?_escape]
  rfl

end VirtualTerminal.Json
