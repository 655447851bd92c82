import VirtualTerminal.Text.Hidden

/-!
Texts written between double quotes so that every character can be told apart.

Quotes, backslashes and the usual control characters are written after a backslash, all other hidden
characters by their code point in hexadecimal.
-/

namespace VirtualTerminal.Text

def escape (c : Char) : List Char :=
  match c with
  | '\x00' => ['\\', '0']
  | '\t' => ['\\', 't']
  | '\n' => ['\\', 'n']
  | '\r' => ['\\', 'r']
  | '"' => ['\\', '"']
  | '\\' => ['\\', '\\']
  | c =>
      if isHidden c then
        ['\\', 'u', '\x7b'] ++ Nat.toDigits 16 c.toNat ++ ['\x7d']
      else [c]

def quoted (text : String) : String :=
  "\"" ++ String.ofList (text.toList.flatMap escape) ++ "\""

@[simp]
theorem quoted_empty : quoted "" = "\"\"" := by
  simp [quoted]

end VirtualTerminal.Text
