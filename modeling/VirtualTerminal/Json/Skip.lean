import VirtualTerminal.Json.Literal

/-!
Passing over JSON values of no interest, however deeply they are nested.

Literals are looked at less closely than where they are read: any four hexadecimal digits will do
behind `\u`, even half a surrogate pair.
-/

namespace VirtualTerminal.Json

/-- Drops the white space that may stand between the parts of a value. -/
def skipBlanks (text : List Char) : List Char :=
  text.dropWhile fun c => c = ' ' || c = '\n' || c = '\r' || c = '\t'

/-- Passes over the rest of a literal. -/
def skipString? : List Char → Option (List Char)
  | '"' :: rest => some rest
  | '\\' :: 'u' :: a :: b :: c :: d :: rest =>
      if [a, b, c, d].all fun digit => (hexDigit? digit).isSome then skipString? rest else none
  | '\\' :: c :: rest => if (letter? c).isSome then skipString? rest else none
  | c :: rest => if c.toNat < 0x20 then none else skipString? rest
  | [] => none

def isDigit (c : Char) : Bool :=
  '0' ≤ c && c ≤ '9'

/-- Passes over one or more digits. -/
def skipDigits? : List Char → Option (List Char)
  | c :: rest => if isDigit c then some (rest.dropWhile isDigit) else none
  | [] => none

/-- A number's digits before the point: more than one only if the first is not zero. -/
def skipWhole? : List Char → Option (List Char)
  | ['0'] => some []
  | '0' :: c :: rest => if isDigit c then none else some (c :: rest)
  | text => skipDigits? text

def skipFraction? : List Char → Option (List Char)
  | '.' :: rest => skipDigits? rest
  | text => some text

def skipSign : List Char → List Char
  | '+' :: rest => rest
  | '-' :: rest => rest
  | text => text

def skipExponent? : List Char → Option (List Char)
  | 'e' :: rest => skipDigits? (skipSign rest)
  | 'E' :: rest => skipDigits? (skipSign rest)
  | text => some text

def skipNumber? (text : List Char) : Option (List Char) := do
  let unsigned := match text with
    | '-' :: rest => rest
    | text => text
  skipExponent? (← skipFraction? (← skipWhole? unsigned))

/-- Passes over a value without parts. -/
def skipScalar? : List Char → Option (List Char)
  | '"' :: rest => skipString? rest
  | 't' :: 'r' :: 'u' :: 'e' :: rest => some rest
  | 'f' :: 'a' :: 'l' :: 's' :: 'e' :: rest => some rest
  | 'n' :: 'u' :: 'l' :: 'l' :: rest => some rest
  | text => skipNumber? text

/-- Passes over the key of a member and the colon behind it. -/
def skipKey? (text : List Char) : Option (List Char) := do
  match skipBlanks text with
  | '"' :: rest =>
      match skipBlanks (← skipString? rest) with
      | ':' :: rest => return rest
      | _ => none
  | _ => none

/-- A value that has been opened and not yet closed. -/
inductive Frame
  | array
  | object
  deriving Repr, DecidableEq

/-- Where a text stands among open values: before a value or behind one. -/
inductive Place
  | before
  | behind
  deriving Repr, DecidableEq

/-- One step past a value or a bracket, with what is then open and where the text then stands. -/
def skipStep? (stack : List Frame) (place : Place) (text : List Char) :
    Option (List Frame × Place × List Char) :=
  match place with
  | .before =>
      match skipBlanks text with
      | '[' :: rest =>
          match skipBlanks rest with
          | ']' :: rest => some (stack, .behind, rest)
          | rest => some (.array :: stack, .before, rest)
      | '\x7b' :: rest =>
          match skipBlanks rest with
          | '\x7d' :: rest => some (stack, .behind, rest)
          | rest => (skipKey? rest).map (.object :: stack, .before, ·)
      | rest => (skipScalar? rest).map (stack, .behind, ·)
  | .behind =>
      match stack, skipBlanks text with
      | .array :: _, ',' :: rest => some (stack, .before, rest)
      | .array :: stack, ']' :: rest => some (stack, .behind, rest)
      | .object :: _, ',' :: rest => (skipKey? rest).map (stack, .before, ·)
      | .object :: stack, '\x7d' :: rest => some (stack, .behind, rest)
      | _, _ => none

def skipWithin : Nat → List Frame → Place → List Char → Option (List Char)
  | _, [], .behind, text => some text
  | 0, _, _, _ => none
  | steps + 1, stack, place, text => do
      let (stack, place, rest) ← skipStep? stack place text
      skipWithin steps stack place rest

/-- Passes over a value; each step takes at least one character. -/
def skipValue? (text : List Char) : Option (List Char) :=
  skipWithin text.length [] .before text

end VirtualTerminal.Json
