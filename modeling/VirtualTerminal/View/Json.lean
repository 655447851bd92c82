import VirtualTerminal.Json.Skip
import VirtualTerminal.View.Basic

/-!
Views as JSON.

A view is written as an object with the members `lines`, `prompt` and `input`, on one line or with
one member a line.  It is read from an object in which each of them occurs exactly once, among any
others, or from an array of the three.
-/

namespace VirtualTerminal.View

variable (view : View)

def toJson : String :=
  "\x7b\"lines\":" ++ Json.encode view.lines ++ ",\"prompt\":" ++ Json.encode view.prompt ++
    ",\"input\":" ++ Json.encode view.input ++ "\x7d"

def toPrettyJson : String :=
  "\x7b\n  \"lines\": " ++ Json.encode view.lines ++
    ",\n  \"prompt\": " ++ Json.encode view.prompt ++
    ",\n  \"input\": " ++ Json.encode view.input ++ "\n\x7d"

/-- The members of a view that have been read. -/
structure Members where
  lines : Option String := none
  prompt : Option String := none
  input : Option String := none
  deriving Repr, DecidableEq

def Members.view? (members : Members) : Option View := do
  return { lines := ← members.lines, prompt := ← members.prompt, input := ← members.input }

open Json

def stringValue? (text : List Char) : Option (String × List Char) :=
  (string? (skipBlanks text)).map fun (value, rest) => (String.ofList value, rest)

/-- What follows a mark and the white space before it. -/
def skipMark? (mark : Char) (text : List Char) : Option (List Char) :=
  match skipBlanks text with
  | c :: rest => if c = mark then some rest else none
  | [] => none

/-- Reads a member that must not have been read before. -/
def firstValue? (member : Option String) (text : List Char) : Option (String × List Char) :=
  if member.isSome then none else stringValue? text

/-- Reads a member, its key and its value, into those read before. -/
def member? (members : Members) (text : List Char) : Option (Members × List Char) := do
  let (key, rest) ← stringValue? text
  let rest ← skipMark? ':' rest
  if key = "lines" then
    let (value, rest) ← firstValue? members.lines rest
    return ({ members with lines := value }, rest)
  else if key = "prompt" then
    let (value, rest) ← firstValue? members.prompt rest
    return ({ members with prompt := value }, rest)
  else if key = "input" then
    let (value, rest) ← firstValue? members.input rest
    return ({ members with input := value }, rest)
  else return (members, ← skipValue? rest)

/-- Reads at most `count` members, up to the end of the object. -/
def membersWithin : Nat → Members → List Char → Option (Members × List Char)
  | 0, _, _ => none
  | count + 1, members, text => do
      let (members, rest) ← member? members text
      match skipBlanks rest with
      | ',' :: rest => membersWithin count members rest
      | '\x7d' :: rest => return (members, rest)
      | _ => none

/-- Reads an object behind its opening brace. -/
def object? (text : List Char) : Option (View × List Char) :=
  match skipBlanks text with
  | '\x7d' :: _ => none
  | text => do
      let (members, rest) ← membersWithin text.length {} text
      return (← members.view?, rest)

/-- Reads an array behind its opening bracket. -/
def array? (text : List Char) : Option (View × List Char) := do
  let (lines, rest) ← stringValue? text
  let (prompt, rest) ← stringValue? (← skipMark? ',' rest)
  let (input, rest) ← stringValue? (← skipMark? ',' rest)
  return ({ lines := lines, prompt := prompt, input := input }, ← skipMark? ']' rest)

def ofJson? (json : String) : Option View := do
  let (view, rest) ← match skipBlanks json.toList with
    | '\x7b' :: rest => object? rest
    | '[' :: rest => array? rest
    | _ => none
  if skipBlanks rest = [] then some view else none

end VirtualTerminal.View
