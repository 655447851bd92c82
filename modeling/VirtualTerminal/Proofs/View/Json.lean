import Mathlib.Data.List.TakeWhile
import VirtualTerminal.Console.Batch

/-!
# Views read back

However a view is spaced when it is written as an object, it is read as itself.  The compact and the
pretty form differ in nothing but their spacing.
-/

namespace VirtualTerminal

open Json

theorem Json.skipBlanks_append {blanks : List Char} (blank : skipBlanks blanks = [])
    (rest : List Char) : skipBlanks (blanks ++ rest) = skipBlanks rest :=
  List.dropWhile_append_of_pos (List.dropWhile_eq_nil_iff.mp blank)

/-- A literal starts with its quote, not with white space. -/
theorem Json.skipBlanks_encode (text : String) (rest : List Char) :
    skipBlanks ((encode text).toList ++ rest) = (encode text).toList ++ rest := by
  simp [encode, skipBlanks]

namespace View

theorem stringValue?_encode {blanks : List Char} (blank : skipBlanks blanks = [])
    (text : String) (rest : List Char) :
    stringValue? (blanks ++ ((encode text).toList ++ rest)) = some (text, rest) := by
  rw [stringValue?, skipBlanks_append blank, skipBlanks_encode, string?_encode]
  simp

/-- How the white space lies in a written view. -/
structure Spacing where
  beforeKey : List Char := []
  beforeValue : List Char := []
  beforeEnd : List Char := []
  deriving Repr, DecidableEq

/-- There is nothing but white space in the spacing. -/
structure Spacing.IsBlank (spacing : Spacing) : Prop where
  beforeKey : skipBlanks spacing.beforeKey = []
  beforeValue : skipBlanks spacing.beforeValue = []
  beforeEnd : skipBlanks spacing.beforeEnd = []

def compactSpacing : Spacing := {}

/-- A member a line, two spaces from its start. -/
def prettySpacing : Spacing where
  beforeKey := ['\n', ' ', ' ']
  beforeValue := [' ']
  beforeEnd := ['\n']

theorem isBlank_compactSpacing : compactSpacing.IsBlank :=
  ⟨rfl, rfl, rfl⟩

theorem isBlank_prettySpacing : prettySpacing.IsBlank :=
  ⟨rfl, rfl, rfl⟩

/-- A member as it is written behind its white space, before more text. -/
def writeMember (spacing : Spacing) (key value : String) (rest : List Char) : List Char :=
  (encode key).toList ++ ':' :: (spacing.beforeValue ++ ((encode value).toList ++ rest))

/-- A view as it is written, before more text. -/
def write (spacing : Spacing) (view : View) (rest : List Char) : List Char :=
  '\x7b' :: (spacing.beforeKey ++ writeMember spacing "lines" view.lines
    (',' :: (spacing.beforeKey ++ writeMember spacing "prompt" view.prompt
      (',' :: (spacing.beforeKey ++ writeMember spacing "input" view.input
        (spacing.beforeEnd ++ '\x7d' :: rest))))))

/-- In the keys nothing is escaped. -/
theorem encode_keys :
    encode "lines" = "\"lines\"" ∧ encode "prompt" = "\"prompt\"" ∧
      encode "input" = "\"input\"" := by
  decide +kernel

theorem toList_toJson (view : View) : view.toJson.toList = view.write compactSpacing [] := by
  obtain ⟨lines, prompt, input⟩ := encode_keys
  delta toJson write
  simp only [writeMember, compactSpacing, lines, prompt, input, String.toList_append]
  simp only [String.reduceToList, List.cons_append, List.nil_append, List.append_assoc]

theorem toList_toPrettyJson (view : View) :
    view.toPrettyJson.toList = view.write prettySpacing [] := by
  obtain ⟨lines, prompt, input⟩ := encode_keys
  delta toPrettyJson write
  simp only [writeMember, prettySpacing, lines, prompt, input, String.toList_append]
  simp only [String.reduceToList, List.cons_append, List.nil_append, List.append_assoc]

theorem write_append (spacing : Spacing) (view : View) (rest more : List Char) :
    view.write spacing rest ++ more = view.write spacing (rest ++ more) := by
  simp [write, writeMember]

theorem toList_toPrettyJson_append (view : View) (text : String) :
    (view.toPrettyJson ++ text).toList = view.write prettySpacing text.toList := by
  rw [String.toList_append, toList_toPrettyJson, write_append, List.nil_append]

/-- The member of a key, if it has been read. -/
def Members.get? (members : Members) (key : String) : Option String :=
  if key = "lines" then members.lines
  else if key = "prompt" then members.prompt
  else if key = "input" then members.input
  else none

def Members.put (members : Members) (key value : String) : Members :=
  if key = "lines" then { members with lines := value }
  else if key = "prompt" then { members with prompt := value }
  else if key = "input" then { members with input := value }
  else members

variable {spacing : Spacing} {members : Members} {key : String}

theorem member?_writeMember (blank : spacing.IsBlank) {blanks : List Char}
    (before : skipBlanks blanks = []) (known : key ∈ ["lines", "prompt", "input"])
    (absent : members.get? key = none) (value : String) (rest : List Char) :
    member? members (blanks ++ writeMember spacing key value rest) =
      some (members.put key value, rest) := by
  have colon : ∀ text, skipMark? ':' (':' :: text) = some text := fun _ => rfl
  have valued := stringValue?_encode blank.beforeValue value rest
  rw [member?, writeMember, stringValue?_encode before]
  simp only [List.mem_cons, List.not_mem_nil, or_false] at known
  rcases known with rfl | rfl | rfl
  all_goals
    simp only [Members.get?, String.reduceEq, if_false, if_true] at absent
    simp [colon, firstValue?, absent, valued, Members.put]

/-- A member is read from a list that goes on behind it. -/
theorem membersWithin_writeMember_comma (blank : spacing.IsBlank) {blanks : List Char}
    (before : skipBlanks blanks = []) (known : key ∈ ["lines", "prompt", "input"])
    (absent : members.get? key = none) (value : String) (count : Nat) (rest : List Char) :
    membersWithin (count + 1) members (blanks ++ writeMember spacing key value (',' :: rest)) =
      membersWithin count (members.put key value) rest := by
  rw [membersWithin, member?_writeMember blank before known absent]
  rfl

/-- A member is read from the end of the list. -/
theorem membersWithin_writeMember_brace (blank : spacing.IsBlank) {blanks : List Char}
    (before : skipBlanks blanks = []) (known : key ∈ ["lines", "prompt", "input"])
    (absent : members.get? key = none) (value : String) (count : Nat) (rest : List Char) :
    membersWithin (count + 1) members
        (blanks ++ writeMember spacing key value (spacing.beforeEnd ++ '\x7d' :: rest)) =
      some (members.put key value, rest) := by
  rw [membersWithin, member?_writeMember blank before known absent]
  simp only [Option.bind_eq_bind, Option.bind_some, skipBlanks_append blank.beforeEnd]
  rfl

/-- A written member starts with the quote of its key and has room for more than two members. -/
theorem writeMember_shape (spacing : Spacing) (key value : String) (rest : List Char) :
    (∃ tail, writeMember spacing key value rest = '"' :: tail) ∧
      ∃ count, (writeMember spacing key value rest).length = count + 3 := by
  constructor
  · simp [writeMember, encode]
  · exact Nat.exists_eq_add_of_le' (by simp [writeMember, encode]; omega)

/-- The members of an object are read if the first starts with a quote. -/
theorem object?_of_quote {text tail rest : List Char} {view : View}
    (starts : skipBlanks text = '"' :: tail)
    (members : membersWithin ('"' :: tail).length {} ('"' :: tail) =
      some ({ lines := view.lines, prompt := view.prompt, input := view.input }, rest)) :
    object? text = some (view, rest) := by
  rw [object?, starts]
  exact (congrArg (Option.bind · _) members).trans rfl

/-- What is written behind the opening brace is read as the object. -/
theorem object?_write (blank : spacing.IsBlank) (view : View) (rest : List Char) :
    ∃ text, view.write spacing rest = '\x7b' :: text ∧ object? text = some (view, rest) := by
  refine ⟨_, rfl, ?_⟩
  generalize written : writeMember spacing "lines" view.lines _ = text
  obtain ⟨⟨tail, quoted⟩, count, long⟩ := written ▸ writeMember_shape spacing "lines" view.lines _
  rw [quoted] at written long
  have starts : skipBlanks (spacing.beforeKey ++ text) = '"' :: tail := by
    rw [skipBlanks_append blank.beforeKey, quoted]
    rfl
  apply object?_of_quote starts
  rw [long, ← written, ← List.nil_append (writeMember _ _ _ _),
    membersWithin_writeMember_comma blank rfl (by decide) rfl,
    membersWithin_writeMember_comma blank blank.beforeKey (by decide) rfl,
    membersWithin_writeMember_brace blank blank.beforeKey (by decide) rfl]
  rfl

/-- A view is read back whatever white space it was written with and whatever follows it. -/
theorem ofJson?_of_written {json : String} {view : View} (blank : spacing.IsBlank)
    (rest : List Char) (blankRest : skipBlanks rest = [])
    (written : json.toList = view.write spacing rest) : ofJson? json = some view := by
  obtain ⟨text, opened, read⟩ := object?_write blank view rest
  have brace : skipBlanks json.toList = '\x7b' :: text := by
    rw [written, opened]
    rfl
  rw [ofJson?, brace]
  simp [read, blankRest]

/-- Every view is read back from its compact form and from its pretty form.  What a batch prints as
JSON at its end, behind the lines of its redirections, is read as the view of its session. -/
theorem every_form_reads_back (view : View) :
    ofJson? view.toJson = some view ∧ ofJson? view.toPrettyJson = some view ∧
      ∀ progress : Console.Progress, ∃ printed,
        (progress.finish true).output = Console.printCalls progress.journal ++ printed ∧
        ofJson? printed = some progress.session.view := by
  refine ⟨?_, ?_, fun progress => ⟨progress.session.view.toPrettyJson ++ "\n", rfl, ?_⟩⟩
  · exact ofJson?_of_written isBlank_compactSpacing [] rfl view.toList_toJson
  · exact ofJson?_of_written isBlank_prettySpacing [] rfl view.toList_toPrettyJson
  · exact ofJson?_of_written isBlank_prettySpacing "\n".toList (by simp [skipBlanks])
      (toList_toPrettyJson_append _ "\n")

end View

end VirtualTerminal
