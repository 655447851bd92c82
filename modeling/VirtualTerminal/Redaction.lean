import VirtualTerminal.Text.Clip

/-!
How typed text is shown in the trace of a session.
-/

namespace VirtualTerminal

structure Redaction where
  showInput : Bool := false
  /-- The most UTF-8 bytes that are shown of one text. -/
  maxBytes : Nat := 200
  deriving Repr, DecidableEq, Inhabited

namespace Redaction

/-- A text that is too long is cut after a whole character and the rest is counted in bytes. -/
def clip (maxBytes : Nat) (text : String) : String :=
  let all := text.toList
  if Text.byteSize all ≤ maxBytes then text
  else
    let shown := Text.headWithin maxBytes all
    String.ofList shown ++ "...[truncated " ++
      toString (Text.byteSize all - Text.byteSize shown) ++ " bytes]"

def apply (redaction : Redaction) (text : String) : String :=
  if redaction.showInput then clip redaction.maxBytes text else "[hidden]"

end Redaction

end VirtualTerminal
