import VirtualTerminal.Session.Request
import VirtualTerminal.View.Json

/-!
What the two ways of using the terminal from a command line share.

The console sets both handlers of the host and lets them do nothing in the session: that `exit` was
called ends the console, and a redirection is printed at once.
-/

namespace VirtualTerminal.Console

def host : Host where
  exit := some []
  redirect := some []

/-- Whether the session asked the host to end it. -/
def hasExited (journal : List Event) : Bool :=
  HostCall.exit ∈ hostCalls journal

def printCall : HostCall → String
  | .exit => ""
  | .redirect path => "redirect -> " ++ path ++ "\n"

/-- What is printed while events like these happen. -/
def printCalls (journal : List Event) : String :=
  String.join ((hostCalls journal).map printCall)

@[simp]
theorem printCalls_append (first second : List Event) :
    printCalls (first ++ second) = printCalls first ++ printCalls second := by
  simp [printCalls]

@[simp]
theorem hasExited_append (first second : List Event) :
    hasExited (first ++ second) = (hasExited first || hasExited second) := by
  simp [hasExited]

end VirtualTerminal.Console
