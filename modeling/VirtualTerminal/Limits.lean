/-!
Bounds on what one submitted line may set off, and the meter that is read against them.
-/

namespace VirtualTerminal

structure Limits where
  /-- How deep scripts may be nested. -/
  depth : Nat := 16
  /-- How many commands one line may start, those of the scripts it plays included. -/
  commands : Nat := 10000
  deriving Repr, DecidableEq, Inhabited

inductive LimitError
  | commands (max : Nat)
  | depth (max : Nat)
  deriving Repr, DecidableEq

def LimitError.message : LimitError → String
  | .commands max => "maximum command count exceeded (" ++ toString max ++ ")"
  | .depth max => "maximum script depth exceeded (" ++ toString max ++ ")"

structure Meter where
  /-- Commands counted since the last line that was not part of a script. -/
  commands : Nat := 0
  /-- Nested scripts that are open. -/
  depth : Nat := 0
  deriving Repr, DecidableEq, Inhabited

namespace Meter

def reset (meter : Meter) : Meter :=
  { meter with commands := 0 }

/-- Outside nested scripts a line has all its commands still to spend. -/
def atLine (meter : Meter) : Meter :=
  if meter.depth = 0 then meter.reset else meter

/-- Counts one command, whether or not it is still allowed. -/
def count (meter : Meter) : Meter :=
  { meter with commands := meter.commands + 1 }

def deeper (meter : Meter) : Meter :=
  { meter with depth := meter.depth + 1 }

def shallower (meter : Meter) : Meter :=
  { meter with depth := meter.depth - 1 }

/-- The limit that the commands counted so far have passed. -/
def commandError? (meter : Meter) (limits : Limits) : Option LimitError :=
  if limits.commands < meter.commands then some (.commands limits.commands) else none

/-- The limit that stands in the way of opening one more script. -/
def depthError? (meter : Meter) (limits : Limits) : Option LimitError :=
  if limits.depth ≤ meter.depth then some (.depth limits.depth) else none

variable {meter : Meter} {limits : Limits}

@[simp]
theorem shallower_deeper : meter.deeper.shallower = meter := rfl

@[simp]
theorem depth_count : meter.count.depth = meter.depth := rfl

@[simp]
theorem depth_reset : meter.reset.depth = meter.depth := rfl

@[simp]
theorem depth_atLine : meter.atLine.depth = meter.depth := by
  unfold atLine
  split <;> rfl

@[simp]
theorem atLine_atLine : meter.atLine.atLine = meter.atLine := by
  unfold atLine
  split <;> simp [*, reset]

theorem commandError?_eq_none_iff :
    meter.commandError? limits = none ↔ meter.commands ≤ limits.commands := by
  simp [commandError?]

theorem depthError?_eq_none_iff :
    meter.depthError? limits = none ↔ meter.depth < limits.depth := by
  simp [depthError?]

end Meter

end VirtualTerminal
