import BufferBudget.Operation

/-!
# Charging trackers

The operations on the trackers of a world.  A charge is recorded on a tracker
and on each of its ancestors; one that some limit does not admit is taken back
from those that had already accepted it.

Sums outside the range of amounts are faults, but they are noticed only after
the counter has been written.  A tracker with a limit saturates the sum before
the comparison, and stores what it compared.
-/

namespace BufferBudget

namespace Charging

/-- Tells the operator where a tracker stands. -/
def report (tracker : Nat) (consumption : Int) : Operation Unit := do
  let account := (← get).trackers.entry tracker
  Operation.emit [.trackerUsage account.label consumption account.peak]

/-- Records a consumption that a tracker has reached. -/
def reach (tracker : Nat) (consumption : Int) : Operation Unit := do
  modify fun world =>
    world.setTracker tracker ((world.trackers.entry tracker).reach consumption)
  report tracker consumption

/-- Adds to one tracker, whatever its limit. -/
def add (bytes : Int) (tracker : Nat) : Operation Unit := do
  let account := (← get).trackers.entry tracker
  let consumption := account.consumption + bytes
  Operation.note (.weighed tracker consumption)
  modify fun world => world.setTracker tracker (account.store consumption)
  if Amount.InRange consumption then
    reach tracker consumption
  else
    throw .amountAdditionOverflow

/-- Takes from one tracker. -/
def subtract (bytes : Int) (tracker : Nat) : Operation Unit := do
  let account := (← get).trackers.entry tracker
  let consumption := account.consumption - bytes
  modify fun world => world.setTracker tracker (account.store consumption)
  if Amount.InRange consumption then
    report tracker consumption
  else
    throw .amountSubtractionOverflow

/-- Adds to one tracker unless its own limit forbids it. -/
def tryAdd (bytes : Int) (tracker : Nat) : Operation Bool := do
  let account := (← get).trackers.entry tracker
  if account.limit.isNone then
    add bytes tracker
    return true
  Operation.note (.weighed tracker (account.consumption + bytes))
  if !account.admits bytes then
    return false
  modify fun world =>
    world.setTracker tracker (account.store (account.target bytes))
  reach tracker (account.target bytes)
  return true

/--
Adds to the trackers of a list, in order.  At the first that refuses, takes the
amount back from `accepted` and from those before it.
-/
def tryAddAll (bytes : Int) (accepted : List Nat) : List Nat → Operation Bool
  | [] => return true
  | tracker :: rest => do
      if ← tryAdd bytes tracker then
        tryAddAll bytes (accepted ++ [tracker]) rest
      else
        accepted.forM (subtract bytes)
        return false

/-- Gives an amount back to a tracker and its ancestors. -/
def releaseAll (lineage : Lineage) (bytes : Int) : Operation Unit := do
  if bytes = 0 then
    return ()
  lineage.members.forM (subtract bytes)

/--
Charges an amount if every limit admits it.  What is not positive is a release.
-/
def tryConsume (lineage : Lineage) (bytes : Int) : Operation Bool := do
  Operation.note (.tracked lineage.tracker (.tryConsume bytes))
  if bytes ≤ 0 then
    releaseAll lineage (Amount.saturate (-bytes))
    return true
  tryAddAll bytes [] lineage.members

/-- Charges an amount past any limit. -/
def consume (lineage : Lineage) (bytes : Int) : Operation Unit := do
  Operation.note (.tracked lineage.tracker (.consume bytes))
  lineage.members.forM (add bytes)

/-- Gives an amount back. -/
def release (lineage : Lineage) (bytes : Int) : Operation Unit := do
  Operation.note (.tracked lineage.tracker (.release bytes))
  releaseAll lineage bytes

/-- What one tracker leaves below its limit. -/
def headroom (tracker : Tracker) : Except Fault Int :=
  match tracker.limit with
  | none => .ok Amount.greatest
  | some limit => Amount.sub limit tracker.consumption

/-- What the limits of some trackers leave: the least of what each leaves. -/
def spareOf (trackers : Table Tracker) : List Nat → Except Fault Int
  | [] => .ok Amount.greatest
  | tracker :: rest => do
      let own ← headroom (trackers.entry tracker)
      let others ← spareOf trackers rest
      return min own others

/-- What can still be charged to a tracker before a limit refuses. -/
def spare (world : World) (lineage : Lineage) : Except Fault Int :=
  spareOf world.trackers lineage.members

end Charging

end BufferBudget
