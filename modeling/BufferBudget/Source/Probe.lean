import BufferBudget.Source

/-!
# Probes

A probe counts the requests that are made through it, refuses those that its
screen does not admit, and passes the others on, lowered to the cap of the
screen.  It reports no bound.
-/

namespace BufferBudget

namespace Probe

/-- Counts a request, and says whether the screen admits it. -/
def count (probe : Nat) (screen : Screen) : Operation Bool := do
  let call := (← get).probes.entry probe
  modify fun world => world.countProbe probe
  return screen.admits call

/-- A source that refuses some requests and lowers others. -/
def source (probe : Nat) (screen : Screen) (below : Source) : Source where
  available := fun _ => .ok Size.limit
  readLocks := fun _ => []
  allocate := fun requested minimal => do
    if ← count probe screen then
      below.allocate (screen.lower requested minimal) minimal
    else
      return none
  resize := fun requested minimal => do
    if ← count probe screen then
      below.resize (screen.lower requested minimal) minimal
    else
      return false
  free := below.free

end Probe

end BufferBudget
