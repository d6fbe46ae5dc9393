import BufferBudget.Source.Mediated

/-!
# Guaranteed sources

A guaranteed source never shortens a request: it has a quota of its own, and
grants a request in full or refuses it, whatever is the least accepted.  A
resize is judged by the growth alone.
-/

namespace BufferBudget

namespace Guaranteed

/-- What is left of the guaranteed amount. -/
def available (mediator amount : Nat) (world : World) : Nat :=
  amount - Mediation.usage world mediator

/-- What is left, read in the course of an operation. -/
def readAvailable (mediator amount : Nat) : Operation Nat := do
  let world ← get
  Operation.noteAll (Mediation.readLocks world mediator)
  return available mediator amount world

/-- Asks for the whole request if it is left. -/
def allocate (mediator amount : Nat) (below : Source) (requested : Nat) :
    Operation (Option Contents) := do
  if (← readAvailable mediator amount) < requested then
    return none
  else
    Mediated.allocate mediator below requested requested

/-- Resizes to the whole request if the growth is left. -/
def resize (mediator amount : Nat) (below : Source) (requested : Nat) :
    Resizing Bool := do
  let old ← Resizing.size
  if old < requested then
    if (← readAvailable mediator amount) < requested - old then
      return false
  Mediated.resize mediator below requested requested

/-- A source that grants in full or not at all from a quota of its own. -/
def source (mediator amount : Nat) (below : Source) : Source where
  available := fun world => .ok (available mediator amount world)
  readLocks := fun world => Mediation.readLocks world mediator
  allocate := fun requested _ => allocate mediator amount below requested
  resize := fun requested _ => resize mediator amount below requested
  free := Mediated.free mediator below

end Guaranteed

end BufferBudget
