import BufferBudget.Operation

/-!
# Asking and paying back mediators

The operations on the mediators of a world: `allocate` puts a request to one,
`free` gives an amount back, and `grant` is the form in which layers ask.  A
guarded mediator is locked for the time of the access.

The owner of a mediator can move its ceiling and read its figures.  Where the
mediator is private to a layer with a lock, the owner takes that lock as well.
-/

namespace BufferBudget

namespace Mediation

/-- Takes the lock of a mediator for an operation on it, if it has one. -/
def guarding {α : Type} (mediator : Nat) (operation : Operation α) :
    Operation α := do
  if ((← get).mediators.entry mediator).guarded then
    Operation.holding (.mediator mediator) operation
  else
    operation

/--
Takes the lock of the layer that a mediator is kept behind, if it is kept behind
one.  The owner of such a mediator reaches it in no other way; the layer itself
holds the lock when it asks.
-/
def entering {α : Type} (mediator : Nat) (operation : Operation α) :
    Operation α := do
  match (← get).gates.entry mediator with
  | some lock => Operation.holding (.layer lock) operation
  | none => operation

/-- Puts a request to a mediator, which answers with what it grants. -/
def allocate (mediator requested minimal : Nat) : Operation Nat :=
  guarding mediator do
    let account := (← get).mediators.entry mediator
    let (granted, next) ← Operation.ofExcept
      (account.allocate requested minimal)
    Operation.emit (account.allocateDiagnostics requested minimal)
    modify fun world => world.setMediator mediator next
    Operation.note (.mediated mediator (.allocated requested minimal granted))
    return granted

/-- Gives an amount back to a mediator. -/
def free (mediator amount : Nat) : Operation Unit :=
  guarding mediator do
    let account := (← get).mediators.entry mediator
    Operation.emit (account.freeDiagnostics amount)
    modify fun world => world.setMediator mediator (account.free amount)
    Operation.note (.mediated mediator (.freed amount))

/-- Moves the ceiling of a mediator, as its owner does. -/
def setCeiling (mediator ceiling : Nat) : Operation Unit :=
  entering mediator <| guarding mediator do
    let account := (← get).mediators.entry mediator
    modify fun world => world.setMediator mediator (account.setCeiling ceiling)

/-- Reads a figure of a mediator that changes, as its owner does. -/
def inspect (mediator : Nat) (figure : Mediator → Nat) : Operation Nat :=
  entering mediator <| guarding mediator do
    return figure ((← get).mediators.entry mediator)

/--
Whether a mediator denies requests past its ceiling for good.  This never
changes, so that the mediator's own lock is not needed to read it.
-/
def isEnforced (mediator : Nat) : Operation Bool :=
  entering mediator do
    return ((← get).mediators.entry mediator).enforced

/--
Asks a mediator for at least `minimal`.  An empty request needs no grant.  A
grant that is too small goes back, and the request is denied.
-/
def grant (mediator requested minimal : Nat) : Operation (Option Nat) := do
  if requested = 0 then
    return some 0
  let granted ← allocate mediator requested minimal
  if minimal ≤ granted then
    return some granted
  if 0 < granted then
    free mediator granted
  return none

/-- The budget that a mediator reports. -/
def available (world : World) (mediator : Nat) : Nat :=
  (world.mediators.entry mediator).available

/-- What has been granted by a mediator and not given back. -/
def usage (world : World) (mediator : Nat) : Nat :=
  (world.mediators.entry mediator).usage

/-- The locks taken, one after the other, to read a mediator. -/
def readLocks (world : World) (mediator : Nat) : List Event :=
  if (world.mediators.entry mediator).guarded then
    [.acquired (.mediator mediator), .released (.mediator mediator)]
  else
    []

end Mediation

end BufferBudget
