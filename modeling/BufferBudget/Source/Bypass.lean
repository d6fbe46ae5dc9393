import BufferBudget.Source.Mediated

/-!
# Bypassing a soft quota

Past its ceiling a soft quota grants only the least that a request accepts,
which would leave a caller with many small buffers.  A bypass counts what goes
through it on an unlimited quota of its own, and as long as the count is below
its amount it asks for more: first with the least accepted raised to what is
available within the amount, then as the caller asked.
-/

namespace BufferBudget

namespace Bypass

/--
What is left of the amount, or what the counting source below it has left,
if that is more.
-/
def available (mediator amount : Nat) (below : Source) (world : World) :
    Except Fault Nat := do
  let usage := Mediation.usage world mediator
  let rest ← Mediated.available mediator below world
  return if usage < amount then max rest (amount - usage) else rest

/-- The locks taken to read the count, and those of the counting source. -/
def readLocks (mediator : Nat) (below : Source) (world : World) : List Event :=
  Mediation.readLocks world mediator ++ Mediated.readLocks mediator below world

/-- The least accepted in the first attempt. -/
def raiseMinimal (requested minimal available : Nat) : Nat :=
  min requested (max minimal available)

theorem raiseMinimal_le (requested minimal available : Nat) :
    raiseMinimal requested minimal available ≤ requested :=
  Nat.min_le_left _ _

theorem le_raiseMinimal
    {requested minimal : Nat}
    (accepted : minimal ≤ requested)
    (available : Nat) :
    minimal ≤ raiseMinimal requested minimal available :=
  Nat.le_min.mpr ⟨accepted, Nat.le_max_left _ _⟩

/-- What is available, read in the course of an operation. -/
def readAvailable (mediator amount : Nat) (below : Source) : Operation Nat := do
  let world ← get
  Operation.noteAll (readLocks mediator below world)
  Operation.ofExcept (available mediator amount below world)

/--
Asks with the least accepted raised, and if that is refused as the caller asked.
-/
def allocate
    (mediator amount : Nat)
    (below : Source)
    (requested minimal : Nat) : Operation (Option Contents) := do
  let raised :=
    raiseMinimal requested minimal (← readAvailable mediator amount below)
  match ← Mediated.allocate mediator below requested raised with
  | some contents => return some contents
  | none => Mediated.allocate mediator below requested minimal

/--
Resizes with the least accepted raised, and if that is refused as
the caller asked.
-/
def resize (mediator amount : Nat) (below : Source) (requested minimal : Nat) :
    Resizing Bool := do
  let raised :=
    raiseMinimal requested minimal (← readAvailable mediator amount below)
  if ← Mediated.resize mediator below requested raised then
    return true
  else
    Mediated.resize mediator below requested minimal

/-- A source that bypasses soft quotas below it up to an amount. -/
def source (mediator amount : Nat) (below : Source) : Source where
  available := available mediator amount below
  readLocks := readLocks mediator below
  allocate := allocate mediator amount below
  resize := resize mediator amount below
  free := Mediated.free mediator below

end Bypass

end BufferBudget
