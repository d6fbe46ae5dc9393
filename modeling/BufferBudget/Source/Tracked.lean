import BufferBudget.Operation.Charging
import BufferBudget.Source

/-!
# Tracked sources

A tracked source charges a tracker and its ancestors before it asks the source
below, and asks it for exactly what was charged.  It tries the whole request
first and then the least accepted.  An enforcing source gives up an attempt
that the limits do not admit; any other forces the charge past them.
-/

namespace BufferBudget

namespace Tracked

/-- The sizes to try, the larger first. -/
def targets (requested minimal : Nat) : List Nat :=
  if minimal = requested then [requested] else [requested, minimal]

/-- Charges a size, and says whether the attempt may go on. -/
def charge (lineage : Lineage) (enforcing : Bool) (size : Nat) :
    Operation Bool := do
  let bytes := Amount.ofSize size
  if ← Charging.tryConsume lineage bytes then
    return true
  if enforcing then
    return false
  Charging.consume lineage bytes
  return true

/-- Gives a size back; nothing is given back for no bytes. -/
def discharge (lineage : Lineage) (size : Nat) : Operation Unit :=
  if 0 < size then Charging.release lineage (Amount.ofSize size) else return ()

/-- Tries the sizes of a list one after the other. -/
def allocateFirst (lineage : Lineage) (enforcing : Bool) (below : Source) :
    List Nat → Operation (Option Contents)
  | [] => return none
  | target :: rest => do
      if ← charge lineage enforcing target then
        match ← below.allocate target target with
        | some contents => return some contents
        | none =>
            discharge lineage target
            allocateFirst lineage enforcing below rest
      else
        allocateFirst lineage enforcing below rest

/--
Cuts a buffer to a size no larger than its own, and gives the difference back.
-/
def shrinkTo (lineage : Lineage) (below : Source) (old target : Nat) :
    Resizing Bool := do
  if ← below.resize target target then
    let surplus ← Operation.ofExcept (Size.sub old (← Resizing.size))
    discharge lineage surplus
    return true
  else
    return false

/--
Charges the growth of a buffer, and resizes it if the charge goes through.
-/
def growTo
    (lineage : Lineage)
    (enforcing : Bool)
    (below : Source)
    (old target : Nat) : Resizing Bool := do
  let growth ← Operation.ofExcept (Size.sub target old)
  if ← charge lineage enforcing growth then
    if ← below.resize target target then
      return true
    else
      discharge lineage growth
      return false
  else
    return false

/-- Tries one size on a buffer of size `old`. -/
def resizeTo
    (lineage : Lineage)
    (enforcing : Bool)
    (below : Source)
    (old target : Nat) : Resizing Bool :=
  if target ≤ old then
    shrinkTo lineage below old target
  else
    growTo lineage enforcing below old target

/-- Tries the sizes of a list one after the other on a buffer of size `old`. -/
def resizeFirst
    (lineage : Lineage)
    (enforcing : Bool)
    (below : Source)
    (old : Nat) : List Nat → Resizing Bool
  | [] => return false
  | target :: rest => do
      if ← resizeTo lineage enforcing below old target then
        return true
      else
        resizeFirst lineage enforcing below old rest

/-- What the limits leave, for an enforcing source; any other has no bound. -/
def available (lineage : Lineage) (enforcing : Bool) (world : World) :
    Except Fault Nat :=
  if enforcing then do
    return (← Charging.spare world lineage).toNat
  else
    .ok Size.limit

/-- A source whose sizes are charged to a tracker. -/
def source (lineage : Lineage) (enforcing : Bool) (below : Source) :
    Source where
  available := available lineage enforcing
  readLocks := fun _ => []
  allocate := fun requested minimal =>
    allocateFirst lineage enforcing below (targets requested minimal)
  resize := fun requested minimal => do
    resizeFirst lineage enforcing below (← Resizing.size)
      (targets requested minimal)
  free := fun size => do
    below.free size
    discharge lineage size

end Tracked

end BufferBudget
