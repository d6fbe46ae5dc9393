import BufferBudget.Operation.Mediation
import BufferBudget.Source

/-!
# Mediated sources

A mediated source charges every size to a mediator before it asks the source
below, which is asked for no more than the grant.  What the source below does
not use of a grant goes back.  Only growth needs a grant: a buffer that keeps
its size or shrinks is resized below, and the difference goes back.
-/

namespace BufferBudget

namespace Mediated

/-- Asks for the grant, then for the memory. -/
def allocate (mediator : Nat) (below : Source) (requested minimal : Nat) :
    Operation (Option Contents) := do
  match ← Mediation.grant mediator requested minimal with
  | none => return none
  | some granted =>
      match ← below.allocate granted minimal with
      | none =>
          Mediation.free mediator granted
          return none
      | some contents =>
          if contents.size < granted then
            Mediation.free mediator
              (← Operation.ofExcept (Size.sub granted contents.size))
          return some contents

/-- Resizes below without a grant, and gives back what the buffer has lost. -/
def shrink (mediator : Nat) (below : Source) (requested minimal : Nat) :
    Resizing Bool := do
  let old ← Resizing.size
  if ← below.resize requested minimal then
    let surplus ← Operation.ofExcept (Size.sub old (← Resizing.size))
    Mediation.free mediator surplus
    return true
  else
    return false

/--
Asks for the growth, resizes below within the grant, and gives back what the
buffer has not used of it.  The source below may settle under the old size where
that is accepted.
-/
def grow (mediator : Nat) (below : Source) (requested minimal : Nat) :
    Resizing Bool := do
  let old ← Resizing.size
  let growth ← Operation.ofExcept (Size.sub requested old)
  match ← Mediation.grant mediator growth (minimal - old) with
  | none => return false
  | some granted =>
      let target ← Operation.ofExcept (Size.add old granted)
      if ← below.resize target minimal then
        let new ← Resizing.size
        if target < new then
          throw .growthAboveGrant
        let surplus ← Operation.ofExcept (Size.sub target new)
        Mediation.free mediator surplus
        return true
      else
        Mediation.free mediator granted
        return false

/-- Resizes a buffer, with a grant where it is to grow. -/
def resize (mediator : Nat) (below : Source) (requested minimal : Nat) :
    Resizing Bool := do
  if requested ≤ (← Resizing.size) then
    shrink mediator below requested minimal
  else
    grow mediator below requested minimal

/-- Gives the size back to the mediator, then the buffer to the source below. -/
def free (mediator : Nat) (below : Source) (size : Nat) : Operation Unit := do
  Mediation.free mediator size
  below.free size

/-- The lesser of what the source below and the mediator have left. -/
def available (mediator : Nat) (below : Source) (world : World) :
    Except Fault Nat := do
  return min (← below.available world) (Mediation.available world mediator)

/-- The locks of the source below, then that of the mediator. -/
def readLocks (mediator : Nat) (below : Source) (world : World) : List Event :=
  below.readLocks world ++ Mediation.readLocks world mediator

/-- A source whose sizes are charged to a mediator. -/
def source (mediator : Nat) (below : Source) : Source where
  available := available mediator below
  readLocks := readLocks mediator below
  allocate := allocate mediator below
  resize := resize mediator below
  free := free mediator below

end Mediated

end BufferBudget
