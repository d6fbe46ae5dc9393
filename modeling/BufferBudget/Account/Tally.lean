import BufferBudget.Size

/-!
# Tallies

A tally is a running total of what allocators report: bytes granted, bytes
refused, bytes given back, and how often each happened.  Its counters keep the
remainder past the largest size.
-/

namespace BufferBudget

/-- Running totals of grants, refusals and releases. -/
structure Tally where
  allocatedBytes : Nat
  refusedBytes : Nat
  freedBytes : Nat
  allocations : Nat
  refusals : Nat
  frees : Nat
deriving DecidableEq, Repr

namespace Tally

/-- Nothing reported yet. -/
def zero : Tally :=
  ⟨0, 0, 0, 0, 0, 0⟩

/-- Reports a grant. -/
def allocated (tally : Tally) (bytes : Nat) : Tally :=
  { tally with
    allocatedBytes := Size.wrap (tally.allocatedBytes + bytes)
    allocations := Size.wrap (tally.allocations + 1) }

/-- Reports a refused request for at least `bytes`. -/
def refused (tally : Tally) (bytes : Nat) : Tally :=
  { tally with
    refusedBytes := Size.wrap (tally.refusedBytes + bytes)
    refusals := Size.wrap (tally.refusals + 1) }

/-- Reports a release. -/
def freed (tally : Tally) (bytes : Nat) : Tally :=
  { tally with
    freedBytes := Size.wrap (tally.freedBytes + bytes)
    frees := Size.wrap (tally.frees + 1) }

/-- Bytes granted and not yet given back. -/
def outstanding (tally : Tally) : Nat :=
  tally.allocatedBytes - tally.freedBytes

end Tally

end BufferBudget
