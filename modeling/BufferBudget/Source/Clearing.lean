import BufferBudget.Source

/-!
# Clearing sources

A clearing source hands out zeros where the source below hands out fresh bytes.
Bytes that a buffer had before it grew stay as they are.
-/

namespace BufferBudget

namespace Clearing

/-- A source whose fresh bytes are zeros. -/
def source (below : Source) : Source where
  available := below.available
  readLocks := below.readLocks
  allocate := fun requested minimal => do
    let result ← below.allocate requested minimal
    return result.map fun contents => contents.fill 0
  resize := fun requested minimal => do
    let old ← Resizing.size
    let met ← below.resize requested minimal
    if met && old < (← Resizing.size) then
      modify fun bench => { bench with contents := bench.contents.zeroFrom old }
    return met
  free := below.free

end Clearing

end BufferBudget
