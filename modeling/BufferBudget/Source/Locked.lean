import BufferBudget.Source

/-!
# Locked sources

A locked source makes every call to the source below while it holds a lock, so
that a stack that is not safe to share becomes so.
-/

namespace BufferBudget

namespace Locked

/-- A source that serves one call at a time. -/
def source (lock : Nat) (below : Source) : Source where
  available := below.available
  readLocks := fun world => .acquired (.layer lock) :: below.readLocks world ++
    [.released (.layer lock)]
  allocate := fun requested minimal =>
    Operation.holding (.layer lock) (below.allocate requested minimal)
  resize := fun requested minimal =>
    Resizing.holding (.layer lock) (below.resize requested minimal)
  free := fun size => Operation.holding (.layer lock) (below.free size)

end Locked

end BufferBudget
