import BufferBudget.Operation.Reporting
import BufferBudget.Source

/-!
# Tallied sources

A tallied source reports every grant, refusal and release to a tally.  What a
resize did is read off the sizes before and after it: growth is a grant, loss
is a release, and a refused growth is reported with the bytes that are missing.
-/

namespace BufferBudget

namespace Tallied

/-- Reports what a resize did. -/
def reportResize (tally requested old : Nat) (met : Bool) (new : Nat) :
    Operation Unit := do
  if old < new then
    Reporting.allocated tally (← Operation.ofExcept (Size.sub new old))
  else if new < old then
    Reporting.freed tally (← Operation.ofExcept (Size.sub old new))
  else if !met && new < requested then
    Reporting.refused tally (← Operation.ofExcept (Size.sub requested new))
  else
    return ()

/-- A source that reports to a tally. -/
def source (tally : Nat) (below : Source) : Source where
  available := below.available
  readLocks := below.readLocks
  allocate := fun requested minimal => do
    let result ← below.allocate requested minimal
    match result with
    | some contents => Reporting.allocated tally contents.size
    | none => Reporting.refused tally minimal
    return result
  resize := fun requested minimal => do
    let old ← Resizing.size
    let met ← below.resize requested minimal
    reportResize tally requested old met (← Resizing.size)
    return met
  free := fun size => do
    below.free size
    Reporting.freed tally size

end Tallied

end BufferBudget
