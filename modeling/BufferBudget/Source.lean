import BufferBudget.Resizing

/-!
# Sources of memory

A source is what a layer sees of the stack below it: how much is available, and
the three calls by which memory is had, resized and given back.  A call names
what is requested and the least that is accepted.

`noting` is the source whose calls are noted on the trail with their outcomes.
A call that stops at a fault is not noted.
-/

namespace BufferBudget

/-- Something that memory can be had from. -/
structure Source where
  /-- How much the source reports to have left. -/
  available : World → Except Fault Nat
  /-- The locks taken and let go of to find out how much is left. -/
  readLocks : World → List Event
  /-- Fresh contents for a buffer, or a refusal. -/
  allocate (requested minimal : Nat) : Operation (Option Contents)
  /-- Whether a buffer was resized.  A refusal leaves the buffer alone. -/
  resize (requested minimal : Nat) : Resizing Bool
  /-- Takes back a buffer of some size. -/
  free (size : Nat) : Operation Unit

namespace Source

/--
How much a source has left, as an operation that takes the locks it
needs to find out.
-/
def readAvailable (source : Source) : Operation Nat := do
  let world ← get
  Operation.noteAll (source.readLocks world)
  Operation.ofExcept (source.available world)

/-- Notes every call that is made at a site. -/
def noting (source : Source) (site : Site) : Source where
  available := source.available
  readLocks := source.readLocks
  allocate := fun requested minimal => do
    let result ← source.allocate requested minimal
    Operation.note
      (.called site (.allocated requested minimal (result.map (·.size))))
    return result
  resize := fun requested minimal => do
    let old ← Resizing.size
    let met ← source.resize requested minimal
    Operation.note
      (.called site (.resized requested minimal met old (← Resizing.size)))
    return met
  free := fun size => do
    Operation.note (.called site (.freed size))
    source.free size

@[simp]
theorem available_noting (source : Source) (site : Site) :
    (source.noting site).available = source.available :=
  rfl

@[simp]
theorem readLocks_noting (source : Source) (site : Site) :
    (source.noting site).readLocks = source.readLocks :=
  rfl

end Source

end BufferBudget
