import BufferBudget.Source

/-!
# The heap

The lowest source of every stack.  It serves a request in full or not at all,
whatever is the least accepted, and reports no bound.  Which sizes it serves is
a property of the machine and a parameter here.
-/

namespace BufferBudget

/-- The sizes that a machine can serve. -/
structure Heap where
  serves : Nat → Bool

namespace Heap

/-- A machine with 48 bits of address space. -/
def standard : Heap where
  serves := fun size => size < 281474976710656

/-- A fresh buffer of exactly the size requested. -/
def allocate (heap : Heap) (requested : Nat) : Operation (Option Contents) :=
  return if heap.serves requested then some (.fresh requested) else none

/-- Grows a buffer by fresh bytes, or cuts it. -/
def resize (heap : Heap) (requested : Nat) : Resizing Bool := do
  let contents := (← get).contents
  if contents.size < requested then
    if !heap.serves requested then
      return false
    Resizing.put (contents.extend requested)
  else if requested < contents.size then
    Resizing.put (contents.truncate requested)
  return true

/-- The heap as a source. -/
def source (heap : Heap) : Source where
  available := fun _ => .ok Size.limit
  readLocks := fun _ => []
  allocate := fun requested _ => heap.allocate requested
  resize := fun requested _ => heap.resize requested
  free := fun _ => pure ()

@[simp]
theorem available_source (heap : Heap) (world : World) :
    heap.source.available world = .ok Size.limit :=
  rfl

end Heap

end BufferBudget
