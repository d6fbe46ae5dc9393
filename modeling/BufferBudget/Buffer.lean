import BufferBudget.Allocator

/-!
# Buffers

A buffer is a piece of memory together with the allocator that it goes back to.
The calls of this module are those that users of an allocator make: they check
the request, pass it to the stack, and tell the operator when less was granted
than was asked for.
-/

namespace BufferBudget

/-- Memory that an allocator has handed out. -/
structure Buffer where
  contents : Contents
  /-- The allocator that takes the buffer back. -/
  originator : Allocator

namespace Allocator

/-- Stops a request that accepts no less than more than it asks for. -/
def checkRequest (requested minimal : Nat) : Except Fault Unit :=
  if requested < minimal then .error (.minimalAboveRequested minimal requested)
  else .ok ()

/-- What the operator is told about the outcome of a request. -/
def outcomeDiagnostics (requested minimal : Nat) : Option Nat → List Diagnostic
  | none => [.allocationFailed requested minimal]
  | some size =>
      if size < requested then [.allocationShort requested minimal size] else []

/-- Asks for a buffer of a size from `minimal` to `requested`. -/
def allocate (allocator : Allocator) (requested minimal : Nat) :
    Operation (Option Buffer) := do
  Operation.ofExcept (checkRequest requested minimal)
  let result ← allocator.source.allocate requested minimal
  Operation.emit (outcomeDiagnostics requested minimal (result.map (·.size)))
  return result.map fun contents => { contents, originator := allocator }

/-- Asks for a buffer to be resized to a size from `minimal` to `requested`. -/
def resize (allocator : Allocator) (requested minimal : Nat) :
    Resizing Bool := do
  Operation.ofExcept (checkRequest requested minimal)
  let met ← allocator.source.resize requested minimal
  let size ← Resizing.size
  Operation.emit
    (outcomeDiagnostics requested minimal (if met then some size else none))
  return met

/-- Asks for a buffer, and says how much is left where there is none. -/
def tryAllocate (allocator : Allocator) (requested minimal : Nat) :
    Operation (Except Refusal Buffer) := do
  match ← allocator.allocate requested minimal with
  | some buffer => return .ok buffer
  | none =>
      let available ← allocator.source.readAvailable
      return .error (.allocation requested minimal available)

/--
Asks for a buffer to be resized in full, and gives its size where it is not.
-/
def tryResize (allocator : Allocator) (requested : Nat) :
    Resizing (Option Refusal) := do
  if ← allocator.resize requested requested then
    return none
  else
    return some (.reallocation (← Resizing.size) requested requested)

end Allocator

namespace Buffer

/-- The number of bytes. -/
def size (buffer : Buffer) : Nat :=
  buffer.contents.size

/-- Whether there are no bytes. -/
def isEmpty (buffer : Buffer) : Bool :=
  buffer.contents.isEmpty

/-- Gives a buffer back to the allocator that it came from. -/
def free (buffer : Buffer) : Operation Unit :=
  buffer.originator.source.free buffer.size

/-- How a buffer is written for a reader, given the text of its address. -/
def describe (buffer : Buffer) (address : String) : String :=
  "Buffer \x7b size: " ++ toString buffer.size ++ ", data: " ++
    address ++ ", .. \x7d"

end Buffer

end BufferBudget
