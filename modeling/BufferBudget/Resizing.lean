import BufferBudget.Contents
import BufferBudget.Operation

/-!
# Resizings

A resizing is an operation that acts on the contents of one buffer as well as
on the world.  At a fault it keeps what was done to either.

An operation on the world alone is a resizing that leaves the contents alone.
`perform` is what a resizing does to a world and to some contents.
-/

namespace BufferBudget

/--
A world together with the contents of the one buffer that is being resized.
-/
structure Workbench where
  world : World
  contents : Contents

/--
An action on the world and on the contents of one buffer that may
stop at a fault.
-/
abbrev Resizing : Type → Type :=
  EStateM Fault Workbench

namespace Resizing

/-- An operation leaves the contents alone. -/
def ofOperation {α : Type} (operation : Operation α) : Resizing α :=
  fun bench =>
    match operation.run bench.world with
    | .ok value world => .ok value { bench with world }
    | .error fault world => .error fault { bench with world }

instance : MonadLift Operation Resizing where
  monadLift := ofOperation

@[simp]
theorem liftM_eq_ofOperation {α : Type} (operation : Operation α) :
    (liftM operation : Resizing α) = ofOperation operation :=
  rfl

/-- The size of the buffer. -/
def size : Resizing Nat :=
  return (← get).contents.size

/-- Replaces the contents of the buffer. -/
def put (contents : Contents) : Resizing Unit :=
  modify fun bench => { bench with contents }

/-- Holds a lock during a resizing, and lets go of it also at a fault. -/
def holding {α : Type} (lock : Lock) (resizing : Resizing α) : Resizing α :=
  fun bench =>
    match resizing.run
      { bench with world := bench.world.note (.acquired lock) } with
    | .ok value later =>
        .ok value { later with world := later.world.note (.released lock) }
    | .error fault later =>
        .error fault { later with world := later.world.note (.released lock) }

/--
The answer or fault of a resizing, and the world and the contents afterwards.
-/
def perform
    {α : Type}
    (resizing : Resizing α)
    (contents : Contents)
    (world : World) : Except Fault α × Workbench :=
  match resizing.run { world, contents } with
  | .ok value later => (.ok value, later)
  | .error fault later => (.error fault, later)

end Resizing

end BufferBudget
