import BufferBudget.World

/-!
# Operations

An operation acts on the world and ends in an answer or in a fault.  A fault
does not undo anything: the world it leaves is the world at the point where the
operation stopped.

`perform` is what an operation does to a world, and `perform_bind` says what two
operations do in a row.
-/

namespace BufferBudget

/-- An action on the world that may stop at a fault. -/
abbrev Operation : Type → Type :=
  EStateM Fault World

namespace Operation

/-- Notes an event. -/
def note (event : Event) : Operation Unit :=
  modify fun world => world.note event

/-- Notes events, the first of them first. -/
def noteAll (events : List Event) : Operation Unit :=
  modify fun world => world.noteAll events

/-- Emits diagnostics, the first of them first. -/
def emit (diagnostics : List Diagnostic) : Operation Unit :=
  noteAll (diagnostics.map .emitted)

/-- Goes on with a computed value, or stops at its fault. -/
def ofExcept {α : Type} (result : Except Fault α) : Operation α :=
  match result with
  | .ok value => pure value
  | .error fault => throw fault

/-- Holds a lock during an operation, and lets go of it also at a fault. -/
def holding {α : Type} (lock : Lock) (operation : Operation α) : Operation α :=
  fun world =>
    match operation.run (world.note (.acquired lock)) with
    | .ok value later => .ok value (later.note (.released lock))
    | .error fault later => .error fault (later.note (.released lock))

/-- The answer or fault of an operation, and the world afterwards. -/
def perform {α : Type} (operation : Operation α) (world : World) :
    Except Fault α × World :=
  match operation.run world with
  | .ok value later => (.ok value, later)
  | .error fault later => (.error fault, later)

/--
One operation after another: the second starts in the world that the first
leaves, and does not start where the first stops at a fault.
-/
theorem perform_bind
    {α β : Type}
    (operation : Operation α)
    (next : α → Operation β)
    (world : World) :
    (operation >>= next).perform world =
      match operation.perform world with
      | (.ok value, later) => (next value).perform later
      | (.error fault, later) => (.error fault, later) := by
  simp only [perform, EStateM.run, bind, EStateM.bind]
  cases operation world <;> rfl

end Operation

end BufferBudget
