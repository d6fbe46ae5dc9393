import BufferBudget.Account.Tracker

/-!
# Layers

An allocator is a stack of layers over a heap, and each layer changes what the
stack below it does.  A layer is a value: whatever it remembers between calls
is an account that it names by number, so that layers of different allocators
can share one.
-/

namespace BufferBudget

/--
What a probe lets through: it refuses calls by their position in the order of
calls, and lowers the request of the others to a cap.
-/
structure Screen where
  denied : List Nat
  cap : Option Nat
deriving DecidableEq, Repr

namespace Screen

/-- Whether the call at a position is let through. -/
def admits (screen : Screen) (call : Nat) : Bool :=
  !screen.denied.contains call

/--
What is asked below for a request: the cap, unless the least
accepted is above it.
-/
def lower (screen : Screen) (requested minimal : Nat) : Nat :=
  match screen.cap with
  | none => requested
  | some cap => min requested (max minimal cap)

end Screen

/-- One layer of an allocator. -/
inductive Layer where
  /-- Every size is charged to a mediator. -/
  | mediated (mediator : Nat)
  /-- Fresh bytes are zeros. -/
  | clearing
  /--
  The first `amount` bytes, counted on an unlimited quota of its own, are asked
  for as if a soft quota below had room for them.
  -/
  | bypass (mediator amount : Nat)
  /-- Every grant, refusal and release is reported to a tally. -/
  | tallied (tally : Nat)
  /--
  Every size is charged to a tracker and its ancestors; an enforcing layer
  refuses what their limits do not admit.
  -/
  | tracked (lineage : Lineage) (enforcing : Bool)
  /-- One call at a time. -/
  | locked (lock : Nat)
  /-- Nothing is changed. -/
  | relay
  /--
  A request is granted in full from a quota of `amount` bytes, or refused.
  -/
  | guaranteed (mediator amount : Nat)
  /-- Calls are noted, and some are refused or lowered. -/
  | probe (number : Nat) (screen : Screen)
deriving DecidableEq, Repr

namespace Layer

/-- Whether a layer charges a mediator. -/
def charges (layer : Layer) (mediator : Nat) : Bool :=
  match layer with
  | .mediated own | .bypass own _ | .guaranteed own _ => own = mediator
  | _ => false

/-- Whether a layer reports to a tally. -/
def reports (layer : Layer) (tally : Nat) : Bool :=
  match layer with
  | .tallied own => own = tally
  | _ => false

/-- Whether what a layer charges is recorded on a tracker. -/
def chargesTracker (layer : Layer) (tracker : Nat) : Bool :=
  match layer with
  | .tracked lineage _ => lineage.members.contains tracker
  | _ => false

end Layer

end BufferBudget
