import BufferBudget.Account.Mediator
import BufferBudget.Account.Tally
import BufferBudget.Diagnostic
import BufferBudget.Layer
import BufferBudget.Table

/-!
# The world of shared accounts

Allocators share mediators, trackers and tallies.  The world holds them all,
and a trail of what has happened: the calls made on layers and accounts, the
locks taken, and the diagnostics emitted.  The trail is never read by an
allocator; the records of a probe, the calls of a mediator and the log are
views of it.
-/

namespace BufferBudget

/-- A call made on a layer, together with its outcome. -/
inductive LayerCall where
  /-- A request for a buffer, and the size of the buffer if there is one. -/
  | allocated (requested minimal : Nat) (size : Option Nat)
  /--
  A request to resize, whether it was met, and the size of the buffer
  before and after.
  -/
  | resized (requested minimal : Nat) (met : Bool) (old new : Nat)
  /-- A buffer of some size is on its way back. -/
  | freed (size : Nat)
deriving DecidableEq, Repr

/-- A call about to be made on a tracker. -/
inductive TrackerCall where
  | tryConsume (bytes : Int)
  | consume (bytes : Int)
  | release (bytes : Int)
deriving DecidableEq, Repr

/-- Where a call is made: on a layer, or on the heap under all layers. -/
inductive Site where
  | layer (layer : Layer)
  | heap
deriving DecidableEq, Repr

/-- Something that one caller at a time may hold. -/
inductive Lock where
  /-- The lock of a layer. -/
  | layer (lock : Nat)
  /-- The lock of a guarded mediator. -/
  | mediator (mediator : Nat)
deriving DecidableEq, Repr

/-- Something that happened. -/
inductive Event where
  | emitted (diagnostic : Diagnostic)
  | called (site : Site) (call : LayerCall)
  | mediated (mediator : Nat) (call : MediatorCall)
  | tracked (tracker : Nat) (call : TrackerCall)
  /--
  A charge is put to one tracker, whose consumption with it would be `total`.
  -/
  | weighed (tracker : Nat) (total : Int)
  | acquired (lock : Lock)
  | released (lock : Lock)
deriving DecidableEq, Repr

/-- The accounts that allocators share, and the trail of what has happened. -/
structure World where
  mediators : Table Mediator
  trackers : Table Tracker
  tallies : Table Tally
  /-- How many calls each probe has counted. -/
  probes : Table Nat
  /--
  The layer whose lock a mediator is kept behind, if it is kept behind one.
  -/
  gates : Table (Option Nat)
  /-- What has happened, latest first. -/
  trail : List Event

namespace World

/-- The world before anything has happened, with some accounts. -/
def start (mediators : List Mediator) (trackers : List Tracker) : World where
  mediators := .ofList mediators .unlimited
  trackers := .ofList trackers (.fresh "" none)
  tallies := .constant .zero
  probes := .constant 0
  gates := .constant none
  trail := []

/-- Adds an event to the trail. -/
def note (world : World) (event : Event) : World :=
  { world with trail := event :: world.trail }

/-- Adds events to the trail, the first of them first. -/
def noteAll (world : World) (events : List Event) : World :=
  { world with trail := events.reverse ++ world.trail }

@[simp]
theorem mediators_note (world : World) (event : Event) :
    (world.note event).mediators = world.mediators :=
  rfl

@[simp]
theorem trackers_note (world : World) (event : Event) :
    (world.note event).trackers = world.trackers :=
  rfl

@[simp]
theorem tallies_note (world : World) (event : Event) :
    (world.note event).tallies = world.tallies :=
  rfl

@[simp]
theorem probes_note (world : World) (event : Event) :
    (world.note event).probes = world.probes :=
  rfl

@[simp]
theorem trail_note (world : World) (event : Event) :
    (world.note event).trail = event :: world.trail :=
  rfl

@[simp]
theorem noteAll_nil (world : World) : world.noteAll [] = world :=
  rfl

/-- Noting several events is noting them one after the other. -/
theorem noteAll_cons (world : World) (event : Event) (events : List Event) :
    world.noteAll (event :: events) = (world.note event).noteAll events := by
  simp [noteAll, note]

/-- The world with another mediator under a number. -/
def setMediator (world : World) (key : Nat) (mediator : Mediator) : World :=
  { world with mediators := world.mediators.set key mediator }

/-- The world with another tracker under a number. -/
def setTracker (world : World) (key : Nat) (tracker : Tracker) : World :=
  { world with trackers := world.trackers.set key tracker }

/-- The world with another tally under a number. -/
def setTally (world : World) (key : Nat) (tally : Tally) : World :=
  { world with tallies := world.tallies.set key tally }

/-- The world in which a probe has counted one call more. -/
def countProbe (world : World) (key : Nat) : World :=
  { world with probes := world.probes.set key (world.probes.entry key + 1) }

/-- The world in which a mediator is kept behind the lock of a layer. -/
def closeGate (world : World) (mediator lock : Nat) : World :=
  { world with gates := world.gates.set mediator (some lock) }

@[simp]
theorem entry_mediators_setMediator
    (world : World)
    (key other : Nat)
    (mediator : Mediator) :
    (world.setMediator key mediator).mediators.entry other =
      if other = key then mediator else world.mediators.entry other :=
  rfl

@[simp]
theorem entry_trackers_setTracker
    (world : World)
    (key other : Nat)
    (tracker : Tracker) :
    (world.setTracker key tracker).trackers.entry other =
      if other = key then tracker else world.trackers.entry other :=
  rfl

@[simp]
theorem entry_tallies_setTally
    (world : World)
    (key other : Nat)
    (tally : Tally) :
    (world.setTally key tally).tallies.entry other =
      if other = key then tally else world.tallies.entry other :=
  rfl

@[simp]
theorem entry_probes_countProbe (world : World) (key other : Nat) :
    (world.countProbe key).probes.entry other =
      if other = key then world.probes.entry key + 1
      else world.probes.entry other :=
  rfl

/-- How much has happened so far. -/
def age (world : World) : Nat :=
  world.trail.length

/-- What has happened since the world had some age, earliest first. -/
def since (world : World) (age : Nat) : List Event :=
  (world.trail.take (world.age - age)).reverse

end World

namespace Event

/-- The diagnostic that an event emits, if it is one. -/
def diagnostic? : Event → Option Diagnostic
  | .emitted diagnostic => some diagnostic
  | _ => none

/-- The call on one mediator that an event is, if it is one. -/
def mediatorCall? (mediator : Nat) : Event → Option MediatorCall
  | .mediated own call => if own = mediator then some call else none
  | _ => none

/-- The call on one probe that an event is, if it is one. -/
def probeCall? (probe : Nat) : Event → Option LayerCall
  | .called (.layer (.probe own _)) call =>
      if own = probe then some call else none
  | _ => none

end Event

namespace World

/-- The diagnostics emitted since the world had some age, earliest first. -/
def diagnosticsSince (world : World) (age : Nat) : List Diagnostic :=
  (world.since age).filterMap Event.diagnostic?

/--
The calls made on a mediator since the world had some age, earliest first.
-/
def mediatorCallsSince (world : World) (mediator age : Nat) :
    List MediatorCall :=
  (world.since age).filterMap (Event.mediatorCall? mediator)

/-- The calls made on a probe since the world had some age, earliest first. -/
def probeCallsSince (world : World) (probe age : Nat) : List LayerCall :=
  (world.since age).filterMap (Event.probeCall? probe)

end World

end BufferBudget
