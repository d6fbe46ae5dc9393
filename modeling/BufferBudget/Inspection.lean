import BufferBudget.Assembly
import BufferBudget.Operation.Charging
import BufferBudget.Operation.Mediation

/-!
# Inspecting a world

What can be seen of nodes, mediators and trackers without acting on them: the
facts that stay as they were built, and the readings that change.  Every
reading is taken from the world alone.
-/

namespace BufferBudget

/-- Something about a node that stays as it was built. -/
inductive Fact where
  /-- Whether the quota of the node is enforced. -/
  | enforced (value : Bool)
  /-- The amount up to which a soft quota is bypassed. -/
  | bypassedAmount (value : Nat)
  /-- Whether the node refuses what the tracker does not admit. -/
  | enforcesLimit (value : Bool)
  /-- The name of the tracker that is charged. -/
  | tracker (label : String)
  /-- How many objects the node owns. -/
  | ownedCount (value : Nat)
  /-- Whether the node owns nothing. -/
  | ownsNothing (value : Bool)
  /-- The guaranteed amount. -/
  | guarantee (value : Nat)
deriving DecidableEq, Repr

/-- Something about a node that changes. -/
inductive Reading where
  /-- A size, or the fault at which its computation stopped. -/
  | size (value : Except Fault Nat)
  /-- A signed amount. -/
  | amount (value : Int)
  /-- The calls made on a probe. -/
  | calls (calls : List LayerCall)

namespace Node

/-- The facts of a node. -/
def facts {ω : Type} (node : Node ω) (world : World) : List Fact :=
  match node.role with
  | .limit mediator => [.enforced (world.mediators.entry mediator).enforced]
  | .bypass _ amount => [.bypassedAmount amount]
  | .tracked lineage enforcing =>
      [.enforcesLimit enforcing,
        .tracker (world.trackers.entry lineage.tracker).label]
  | .owner objects => [.ownedCount objects.length, .ownsNothing objects.isEmpty]
  | .guaranteed _ amount => [.guarantee amount]
  | _ => []

/-- How much the allocator below a node reports to have left. -/
def availableBelow {ω : Type} (node : Node ω) (world : World) :
    Except Fault Nat :=
  match node.allocator.below? with
  | none => .ok Size.limit
  | some below => below.available world

/--
The readings of a node that come after what it reports to have left.  Calls are
those since the world had some age.
-/
def details {ω : Type} (node : Node ω) (world : World) (age : Nat) :
    List Reading :=
  match node.role with
  | .plain => []
  | .limit mediator =>
      let account := world.mediators.entry mediator
      [.size (.ok account.usage),
        .size (.ok (account.ceiling?.getD Size.limit))]
  | .mediated mediator =>
      [.size (.ok (Mediation.available world mediator)),
        .size (node.availableBelow world)]
  | .bypass mediator _ | .guaranteed mediator _ =>
      [.size (.ok (Mediation.usage world mediator))]
  | .tracked lineage _ =>
      [.amount (world.trackers.entry lineage.tracker).consumption]
  | .locked | .owner _ => [.size (node.availableBelow world)]
  | .probe number => [.calls (world.probeCallsSince number age)]

/-- The readings of a node, the first of them what it reports to have left. -/
def readings {ω : Type} (node : Node ω) (world : World) (age : Nat) :
    List Reading :=
  .size (node.allocator.available world) :: node.details world age

/-- The quota of a node that can be moved, if it has one. -/
def quota? {ω : Type} (node : Node ω) : Option Nat :=
  match node.role with
  | .limit mediator => some mediator
  | _ => none

end Node

/-- What can be seen of a mediator. -/
inductive MediatorReading where
  | quota (usage ceiling available : Nat)
  | arbiter (outstanding available : Nat) (calls : List MediatorCall)
deriving DecidableEq, Repr

/-- What can be seen of a tracker. -/
structure TrackerReading where
  consumption : Int
  peak : Int
  spare : Except Fault Int

namespace World

/-- The reading of a mediator.  Calls are those since the world had some age. -/
def mediatorReading (world : World) (mediator age : Nat) : MediatorReading :=
  match world.mediators.entry mediator with
  | .ofQuota quota => .quota quota.usage quota.ceiling quota.room
  | .ofArbiter arbiter =>
      .arbiter (Mediator.ofArbiter arbiter).usage
        (Mediator.ofArbiter arbiter).available
        (world.mediatorCallsSince mediator age)

/-- The reading of a tracker. -/
def trackerReading (world : World) (lineage : Lineage) : TrackerReading where
  consumption := (world.trackers.entry lineage.tracker).consumption
  peak := (world.trackers.entry lineage.tracker).peak
  spare := Charging.spare world lineage

end World

end BufferBudget
