import BufferBudget.Allocator
import BufferBudget.Config

/-!
# Assemblies

An assembly is a set of allocators that are built one after the other, each on
an earlier one, over accounts that they share.  A plan says what to build; the
quotas and locks that a node needs for itself are opened on the way.

Nodes are destroyed in the reverse order, and so are the objects that a node
owns: the latest goes first.
-/

namespace BufferBudget

/-- A tracker to set up: its name, its limit, and the position of its parent. -/
structure TrackerPlan where
  label : String
  limit : Option Int
  parent : Option Nat
deriving DecidableEq, Repr

/-- What a node adds to the node that it is built on. -/
inductive Addition (ω : Type) where
  /-- A private quota. -/
  | limit (ceiling : Nat) (enforced : Bool)
  /-- A private quota behind a lock. -/
  | lockedLimit (ceiling : Nat) (enforced : Bool)
  /-- A shared mediator. -/
  | mediator (mediator : Nat)
  | clearing
  | bypass (amount : Nat)
  /-- A shared tally. -/
  | tally (tally : Nat)
  /-- A shared tracker. -/
  | tracker (tracker : Nat) (enforcing : Bool)
  | lock
  /-- Objects that live as long as the node. -/
  | objects (objects : List ω)
  | guarantee (amount : Nat)
  /-- The layers of a configuration. -/
  | config (config : Config)
  | probe (screen : Screen)

/-- A node to build. -/
inductive Plan (ω : Type) where
  /-- A heap, which is the standard one unless another is given. -/
  | heap (heap : Heap := .standard)
  /-- Something on top of the node at an earlier position. -/
  | upon (position : Nat) (addition : Addition ω)

/--
What kind of node was built, with the accounts that it can be asked about.
-/
inductive Role (ω : Type) where
  | plain
  /-- A node with a quota of its own that can be moved. -/
  | limit (mediator : Nat)
  /-- A node over a shared mediator. -/
  | mediated (mediator : Nat)
  | bypass (mediator amount : Nat)
  | tracked (lineage : Lineage) (enforcing : Bool)
  | locked
  | owner (objects : List ω)
  | guaranteed (mediator amount : Nat)
  | probe (number : Nat)

/-- A built node. -/
structure Node (ω : Type) where
  allocator : Allocator
  role : Role ω

/-- Why a plan could not be followed. -/
inductive AssemblyError where
  /-- A configuration cannot be honoured. -/
  | config (error : ConfigError)
  /-- There is no earlier node at a position. -/
  | missingNode (position : Nat)
deriving DecidableEq, Repr

/-- Nodes built so far, over the accounts that they share. -/
structure Assembly (ω : Type) where
  world : World
  forest : Forest
  nodes : List (Node ω)
  /-- The number of the next mediator to open. -/
  nextMediator : Nat

namespace Assembly

/-- Shared accounts, and no nodes yet. -/
def start {ω : Type} (mediators : List Mediator) (trackers : List TrackerPlan) :
    Assembly ω where
  world :=
    .start mediators (trackers.map fun plan => .fresh plan.label plan.limit)
  forest := { parents := trackers.map (·.parent) }
  nodes := []
  nextMediator := mediators.length

/-- Opens a private quota. -/
def openQuota
    {ω : Type}
    (assembly : Assembly ω)
    (ceiling : Nat)
    (enforced : Bool) : Nat × Assembly ω :=
  (assembly.nextMediator,
    { assembly with
      world := assembly.world.setMediator assembly.nextMediator
        (.ofQuota (.ofCeiling ceiling enforced false))
      nextMediator := assembly.nextMediator + 1 })

/-- Keeps a mediator behind the lock of a layer. -/
def closeGate {ω : Type} (assembly : Assembly ω) (mediator lock : Nat) :
    Assembly ω :=
  { assembly with world := assembly.world.closeGate mediator lock }

/-- Adds a node. -/
def push
    {ω : Type}
    (assembly : Assembly ω)
    (allocator : Allocator)
    (role : Role ω) : Assembly ω :=
  { assembly with nodes := assembly.nodes ++ [{ allocator, role }] }

/-- Puts the quota that a configuration asks for on an allocator. -/
def limitBy
    {ω : Type}
    (assembly : Assembly ω)
    (config : Config)
    (allocator : Allocator) : Allocator × Assembly ω :=
  match config.quota with
  | none => (allocator, assembly)
  | some ceiling =>
      let (mediator, later) := assembly.openQuota ceiling config.enforced
      (allocator.add (.mediated mediator), later)

/-- Puts the bypass that a configuration asks for on an allocator. -/
def bypassBy
    {ω : Type}
    (assembly : Assembly ω)
    (config : Config)
    (allocator : Allocator) : Allocator × Assembly ω :=
  match config.bypass with
  | none => (allocator, assembly)
  | some amount =>
      let (mediator, later) := assembly.openQuota Size.limit true
      (allocator.add (.bypass mediator amount), later)

/-- Puts the layers that a configuration asks for on an allocator. -/
def configure
    {ω : Type}
    (assembly : Assembly ω)
    (config : Config)
    (allocator : Allocator) : Except ConfigError (Allocator × Assembly ω) := do
  config.validate
  let (limited, assembly) := assembly.limitBy config allocator
  let (bypassed, assembly) := assembly.bypassBy config limited
  let cleared := if config.clearing then bypassed.add .clearing else bypassed
  let world := assembly.world.note (.emitted (.layersBuilt config.layerNames))
  return (cleared, { assembly with world })

/-- Builds a node on an allocator. -/
def build {ω : Type} (assembly : Assembly ω) (base : Allocator) :
    Addition ω → Except AssemblyError (Assembly ω)
  | .limit ceiling enforced =>
      let (mediator, later) := assembly.openQuota ceiling enforced
      .ok (later.push (base.add (.mediated mediator)) (.limit mediator))
  | .lockedLimit ceiling enforced =>
      let lock := assembly.nodes.length
      let (mediator, later) := assembly.openQuota ceiling enforced
      let limited := (base.add (.mediated mediator)).add (.locked lock)
      .ok ((later.closeGate mediator lock).push limited (.limit mediator))
  | .mediator mediator =>
      .ok (assembly.push (base.add (.mediated mediator)) (.mediated mediator))
  | .clearing => .ok (assembly.push (base.add .clearing) .plain)
  | .bypass amount =>
      let (mediator, later) := assembly.openQuota Size.limit true
      .ok (later.push (base.add (.bypass mediator amount))
        (.bypass mediator amount))
  | .tally tally => .ok (assembly.push (base.add (.tallied tally)) .plain)
  | .tracker tracker enforcing =>
      let lineage := assembly.forest.lineage tracker
      .ok (assembly.push (base.add (.tracked lineage enforcing))
        (.tracked lineage enforcing))
  | .lock =>
      .ok (assembly.push (base.add (.locked assembly.nodes.length)) .locked)
  | .objects objects => .ok (assembly.push (base.add .relay) (.owner objects))
  | .guarantee amount =>
      let (mediator, later) := assembly.openQuota amount true
      .ok (later.push (base.add (.guaranteed mediator amount))
        (.guaranteed mediator amount))
  | .config config =>
      match assembly.configure config base with
      | .error error => .error (.config error)
      | .ok (allocator, later) => .ok (later.push allocator .plain)
  | .probe screen =>
      .ok (assembly.push (base.add (.probe assembly.nodes.length screen))
        (.probe assembly.nodes.length))

/-- Builds a node as planned. -/
def follow {ω : Type} (assembly : Assembly ω) :
    Plan ω → Except AssemblyError (Assembly ω)
  | .heap heap => .ok (assembly.push (.onHeap heap) .plain)
  | .upon position addition =>
      match assembly.nodes[position]? with
      | none => .error (.missingNode position)
      | some node => assembly.build node.allocator addition

/-- Builds nodes as planned, one after the other. -/
def followAll {ω : Type} (assembly : Assembly ω) (plans : List (Plan ω)) :
    Except AssemblyError (Assembly ω) :=
  plans.foldlM (fun current plan => current.follow plan) assembly

/-- The allocator of the node at a position. -/
def allocator? {ω : Type} (assembly : Assembly ω) (position : Nat) :
    Option Allocator :=
  assembly.nodes[position]?.map (·.allocator)

/-- The objects that the nodes own, in the order in which they are destroyed. -/
def teardown {ω : Type} (assembly : Assembly ω) : List ω :=
  assembly.nodes.reverse.flatMap fun node =>
    match node.role with
    | .owner objects => objects.reverse
    | _ => []

end Assembly

end BufferBudget
