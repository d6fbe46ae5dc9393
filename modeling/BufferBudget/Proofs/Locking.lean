import BufferBudget.Act
import BufferBudget.Assembly
import BufferBudget.Proofs.Charges
import BufferBudget.Proofs.Course
import Mathlib.Data.List.Nodup

/-!
# No lock is requested while it is held

A lock that is requested by its own holder is never had.  Here a request is an
event on the trail, and the locks that are held at any time can be read off the
events before.  `World.Exclusive` says that no lock has ever been requested
while it was held.

A stack takes the locks of its layers from the top downwards, and those of
its mediators one at a time in between.  So it can take a lock twice only if
two of its layers share one.  Layers are numbered as they are built, each
node on top of earlier ones, and hence the numbers of the locks of a stack
are all different.
-/

namespace BufferBudget

open Relation

/-- The locks that are held after some events, which are given latest first. -/
def heldAfter : List Event → List Lock
  | [] => []
  | .acquired lock :: earlier => lock :: heldAfter earlier
  | .released lock :: earlier => (heldAfter earlier).erase lock
  | _ :: earlier => heldAfter earlier

theorem heldAfter_cons_of_lockless
    {event : Event}
    (lockless : event.Lockless)
    (earlier : List Event) :
    heldAfter (event :: earlier) = heldAfter earlier := by
  cases event with
  | acquired lock => exact lockless.elim
  | released lock => exact lockless.elim
  | _ => rfl

namespace World

/-- The locks that are held. -/
def held (world : World) : List Lock :=
  heldAfter world.trail

/-- No lock has been requested while it was held. -/
def Exclusive (world : World) : Prop :=
  ∀ later lock earlier, world.trail = later ++ .acquired lock :: earlier →
    lock ∉ heldAfter earlier

/-- Locks have been used as they should, and none is held. -/
structure Idle (world : World) : Prop where
  exclusive : world.Exclusive
  held : world.held = []

variable {world later : World}

theorem Exclusive.acquired
    (exclusive : world.Exclusive)
    {lock : Lock}
    (free : lock ∉ world.held) :
    (world.note (.acquired lock)).Exclusive := by
  intro after other earlier same
  rw [trail_note] at same
  cases after with
  | nil =>
      obtain ⟨⟨⟩, rfl⟩ := List.cons.inj same
      exact free
  | cons event rest => exact exclusive rest other earlier (List.cons.inj same).2

/-- Only what is requested can be requested at the wrong time. -/
theorem Exclusive.note
    (exclusive : world.Exclusive)
    {event : Event}
    (unrequested : ∀ lock, event ≠ .acquired lock) :
    (world.note event).Exclusive := by
  intro after lock earlier same
  rw [trail_note] at same
  cases after with
  | nil => exact absurd (List.cons.inj same).1 (unrequested lock)
  | cons event rest => exact exclusive rest lock earlier (List.cons.inj same).2

/--
From a world to a later one only locks of some are used, each is free when it is
requested, and what was held is held again in the end.
-/
def Relocks (own : Lock → Prop) (world later : World) : Prop :=
  world.Exclusive → (∀ lock ∈ world.held, ¬own lock) →
    later.Exclusive ∧ later.held = world.held

namespace Relocks

variable {own inner : Lock → Prop}

theorem refl (world : World) : world.Relocks own world :=
  fun exclusive _ => ⟨exclusive, rfl⟩

theorem trans
    {last : World}
    (first : world.Relocks own later)
    (rest : later.Relocks own last) :
    world.Relocks own last := by
  intro exclusive apart
  obtain ⟨still, held⟩ := first exclusive apart
  obtain ⟨always, kept⟩ := rest still (held ▸ apart)
  exact ⟨always, kept.trans held⟩

theorem of_steps (reached : ReflTransGen (Relocks own) world later) :
    world.Relocks own later := by
  induction reached with
  | refl => exact refl world
  | tail _ step ih => exact ih.trans step

theorem mono
    (weaken : ∀ lock, inner lock → own lock)
    (relocks : world.Relocks inner later) :
    world.Relocks own later :=
  fun exclusive apart => relocks exclusive fun lock among owned =>
    apart lock among (weaken lock owned)

/-- What happens to accounts is no use of a lock. -/
theorem of_trail (same : later.trail = world.trail) :
    world.Relocks own later := by
  intro exclusive _
  rw [Exclusive, held, held, same]
  exact ⟨exclusive, rfl⟩

theorem note (world : World) {event : Event} (lockless : event.Lockless) :
    world.Relocks own (world.note event) := by
  intro exclusive _
  refine ⟨exclusive.note fun lock same =>
    ?_, heldAfter_cons_of_lockless lockless world.trail⟩
  rw [same] at lockless
  exact lockless

/-- A lock is held while others are used. -/
theorem enclose
    {lock : Lock}
    (owned : own lock)
    (weaken : ∀ other, inner other → own other)
    (other : ¬inner lock)
    (relocks : (world.note (.acquired lock)).Relocks inner later) :
    world.Relocks own (later.note (.released lock)) := by
  intro exclusive apart
  have free : lock ∉ world.held := fun among => apart lock among owned
  obtain ⟨still, held⟩ := relocks (exclusive.acquired free) <| by
    intro taken among
    rcases List.mem_cons.mp among with rfl | before
    · exact other
    · exact fun named => apart taken before (weaken taken named)
  refine ⟨still.note nofun, ?_⟩
  show later.held.erase lock = world.held
  rw [held]
  exact List.erase_cons_head lock world.held

theorem encloses
    {lock : Lock}
    (owned : own lock)
    (weaken : ∀ other, inner other → own other)
    (other : ¬inner lock)
    (world later : World)
    (reached :
      ReflTransGen (Relocks inner) (world.note (.acquired lock)) later) :
    ReflTransGen (Relocks own) world (later.note (.released lock)) :=
  .single (enclose owned weaken other (of_steps reached))

/-- Charges use no lock. -/
theorem charged (world : World) :
    World.Charged fun left right => left = right ∧ world.Relocks own left :=
  .of_kept (fun lockless relocks => relocks.trans (note _ lockless))
    fun _ _ relocks => relocks.trans (of_trail rfl)

end Relocks

/-- Between two calls nothing stands in the way of any lock. -/
theorem Idle.relocks
    {own : Lock → Prop}
    (idle : world.Idle)
    (relocks : world.Relocks own later) :
    later.Idle := by
  obtain ⟨exclusive, held⟩ := relocks idle.exclusive
    fun lock among => absurd (idle.held ▸ among) List.not_mem_nil
  exact ⟨exclusive, held.trans idle.held⟩

end World

section Accounts

open World

variable {α : Type} {own : Lock → Prop}

/-- No lock but that of the mediator is used in an access to it. -/
theorem Mediation.leads_guarding
    {mediator : Nat}
    (owned : own (.mediator mediator))
    {operation : Operation α}
    (leads : Operation.LeadsBy (Relocks fun _ => False) operation) :
    Operation.LeadsBy (Relocks own) (guarding mediator operation) :=
  leads_get.bind fun _ => Leads.ite (Operation.leads_holding
    (Relocks.encloses owned (fun _ => False.elim) id) leads)
    (leads.mono fun _ _ => Relocks.mono fun _ => False.elim)

theorem Operation.relocks_setMediator (mediator : Nat) (account : Mediator) :
    LeadsBy (Relocks own)
      (modify fun world => world.setMediator mediator account) :=
  fun _ => .single (.of_trail rfl)

theorem Reporting.relocks_update (tally : Nat) (report : Tally → Tally) :
    Operation.LeadsBy (Relocks own) (update tally report) :=
  fun _ => .single (.of_trail rfl)

theorem Operation.relocks_emit (diagnostics : List Diagnostic) :
    LeadsBy (Relocks own) (emit diagnostics) :=
  leads_emit (fun world _ => .note world trivial) diagnostics

theorem Operation.relocks_booked (mediator : Nat) (call : MediatorCall) :
    LeadsBy (Relocks own) (note (.mediated mediator call)) :=
  fun world => .single (.note world trivial)

/--
A mediator's own lock may be taken behind the lock that the mediator
is kept behind.
-/
theorem Mediation.relocks_entering
    {mediator : Nat}
    {operation : Operation α}
    (leads : Operation.LeadsBy (Relocks (Eq (.mediator mediator))) operation) :
    Operation.LeadsBy (Relocks fun _ => True)
      (entering mediator operation) := by
  refine leads_get.bind fun world => ?_
  cases world.gates.entry mediator with
  | none => exact leads.mono fun _ _ => Relocks.mono fun _ _ => trivial
  | some lock =>
      exact Operation.leads_holding
        (Relocks.encloses trivial (fun _ _ => trivial) nofun) leads

theorem Mediation.relocks_setCeiling (mediator ceiling : Nat) :
    Operation.LeadsBy (Relocks fun _ => True) (setCeiling mediator ceiling) :=
  relocks_entering <| leads_guarding rfl <| leads_get.bind fun _ =>
    Operation.relocks_setMediator mediator _

theorem Mediation.relocks_inspect (mediator : Nat) (figure : Mediator → Nat) :
    Operation.LeadsBy (Relocks fun _ => True) (inspect mediator figure) :=
  relocks_entering <| leads_guarding rfl <| leads_get.bind fun _ => leads_pure _

theorem Mediation.relocks_isEnforced (mediator : Nat) :
    Operation.LeadsBy (Relocks fun _ => True) (isEnforced mediator) :=
  relocks_entering <| leads_get.bind fun _ => leads_pure _

/--
A charge uses no lock, since it leaves alone whatever does not
depend on trackers.
-/
theorem Charging.relocks_of_endAlike
    {operation : Operation α}
    (pair : ∀ {related : World → World → Prop}, World.Charged related →
      EndAlike (fun _ => False) related Eq operation operation) :
    Operation.LeadsBy (Relocks own) operation := fun world =>
  ((pair (Relocks.charged world)).preserves (Relocks.refl world)).mono
    (fun _ _ relocks => .single relocks) fun _ _ relocks =>
    ⟨.single relocks, trivial⟩

/-- Every account is used with no locks but those of mediators. -/
theorem Accounts.LeadBy.relocks (owned : ∀ mediator, own (.mediator mediator)) :
    Accounts.LeadBy (Relocks own) where
  called := fun world _ _ => .note world trivial
  emitted := fun world _ => .note world trivial
  allocate := fun mediator requested minimal =>
    Mediation.leads_guarding (owned mediator) <| leads_get.bind fun _ =>
      (Operation.leads_ofExcept _).bind fun _ =>
        (Operation.relocks_emit _).bind fun _ =>
          (Operation.relocks_setMediator mediator _).bind fun _ =>
            (Operation.relocks_booked mediator _).bind fun _ => leads_pure _
  free := fun mediator amount =>
    Mediation.leads_guarding (owned mediator) <| leads_get.bind fun _ =>
      (Operation.relocks_emit _).bind fun _ =>
        (Operation.relocks_setMediator mediator _).bind fun _ =>
          Operation.relocks_booked mediator _
  readLocks := by
    intro mediator world now
    rw [Mediation.readLocks]
    split
    · have kept : (now.note (.acquired (.mediator mediator))).Relocks
          (fun _ => False) _ := .refl _
      exact .single (kept.enclose (owned mediator) (fun _ => False.elim) id)
    · exact .refl
  tryConsume := fun lineage bytes => Charging.relocks_of_endAlike fun charged =>
    Charging.endAlike_tryConsume charged lineage bytes
  consume := fun lineage bytes => Charging.relocks_of_endAlike fun charged =>
    Charging.endAlike_consume charged lineage bytes
  release := fun lineage bytes => Charging.relocks_of_endAlike fun charged =>
    Charging.endAlike_release charged lineage bytes
  update := Reporting.relocks_update
  counted := fun _ _ => .of_trail rfl

end Accounts

/-- The lock of a layer, if it has one. -/
def Layer.lock? : Layer → Option Nat
  | .locked lock => some lock
  | _ => none

namespace Allocator

/-- The locks of the layers of an allocator. -/
def locks (allocator : Allocator) : List Nat :=
  allocator.layers.filterMap Layer.lock?

/-- The locks that a call on an allocator may use. -/
def Owns (allocator : Allocator) : Lock → Prop
  | .mediator _ => True
  | .layer lock => lock ∈ allocator.locks

/-- The locks of the layers are all different. -/
def LocksApart (allocator : Allocator) : Prop :=
  allocator.locks.Nodup

/--
An allocator whose locks are all different requests none of them
while it is held.
-/
theorem relocks_source {allocator : Allocator} (apart : allocator.LocksApart) :
    allocator.source.LeadsBy (World.Relocks allocator.Owns) := by
  obtain ⟨layers, heap⟩ := allocator
  induction layers with
  | nil =>
      exact (Heap.leads_source heap).noting (.relocks fun _ => trivial) .heap
  | cons layer rest ih =>
      refine Source.LeadsBy.noting (.relocks fun _ => trivial) ?_ (.layer layer)
      -- Only a layer with a lock adds to the locks of the stack, and it is held
      -- around all others.
      by_cases locked : ∃ lock, layer = .locked lock
      · obtain ⟨lock, rfl⟩ := locked
        obtain ⟨fresh, below⟩ := List.nodup_cons.mp apart
        refine Locked.leads_source (World.Relocks.encloses ?_ ?_ fresh)
          (ih below)
        · exact List.mem_cons_self
        · intro other owned
          cases other with
          | mediator mediator => exact trivial
          | layer number => exact List.mem_cons_of_mem lock owned
      · have same : locks ⟨layer :: rest, heap⟩ = locks ⟨rest, heap⟩ := by
          cases layer with
          | locked lock => exact absurd ⟨lock, rfl⟩ locked
          | _ => rfl
        have below : LocksApart ⟨rest, heap⟩ := by
          rw [LocksApart, ← same]
          exact apart
        refine Layer.leads_over (.relocks fun _ => trivial) ((ih below).mono ?_)
          fun lock equal => locked ⟨lock, equal⟩
        intro world later relocks
        refine relocks.mono fun lock owned => ?_
        cases lock with
        | mediator mediator => exact trivial
        | layer number =>
            show number ∈ locks ⟨layer :: rest, heap⟩
            rw [same]
            exact owned

end Allocator

/-- The allocator that a look is at, if it is at one, has a property. -/
def Look.Names (property : Allocator → Prop) : Look → Prop
  | .available allocator => property allocator
  | _ => True

/-- The allocators that an act names, if it names any, have a property. -/
def Act.Names (property : Allocator → Prop) : Act → Prop
  | .call made => made.Names property
  | .look taken => taken.Names property

theorem Look.relocks_read
    {look : Look}
    (names : look.Names Allocator.LocksApart) :
    Operation.LeadsBy (World.Relocks fun _ => True) look.read := by
  cases look with
  | available allocator =>
      have relocks := (Allocator.relocks_source names).readAvailable
      exact (relocks.mono fun _ _ => .mono fun _ _ => trivial).bind
        fun _ => leads_pure _
  | usage mediator =>
      exact (Mediation.relocks_inspect mediator _).bind fun _ => leads_pure _
  | ceiling mediator =>
      exact (Mediation.relocks_inspect mediator _).bind fun _ => leads_pure _
  | budget mediator =>
      exact (Mediation.relocks_inspect mediator _).bind fun _ => leads_pure _
  | enforced mediator =>
      exact (Mediation.relocks_isEnforced mediator).bind fun _ => leads_pure _
  | tracker lineage => exact leads_get.bind fun _ => leads_pure _

namespace Session

variable {session : Session}

/--
A call uses locks as it should, and lets go of all of them, however
it is answered.
-/
theorem idle_perform
    (idle : session.world.Idle)
    (held : session.HoldsFrom Allocator.LocksApart)
    {call : Call}
    (names : call.Names Allocator.LocksApart) :
    (session.perform call).2.world.Idle ∧
      (session.perform call).2.HoldsFrom Allocator.LocksApart := by
  have onward :
      session.Onward (World.Relocks fun _ => True) Allocator.LocksApart
        (session.perform call).2 := by
    refine onward_perform held
      (.relocks fun _ => trivial) (fun allocator apart => ?_) names ?_
    · exact (Allocator.relocks_source apart).mono fun _ _ =>
        .mono fun _ _ => trivial
    · exact fun mediator ceiling _ =>
        Mediation.relocks_setCeiling mediator ceiling
  exact ⟨idle.relocks (.of_steps onward.world), onward.held⟩

/-- So does a look. -/
theorem idle_act
    (idle : session.world.Idle)
    (held : session.HoldsFrom Allocator.LocksApart)
    {act : Act}
    (names : act.Names Allocator.LocksApart) :
    (session.act act).2.world.Idle ∧
      (session.act act).2.HoldsFrom Allocator.LocksApart := by
  cases act with
  | call call => exact idle_perform idle held names
  | look look =>
      have onward := onward_run held (Look.relocks_read names)
      exact ⟨idle.relocks (.of_steps onward.world), onward.held⟩

theorem idle_actAll
    (idle : session.world.Idle)
    (held : session.HoldsFrom Allocator.LocksApart)
    {acts : List Act}
    (names : ∀ act ∈ acts, act.Names Allocator.LocksApart) :
    (session.actAll acts).world.Idle := by
  induction acts generalizing session with
  | nil => exact idle
  | cons act rest ih =>
      obtain ⟨still, holds⟩ := idle_act idle held (names act List.mem_cons_self)
      exact ih still holds fun other member =>
        names other (List.mem_cons_of_mem act member)

end Session

namespace Assembly

variable {ω : Type} {assembly later : Assembly ω}

/--
The locks of each node are different, and have the numbers of earlier nodes;
none has been used in the world.
-/
structure Numbered (assembly : Assembly ω) : Prop where
  apart : ∀ node ∈ assembly.nodes, node.allocator.LocksApart
  lower : ∀ node ∈ assembly.nodes, ∀ lock ∈ node.allocator.locks,
    lock < assembly.nodes.length
  trail : ∀ event ∈ assembly.world.trail, event.Lockless

theorem Numbered.idle (numbered : assembly.Numbered) : assembly.world.Idle := by
  have unused := numbered.trail
  constructor
  · intro after lock earlier same
    exact (unused (.acquired lock)
      (same ▸ List.mem_append_right _ List.mem_cons_self)).elim
  · show heldAfter assembly.world.trail = []
    generalize assembly.world.trail = trail at unused
    induction trail with
    | nil => rfl
    | cons event rest ih =>
        rw [heldAfter_cons_of_lockless (unused event List.mem_cons_self)]
        exact ih fun other member =>
          unused other (List.mem_cons_of_mem event member)

/--
A node is added whose own lock, if it has one, has the number of the node.
-/
theorem Numbered.push
    (numbered : assembly.Numbered)
    {allocator : Allocator}
    {role : Role ω}
    (apart : allocator.LocksApart)
    (lower : ∀ lock ∈ allocator.locks, lock ≤ assembly.nodes.length) :
    (assembly.push allocator role).Numbered where
  apart := by
    intro node member
    rcases List.mem_append.mp member with earlier | last
    · exact numbered.apart node earlier
    · exact List.mem_singleton.mp last ▸ apart
  lower := by
    intro node member lock among
    rw [Assembly.push, List.length_append, List.length_singleton]
    rcases List.mem_append.mp member with earlier | last
    · exact Nat.lt_succ_of_lt (numbered.lower node earlier lock among)
    · obtain rfl := List.mem_singleton.mp last
      exact Nat.lt_succ_of_le (lower lock among)
  trail := numbered.trail

theorem Numbered.openQuota
    (numbered : assembly.Numbered)
    (ceiling : Nat)
    (enforced : Bool) :
    (assembly.openQuota ceiling enforced).2.Numbered :=
  ⟨numbered.apart, numbered.lower, numbered.trail⟩

theorem Numbered.closeGate
    (numbered : assembly.Numbered)
    (mediator lock : Nat) :
    (assembly.closeGate mediator lock).Numbered :=
  ⟨numbered.apart, numbered.lower, numbered.trail⟩

theorem numbered_start
    (mediators : List Mediator)
    (trackers : List TrackerPlan) :
    Numbered (start mediators trackers : Assembly ω) :=
  ⟨fun _ member => absurd member List.not_mem_nil, fun _ member => absurd member
    List.not_mem_nil, fun _ member => absurd member List.not_mem_nil⟩

/--
Private quotas and layers without locks are put on a stack without
changing its locks.
-/
theorem configure_locks
    {config : Config}
    {base allocator : Allocator}
    (configured : assembly.configure config base = .ok (allocator, later)) :
    allocator.locks = base.locks ∧ later.nodes = assembly.nodes ∧
      ∃ names, later.world.trail =
        .emitted (.layersBuilt names) :: assembly.world.trail := by
  rw [configure] at configured
  cases valid : config.validate with
  | error error =>
      rw [valid] at configured
      exact nomatch configured
  | ok _ =>
      rw [valid] at configured
      obtain ⟨rfl, rfl⟩ := Prod.mk.inj (Except.ok.inj configured)
      obtain ⟨quota, enforced, bypass, clearing⟩ := config
      cases quota <;> cases bypass <;> cases clearing
        <;> exact ⟨rfl, rfl, _, rfl⟩

variable
    {base : Allocator}
    (numbered : assembly.Numbered)
    (apart : base.LocksApart)
    (lower : ∀ lock ∈ base.locks, lock < assembly.nodes.length)

include numbered apart lower

/-- A stack with one layer more that has no lock. -/
theorem Numbered.pushUnlocked
    {role : Role ω}
    {layer : Layer}
    (unlocked : layer.lock? = none) :
    (assembly.push (base.add layer) role).Numbered := by
  have same : (base.add layer).locks = base.locks :=
    List.filterMap_cons_none unlocked
  refine numbered.push ?_ fun lock among => ?_
  · rw [Allocator.LocksApart, same]
    exact apart
  · rw [same] at among
    exact Nat.le_of_lt (lower lock among)

/-- A stack with a new lock on it. -/
theorem Numbered.pushLocked {role : Role ω} :
    (assembly.push (base.add (.locked assembly.nodes.length))
      role).Numbered := by
  refine numbered.push (List.nodup_cons.mpr ⟨fun among => ?_, apart⟩)
    fun lock among => ?_
  · exact Nat.lt_irrefl _ (lower _ among)
  · rcases List.mem_cons.mp among with rfl | earlier
    · exact Nat.le_refl _
    · exact Nat.le_of_lt (lower lock earlier)

theorem Numbered.build
    {addition : Addition ω}
    (built : assembly.build base addition = .ok later) :
    later.Numbered := by
  cases addition with
  | limit ceiling enforced =>
      obtain rfl := Except.ok.inj built
      exact (numbered.openQuota _ _).pushUnlocked apart lower rfl
  | lockedLimit ceiling enforced =>
      obtain rfl := Except.ok.inj built
      have limited :
          (base.add (.mediated assembly.nextMediator)).LocksApart := apart
      have closed := (numbered.openQuota ceiling enforced).closeGate
        assembly.nextMediator assembly.nodes.length
      exact closed.pushLocked limited lower
  | mediator mediator =>
      obtain rfl := Except.ok.inj built
      exact numbered.pushUnlocked apart lower rfl
  | clearing =>
      obtain rfl := Except.ok.inj built
      exact numbered.pushUnlocked apart lower rfl
  | bypass amount =>
      obtain rfl := Except.ok.inj built
      exact (numbered.openQuota _ _).pushUnlocked apart lower rfl
  | tally tally =>
      obtain rfl := Except.ok.inj built
      exact numbered.pushUnlocked apart lower rfl
  | tracker tracker enforcing =>
      obtain rfl := Except.ok.inj built
      exact numbered.pushUnlocked apart lower rfl
  | lock =>
      obtain rfl := Except.ok.inj built
      exact numbered.pushLocked apart lower
  | objects objects =>
      obtain rfl := Except.ok.inj built
      exact numbered.pushUnlocked apart lower rfl
  | guarantee amount =>
      obtain rfl := Except.ok.inj built
      exact (numbered.openQuota _ _).pushUnlocked apart lower rfl
  | config config =>
      rw [Assembly.build] at built
      split at built
      · exact nomatch built
      · rename_i allocator configuredTo configured
        obtain rfl := Except.ok.inj built
        obtain ⟨locks, nodes, names, trail⟩ := configure_locks configured
        have made : configuredTo.Numbered := by
          refine ⟨nodes ▸ numbered.apart, nodes ▸ numbered.lower,
            fun event member => ?_⟩
          rw [trail] at member
          rcases List.mem_cons.mp member with rfl | earlier
          · exact trivial
          · exact numbered.trail event earlier
        refine made.push ?_ fun lock among => ?_
        · rw [Allocator.LocksApart, locks]
          exact apart
        · rw [nodes]
          exact Nat.le_of_lt (lower lock (locks ▸ among))
  | probe screen =>
      obtain rfl := Except.ok.inj built
      exact numbered.pushUnlocked apart lower rfl

omit apart lower in
theorem Numbered.follow
    {plan : Plan ω}
    (followed : assembly.follow plan = .ok later) :
    later.Numbered := by
  cases plan with
  | heap heap =>
      obtain rfl := Except.ok.inj followed
      exact numbered.push List.nodup_nil fun _ among =>
        absurd among List.not_mem_nil
  | upon position addition =>
      rw [Assembly.follow] at followed
      split at followed
      · exact nomatch followed
      · rename_i node found
        have member := List.mem_of_getElem? found
        exact numbered.build (numbered.apart node member)
          (numbered.lower node member) followed

omit apart lower in
/-- However nodes are built, the locks of each are different. -/
theorem Numbered.followAll
    {plans : List (Plan ω)}
    (followed : assembly.followAll plans = .ok later) :
    later.Numbered := by
  induction plans generalizing assembly with
  | nil =>
      obtain rfl := Except.ok.inj followed
      exact numbered
  | cons plan rest ih =>
      rw [Assembly.followAll, List.foldlM_cons] at followed
      cases first : assembly.follow plan with
      | error error =>
          rw [first] at followed
          exact nomatch followed
      | ok next =>
          rw [first] at followed
          exact ih (numbered.follow first) followed

end Assembly

end BufferBudget
