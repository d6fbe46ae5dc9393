import BufferBudget.Proofs.Course
import BufferBudget.Proofs.Run

/-!
# No buffer is larger than what the heap serves

Whatever layers ask for, a buffer gets its bytes from the heap: it is never
larger than the largest size that the heap serves.  A layer may ask for any
size, and may stop at a fault on the way; what is held under a handle afterwards
is still of a size that the heap has served, or smaller.

`Confines` is the contract of a source about a bound on sizes, and
`confined_performAll` carries it through the calls of a session.
-/

namespace BufferBudget

/-- A heap serves no size above a bound. -/
def Heap.Within (heap : Heap) (bound : Nat) : Prop :=
  ∀ size, heap.serves size = true → size ≤ bound

/-- A new buffer, if there is one, is not larger than a bound. -/
def Confined (bound : Nat) (result : Option Contents) : Prop :=
  ∀ contents, result = some contents → contents.size ≤ bound

/--
The contract of a source about a bound on sizes: no new buffer is larger, and no
other becomes larger, however a call ends.
-/
structure Source.Confines (source : Source) (bound : Nat) : Prop where
  allocate : ∀ requested minimal world, Ends (source.allocate requested minimal)
    world (fun result _ => Confined bound result) (fun _ _ => True)
  resize : ∀ requested minimal bench, bench.contents.size ≤ bound →
    Ends (source.resize requested minimal) bench
      (fun _ later => later.contents.size ≤ bound)
      (fun _ later => later.contents.size ≤ bound)

variable {bound : Nat} {below : Source}

theorem confined_none : Confined bound none :=
  fun _ impossible => nomatch impossible

theorem confined_some {contents : Contents} (within : contents.size ≤ bound) :
    Confined bound (some contents) := by
  rintro _ ⟨⟩
  exact within

theorem Source.Confines.noting
    {source : Source}
    (confines : source.Confines bound)
    (site : Site) :
    (source.noting site).Confines bound where
  allocate := fun requested minimal world =>
    noting_allocate_rule (confines.allocate requested minimal world)
  resize := fun requested minimal bench within =>
    noting_resize_rule (confines.resize requested minimal bench within)

theorem Heap.confines_source {heap : Heap} (least : heap.Within bound) :
    heap.source.Confines bound where
  allocate := by
    intro requested minimal world
    refine allocate_rule (fun _ => confined_none) fun serves => confined_some ?_
    rw [Contents.size_fresh]
    exact least requested serves
  resize := by
    intro requested minimal bench within
    refine resize_rule (fun _ _ => within) (fun larger serves => ?_)
      (fun smaller => ?_) (fun _ => within)
    · show (bench.contents.extend requested).size ≤ bound
      rw [Contents.size_extend _ (Nat.le_of_lt larger)]
      exact least requested serves
    · show (bench.contents.truncate requested).size ≤ bound
      rw [Contents.size_truncate _ (Nat.le_of_lt smaller)]
      exact Nat.le_trans (Nat.le_of_lt smaller) within

section Layers

variable (confines : below.Confines bound)

include confines

namespace Mediated

variable (mediator : Nat)

theorem confines_allocate (requested minimal : Nat) (world : World) :
    Ends (allocate mediator below requested minimal) world
      (fun result _ => Confined bound result) (fun _ _ => True) := by
  refine allocate_rule (fun _ result _ => Confined bound result) ends_somehow
    (fun _ _ => confined_none)
    (fun granted later _ => confines.allocate granted minimal later)
    ?refused ?short (fun _ _ _ confined _ => confined)
  case refused => exact fun _ _ _ => ends_somehow.imp fun _ _ _ => confined_none
  case short =>
    exact fun _ _ _ confined _ => ends_somehow.imp fun _ _ _ => confined

theorem confines_resize
    (requested minimal : Nat)
    (bench : Workbench)
    (within : bench.contents.size ≤ bound) :
    Ends (resize mediator below requested minimal) bench
      (fun _ later => later.contents.size ≤ bound)
      (fun _ later => later.contents.size ≤ bound) := by
  refine resize_rule (fun _ => ?shrunk) (fun larger => ?grown)
  case shrunk =>
    refine shrink_rule (confines.resize requested minimal bench within)
      (fun _ small => small) (fun _ small _ => small) fun _ small _ => ?_
    exact ends_of_forall (fun _ _ => small) (fun _ _ => small)
  case grown =>
    have asked :
        Ends (Mediation.grant mediator (requested - bench.contents.size)
          (minimal - bench.contents.size)) bench.world (fun _ _ => True)
          (fun _ _ => bench.contents.size ≤ bound) :=
      ends_of_forall (fun _ _ => trivial) (fun _ _ => within)
    refine grow_rule (fun _ _ later => later.contents.size ≤ bound) larger asked
      (fun _ _ => within) (fun _ _ _ _ => within) (fun granted later _ _ =>
        confines.resize _ minimal { bench with world := later } within)
      (fun _ _ small => ?_) (fun _ _ small _ => small) (fun _ _ small _ => ?_)
    · exact ends_of_forall (fun _ _ => small) (fun _ _ => small)
    · exact ends_of_forall (fun _ _ => small) (fun _ _ => small)

theorem confines_source : (source mediator below).Confines bound where
  allocate := confines_allocate confines mediator
  resize := confines_resize confines mediator

end Mediated

theorem Clearing.confines_source : (source below).Confines bound where
  allocate := by
    intro requested minimal world
    refine allocate_rule ((confines.allocate requested minimal world).imp ?_)
    intro result _ confined
    cases result with
    | none => exact confined_none
    | some contents =>
        refine confined_some ?_
        rw [Contents.size_fill]
        exact confined contents rfl
  resize := by
    intro requested minimal bench within
    refine resize_rule (confines.resize requested minimal bench within)
      (fun _ _ small _ => small) fun later small _ => ?_
    show (later.contents.zeroFrom bench.contents.size).size ≤ bound
    rw [Contents.size_zeroFrom]
    exact small

theorem Bypass.confines_source (mediator amount : Nat) :
    (source mediator amount below).Confines bound where
  allocate := fun requested minimal _ =>
    allocate_rule (fun result _ => Confined bound result) ends_somehow
      (fun rest later _ =>
        Mediated.confines_allocate confines mediator requested
          (raiseMinimal requested minimal rest) later)
      (fun _ _ confined => confined)
      (fun later _ =>
        Mediated.confines_allocate confines mediator requested minimal later)
  resize := fun requested minimal bench within =>
    resize_rule (fun _ _ => True) (fun _ later => later.contents.size ≤ bound)
      (ends_of_forall (fun _ _ => trivial) (fun _ _ => within))
      (fun rest later _ => Mediated.confines_resize confines mediator requested
        (raiseMinimal requested minimal rest)
        { bench with world := later } within)
      (fun _ small => small)
      (fun later small => Mediated.confines_resize confines mediator requested
        minimal later small)

theorem Guaranteed.confines_source (mediator amount : Nat) :
    (source mediator amount below).Confines bound where
  allocate := fun requested _ _ =>
    allocate_rule (fun _ => confined_none) fun _ =>
      Mediated.confines_allocate confines mediator requested requested _
  resize := fun requested _ bench within =>
    resize_rule (fun _ _ => within) (fun _ => Mediated.confines_resize confines
      mediator requested requested bench within)
    (fun _ _ => Mediated.confines_resize confines mediator requested requested
      { bench with world := _ } within)

theorem Tallied.confines_source (tally : Nat) :
    (source tally below).Confines bound where
  allocate := fun requested minimal world =>
    allocate_rule (confines.allocate requested minimal world)
      (fun _ _ confined => confined) (fun _ _ => confined_none)
  resize := fun requested minimal bench within =>
    resize_rule (confines.resize requested minimal bench within)
      (fun _ _ small _ => small) (fun _ _ small _ => small)
      (fun _ small _ _ => small) (fun _ _ small _ _ => small)

namespace Tracked

variable (lineage : Lineage) (enforcing : Bool)

theorem confines_allocateFirst (targets : List Nat) (world : World) :
    Ends (allocateFirst lineage enforcing below targets) world
      (fun result _ => Confined bound result) (fun _ _ => True) := by
  induction targets generalizing world with
  | nil => exact confined_none
  | cons target rest ih =>
      exact allocateFirst_rule (fun result _ => Confined bound result)
        (fun _ => True) ends_somehow
        (fun later _ => confines.allocate target target later)
        (fun _ _ confined => confined)
        (fun _ _ => ends_somehow) (fun later _ => ih later)

theorem confines_resizeTo
    (old target : Nat)
    (bench : Workbench)
    (within : bench.contents.size ≤ bound) :
    Ends (resizeTo lineage enforcing below old target) bench
      (fun _ later => later.contents.size ≤ bound)
      (fun _ later => later.contents.size ≤ bound) := by
  refine Ends.ite (fun _ => ?shrunk) (fun larger => ?grown)
  case shrunk =>
    refine shrinkTo_rule (confines.resize target target bench within)
      (fun _ small => small) (fun _ small _ => small) fun _ small _ => ?_
    exact ends_of_forall (fun _ _ => small) (fun _ _ => small)
  case grown =>
    refine growTo_rule (fun _ _ => True)
      (fun _ later => later.contents.size ≤ bound) (Nat.not_le.mp larger)
      (ends_of_forall (fun _ _ => trivial) (fun _ _ => within))
      (fun _ _ => within) (fun later _ =>
        confines.resize target target { bench with world := later } within)
      (fun _ small => small) fun _ small => ?_
    exact ends_of_forall (fun _ _ => small) (fun _ _ => small)

theorem confines_resizeFirst
    (old : Nat)
    (targets : List Nat)
    (bench : Workbench)
    (within : bench.contents.size ≤ bound) :
    Ends (resizeFirst lineage enforcing below old targets) bench
      (fun _ later => later.contents.size ≤ bound)
      (fun _ later => later.contents.size ≤ bound) := by
  induction targets generalizing bench with
  | nil => exact within
  | cons target rest ih =>
      exact resizeFirst_rule (fun _ later => later.contents.size ≤ bound)
        (confines_resizeTo confines lineage enforcing old target bench within)
        (fun _ small => small) (fun later small => ih later small)

theorem confines_source : (source lineage enforcing below).Confines bound where
  allocate := fun requested minimal => confines_allocateFirst confines lineage
    enforcing (targets requested minimal)
  resize := fun requested minimal bench within =>
    (ends_bind Resizing.size _).mpr (confines_resizeFirst confines lineage
      enforcing bench.contents.size (targets requested minimal) bench within)

end Tracked

theorem Locked.confines_source (lock : Nat) :
    (source lock below).Confines bound where
  allocate := fun requested minimal _ =>
    (ends_holding _ _).mpr (confines.allocate requested minimal _)
  resize := fun requested minimal bench within =>
    (ends_holdingResizing _ _).mpr
      (confines.resize requested minimal { bench with world := _ } within)

theorem Probe.confines_source (probe : Nat) (screen : Screen) :
    (source probe screen below).Confines bound where
  allocate := fun requested minimal _ => allocate_rule confined_none
    (confines.allocate (screen.lower requested minimal) minimal _)
  resize := fun requested minimal bench within =>
    resize_rule within (confines.resize (screen.lower requested minimal) minimal
      { bench with world := _ } within)

/-- No layer makes a buffer larger than the source below does. -/
theorem Layer.confines_over (layer : Layer) :
    (layer.over below).Confines bound := by
  cases layer with
  | mediated mediator => exact Mediated.confines_source confines mediator
  | clearing => exact Clearing.confines_source confines
  | bypass mediator amount =>
      exact Bypass.confines_source confines mediator amount
  | guaranteed mediator amount =>
      exact Guaranteed.confines_source confines mediator amount
  | tallied tally => exact Tallied.confines_source confines tally
  | tracked lineage enforcing =>
      exact Tracked.confines_source confines lineage enforcing
  | locked lock => exact Locked.confines_source confines lock
  | relay => exact confines
  | probe number screen => exact Probe.confines_source confines number screen

end Layers

namespace Allocator

variable {allocator : Allocator}

theorem confines_source (least : allocator.heap.Within bound) :
    allocator.source.Confines bound := by
  obtain ⟨layers, heap⟩ := allocator
  induction layers with
  | nil => exact (Heap.confines_source least).noting .heap
  | cons layer layers ih =>
      exact (layer.confines_over (ih least)).noting (.layer layer)

theorem confined_allocate
    (least : allocator.heap.Within bound)
    (requested minimal : Nat)
    (world : World) :
    Ends (allocator.allocate requested minimal) world
      (fun result _ => ∀ buffer, result = some buffer →
        buffer.originator = allocator ∧
          buffer.size ≤ bound) (fun _ _ => True) := by
  refine allocate_rule (fun result _ => Confined bound result)
    (fun _ => trivial) (fun _ =>
      (confines_source least).allocate requested minimal world) ?told
  case told =>
    intro result _ confined _ buffer made
    obtain ⟨contents, given, rfl⟩ := Option.map_eq_some_iff.mp made
    exact ⟨rfl, confined contents given⟩

theorem confined_tryAllocate
    (least : allocator.heap.Within bound)
    (requested minimal : Nat)
    (world : World) :
    Ends (allocator.tryAllocate requested minimal) world
      (fun result _ => ∀ buffer, result = .ok buffer →
        buffer.originator = allocator ∧
          buffer.size ≤ bound) (fun _ _ => True) := by
  refine tryAllocate_rule (confined_allocate least requested minimal world)
    ?given ?read
  case given =>
    rintro buffer _ made _ ⟨⟩
    exact made buffer rfl
  case read =>
    exact fun _ _ => ends_of_forall (fun _ _ => nofun) (fun _ _ => trivial)

theorem confined_resize
    (least : allocator.heap.Within bound)
    (requested minimal : Nat)
    {bench : Workbench}
    (within : bench.contents.size ≤ bound) :
    Ends (allocator.resize requested minimal) bench
      (fun _ later => later.contents.size ≤ bound)
      (fun _ later => later.contents.size ≤ bound) :=
  resize_rule (fun _ later => later.contents.size ≤ bound) (fun _ => within)
    (fun _ => (confines_source least).resize requested minimal bench within)
    (fun _ _ small _ => small)

theorem confined_tryResize
    (least : allocator.heap.Within bound)
    (requested : Nat)
    {bench : Workbench}
    (within : bench.contents.size ≤ bound) :
    Ends (allocator.tryResize requested) bench
      (fun _ later => later.contents.size ≤ bound)
      (fun _ later => later.contents.size ≤ bound) :=
  tryResize_rule (fun _ later => later.contents.size ≤ bound)
    (confined_resize least requested requested within) (fun _ small => small)
    (fun _ small => small)

end Allocator

namespace Session

/--
Every buffer that is held came from a heap that serves no size above a bound,
and is not larger than the bound itself.
-/
def Confined (bound : Nat) (session : Session) : Prop :=
  ∀ handle buffer, session.shelf.find? handle = some buffer →
    buffer.originator.heap.Within bound ∧ buffer.size ≤ bound

variable {session : Session}

namespace Confined

variable (confined : session.Confined bound)

include confined

theorem insert
    (world : World)
    (handle : Nat)
    {buffer : Buffer}
    (least : buffer.originator.heap.Within bound)
    (within : buffer.size ≤ bound) :
    Confined bound { world, shelf := session.shelf.insert handle buffer } := by
  intro place other found
  rw [Shelf.find?_insert] at found
  split at found
  · exact Option.some.inj found ▸ ⟨least, within⟩
  · exact confined place other found

theorem erase (world : World) (handle : Nat) :
    Confined bound { world, shelf := session.shelf.erase handle } := by
  intro place other found
  rw [Shelf.find?_erase] at found
  split at found
  · exact nomatch found
  · exact confined place other found

theorem release (handle : Nat) : (session.release handle).2.Confined bound := by
  refine release_rule (fun _ later => later.Confined bound)
    (fun _ => confined) fun _ _ => ?_
  exact ends_of_forall (fun _ _ => confined.erase _ handle)
    (fun _ _ => confined.erase _ handle)

theorem allocateInto
    (handle : Nat)
    {allocator : Allocator}
    (least : allocator.heap.Within bound)
    (requested minimal : Nat) :
    (session.allocateInto handle allocator requested minimal).2.Confined
      bound := by
  refine allocateInto_rule (fun _ later => later.Confined bound)
    ((Allocator.confined_allocate least requested minimal session.world).mono
      (fun result _ made => ⟨fun _ => confined, fun buffer given => ?_⟩)
      fun _ _ _ => confined)
  obtain ⟨origin, within⟩ := made buffer given
  exact confined.insert _ handle (origin.symm ▸ least) within

theorem tryAllocateInto
    (handle : Nat)
    {allocator : Allocator}
    (least : allocator.heap.Within bound)
    (requested minimal : Nat) :
    (session.tryAllocateInto handle allocator requested minimal).2.Confined
      bound := by
  refine tryAllocateInto_rule (fun _ later => later.Confined bound)
    ((Allocator.confined_tryAllocate least requested minimal session.world).mono
      (fun result _ made => ⟨fun _ _ => confined, fun buffer given => ?_⟩)
      fun _ _ _ => confined)
  obtain ⟨origin, within⟩ := made buffer given
  exact confined.insert _ handle (origin.symm ▸ least) within

theorem resizeHeld
    {α : Type}
    (handle : Nat)
    {buffer : Buffer}
    {resizing : Resizing α}
    (least : buffer.originator.heap.Within bound)
    (resized :
      Ends resizing { world := session.world, contents := buffer.contents }
      (fun _ later => later.contents.size ≤ bound)
      (fun _ later => later.contents.size ≤ bound)) :
    (session.resizeHeld handle buffer resizing).2.2.Confined bound :=
  resizeHeld_rule (fun _ _ later => later.Confined bound)
    (resized.mono (fun _ _ within => confined.insert _ handle least within)
      fun _ _ within => confined.insert _ handle least within)

theorem performNew
    (handle : Nat)
    {next : Session → Answer × Session}
    {stopped : Fault → Answer}
    (onwards : ∀ later : Session, later.Confined bound →
      (next later).2.Confined bound) :
    (session.performNew handle next stopped).2.Confined bound := by
  have released := confined.release handle
  refine performNew_rule (fun outcome => outcome.2.Confined bound)
    (fun _ _ ended => ?_) (fun _ later ended => ?_)
  · rwa [ended] at released
  · rw [ended] at released
    exact onwards later released

theorem performHeld
    (handle : Nat)
    {next : Buffer → Answer × Session}
    (onwards : ∀ buffer, buffer.originator.heap.Within bound →
      buffer.size ≤ bound → (next buffer).2.Confined bound) :
    (session.performHeld handle next).2.Confined bound :=
  performHeld_rule (fun outcome => outcome.2.Confined bound) (fun _ => confined)
    fun buffer found => (confined handle buffer found).elim (onwards buffer)

theorem run {α : Type} (operation : Operation α) :
    (session.run operation).2.Confined bound :=
  confined

/-- A call that names no other heaps leaves no buffer larger. -/
theorem perform {call : Call} (names : call.Names (·.heap.Within bound)) :
    (session.perform call).2.Confined bound := by
  cases call with
  | allocate handle allocator requested minimal =>
      exact confined.performNew handle fun _ vacated =>
        vacated.allocateInto handle names requested minimal
  | tryAllocate handle allocator requested minimal =>
      exact confined.performNew handle fun _ vacated =>
        vacated.tryAllocateInto handle names requested minimal
  | resizeSlot handle allocator requested minimal =>
      rw [Session.perform]
      split
      · exact confined.allocateInto handle names requested minimal
      · rename_i buffer found
        obtain ⟨least, within⟩ := confined handle buffer found
        exact confined.resizeHeld handle least
          (Allocator.confined_resize names requested minimal within)
  | resize handle through requested minimal =>
      refine confined.performHeld handle fun buffer least within => ?_
      have named := property_through names least
      exact confined.resizeHeld handle least
        (Allocator.confined_resize named requested minimal within)
  | tryResize handle through requested =>
      refine confined.performHeld handle fun buffer least within => ?_
      have named := property_through names least
      exact confined.resizeHeld handle least
        (Allocator.confined_tryResize named requested within)
  | free handle => exact confined.release handle
  | fill handle byte =>
      refine confined.performHeld handle fun _ least within =>
        confined.insert _ handle least ?_
      exact Nat.le_trans (Nat.le_of_eq (Contents.size_fill _ byte)) within
  | write handle offset bytes =>
      refine confined.performHeld handle fun _ least within =>
        confined.insert _ handle least ?_
      exact Nat.le_trans
        (Nat.le_of_eq (Contents.size_write _ offset bytes)) within
  | read handle => exact confined.performHeld handle fun _ _ _ => confined
  | originAvailable handle =>
      exact confined.performHeld handle fun _ _ _ => confined.run _
  | describe handle address =>
      exact confined.performHeld handle fun _ _ _ => confined
  | setCeiling mediator ceiling => exact confined.run _
  | mediatorAllocate mediator requested minimal => exact confined.run _
  | mediatorFree mediator amount => exact confined.run _
  | tryConsume lineage bytes => exact confined.run _
  | consume lineage bytes => exact confined.run _
  | release lineage bytes => exact confined.run _

end Confined

/--
Whatever is done with allocators over heaps that serve no size above a bound, no
buffer that is held is larger than the bound.
-/
theorem confined_performAll
    (world : World)
    {calls : List Call}
    (names : ∀ call ∈ calls, call.Names (·.heap.Within bound)) :
    ((start world).performAll calls).Confined bound :=
  (follows_of_forall names (start world)).invariant (·.Confined bound)
    (fun _ _ named confined => confined.perform named)
    fun _ _ found => nomatch found

end Session

end BufferBudget
