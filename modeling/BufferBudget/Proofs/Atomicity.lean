import BufferBudget.Proofs.Standing

/-!
# Refused requests give everything back

A request may be refused at any depth of a stack, after the layers above have
been granted and charged what they asked for, and a layer may try a second time
before it gives up.  Every layer gives back what it had got.

`Atomic` states this as a contract of sources: a refusal leaves the world at the
standing at which the request was made, and a buffer as it was.  It says nothing
of a request that is met or stops at a fault.  A probe refuses the calls that
its screen names, whichever they are, so that it stands for any source below
that may refuse.
-/

namespace BufferBudget

/--
A request for a buffer has ended with one, or has left the world at a standing.
-/
def ReturnsTo
    (watch : Watch)
    (standing : Standing)
    (result : Option Contents)
    (later : World) : Prop :=
  result = none → RestsAt watch standing later

/--
A resizing has been met, or has left the world at a standing and the
contents as they were.
-/
def ResizingReturnsTo
    (watch : Watch)
    (standing : Standing)
    (contents : Contents)
    (met : Bool)
    (later : Workbench) : Prop :=
  met = false → RestsAt watch standing later.world ∧ later.contents = contents

/-- The contract of a source about refusals. -/
structure Source.Atomic (source : Source) : Prop where
  allocate : ∀ {watch standing world} requested minimal,
    RestsAt watch standing world →
    Ends (source.allocate requested minimal) world (ReturnsTo watch standing)
      (fun _ _ => True)
  resize : ∀ {watch standing bench} requested minimal,
    RestsAt watch standing bench.world →
    Ends (source.resize requested minimal) bench
      (ResizingReturnsTo watch standing bench.contents) (fun _ _ => True)

section Postconditions

variable
    {watch : Watch}
    {standing : Standing}
    {world : World}
    {bench : Workbench}
    {contents : Contents}

theorem returnsTo_some : ReturnsTo watch standing (some contents) world :=
  nofun

theorem returnsTo_none (rests : RestsAt watch standing world) :
    ReturnsTo watch standing none world :=
  fun _ => rests

theorem resizingReturnsTo_true :
    ResizingReturnsTo watch standing contents true bench :=
  nofun

theorem resizingReturnsTo_false
    (rests : RestsAt watch standing bench.world)
    (same : bench.contents = contents) :
    ResizingReturnsTo watch standing contents false bench :=
  fun _ => ⟨rests, same⟩

theorem ReturnsTo.rests (returns : ReturnsTo watch standing none world) :
    RestsAt watch standing world :=
  returns rfl

theorem ResizingReturnsTo.rests
    (returns : ResizingReturnsTo watch standing contents false bench) :
    RestsAt watch standing bench.world :=
  (returns rfl).1

theorem ResizingReturnsTo.same
    (returns : ResizingReturnsTo watch standing contents false bench) :
    bench.contents = contents :=
  (returns rfl).2

/-- An operation after which a buffer is handed out is free to do anything. -/
theorem ends_returnsTo_some {α : Type} {operation : Operation α} :
    Ends operation world
      (fun _ later => ReturnsTo watch standing (some contents) later)
      (fun _ _ => True) :=
  ends_of_forall (fun _ _ => returnsTo_some) (fun _ _ => trivial)

theorem ends_resizingReturnsTo_true {α : Type} {operation : Operation α} :
    Ends operation world (fun _ later =>
        ResizingReturnsTo watch standing contents true
          { bench with world := later })
      (fun _ _ => True) :=
  ends_of_forall (fun _ _ => resizingReturnsTo_true) (fun _ _ => trivial)

end Postconditions

theorem Source.Atomic.noting
    {source : Source}
    (atomic : source.Atomic)
    (site : Site) :
    (source.noting site).Atomic where
  allocate := by
    intro watch standing world requested minimal rests
    apply noting_allocate_rule
    exact (atomic.allocate requested minimal rests).imp
      (fun _ _ returns refused => (returns refused).note _)
  resize := by
    intro watch standing bench requested minimal rests
    apply noting_resize_rule
    exact (atomic.resize requested minimal rests).imp
      (fun _ _ returns refused =>
        ⟨(returns refused).1.note _, (returns refused).2⟩)

theorem Heap.atomic_source (heap : Heap) : heap.source.Atomic where
  allocate := fun _ _ rests =>
    allocate_rule (fun _ => returnsTo_none rests) (fun _ => returnsTo_some)
  resize :=
    fun _ _ rests => resize_rule (fun _ _ => resizingReturnsTo_false rests rfl)
      (fun _ _ => resizingReturnsTo_true) (fun _ => resizingReturnsTo_true)
      (fun _ => resizingReturnsTo_true)

namespace Mediated

variable {below : Source} {watch : Watch} {standing : Standing} {mediator : Nat}

theorem atomic_allocate
    (atomic : below.Atomic)
    {world : World}
    (requested minimal : Nat)
    (rests : RestsAt watch standing world) :
    Ends (allocate mediator below requested minimal) world
      (ReturnsTo watch standing) (fun _ _ => True) := by
  refine allocate_rule
    (fun granted => ReturnsTo watch (standing.lend mediator granted))
    (Mediation.rests_grant rests) ?denied ?called ?refused
    (fun _ _ _ _ _ => ends_returnsTo_some) (fun _ _ _ _ _ => returnsTo_some)
  case denied =>
    exact fun later lent =>
      returnsTo_none (lent.congr (standing.lend_zero mediator))
  case called =>
    exact fun granted later lent => atomic.allocate granted minimal lent
  case refused =>
    intro granted later returns
    exact (Mediation.rests_free returns.rests).imp
      (fun _ _ repaid => returnsTo_none repaid)

theorem atomic_grow
    (atomic : below.Atomic)
    {bench : Workbench}
    (requested minimal : Nat)
    (rests : RestsAt watch standing bench.world)
    (larger : bench.contents.size < requested) :
    Ends (grow mediator below requested minimal) bench
      (ResizingReturnsTo watch standing bench.contents) (fun _ _ => True) := by
  refine grow_rule (fun granted =>
    ResizingReturnsTo watch (standing.lend mediator granted) bench.contents)
    larger (Mediation.rests_grant rests) ?denied
    (fun _ _ _ _ => trivial) ?called ?refused
    (fun _ _ _ _ => trivial) (fun _ _ _ _ => ends_resizingReturnsTo_true)
  case denied =>
    exact fun later lent =>
      resizingReturnsTo_false (lent.congr (standing.lend_zero mediator)) rfl
  case called =>
    intro granted later lent _
    exact @Source.Atomic.resize _ atomic _ _
      { bench with world := later } _ minimal lent
  case refused =>
    intro granted later returns
    exact (Mediation.rests_free returns.rests).imp
      (fun _ _ repaid => resizingReturnsTo_false repaid returns.same)

theorem atomic_resize
    (atomic : below.Atomic)
    {bench : Workbench}
    (requested minimal : Nat)
    (rests : RestsAt watch standing bench.world) :
    Ends (resize mediator below requested minimal) bench
      (ResizingReturnsTo watch standing bench.contents) (fun _ _ => True) := by
  refine resize_rule (fun _ => ?_) (atomic_grow atomic requested minimal rests)
  exact shrink_rule (atomic.resize requested minimal rests)
    (fun _ returns => returns)
    (fun _ _ _ => trivial) (fun _ _ _ => ends_resizingReturnsTo_true)

theorem atomic_source (atomic : below.Atomic) (mediator : Nat) :
    (source mediator below).Atomic where
  allocate := atomic_allocate atomic
  resize := atomic_resize atomic

end Mediated

theorem Clearing.atomic_source {below : Source} (atomic : below.Atomic) :
    (source below).Atomic where
  allocate := by
    intro watch standing world requested minimal rests
    refine allocate_rule ((atomic.allocate requested minimal rests).imp ?_)
    exact fun _ _ returns refused => returns (Option.map_eq_none_iff.mp refused)
  resize := fun requested minimal rests =>
    resize_rule (atomic.resize requested minimal rests)
      (fun _ _ returns _ => returns) (fun _ _ _ => resizingReturnsTo_true)

namespace Bypass

variable
    {below : Source}
    {watch : Watch}
    {standing : Standing}
    {mediator amount : Nat}

theorem rests_readAvailable
    {world : World}
    (rests : RestsAt watch standing world) :
    Ends (readAvailable mediator amount below) world
      (fun _ later => RestsAt watch standing later) (fun _ _ => True) :=
  readAvailable_rule (fun _ _ => rests.noteAll _) (fun _ _ => trivial)

theorem atomic_source (atomic : below.Atomic) (mediator amount : Nat) :
    (source mediator amount below).Atomic where
  allocate := by
    intro watch standing world requested minimal rests
    exact allocate_rule (ReturnsTo watch standing) (rests_readAvailable rests)
      (fun _ _ read => Mediated.atomic_allocate atomic requested _ read)
      (fun _ _ _ => returnsTo_some) (fun _ returns =>
        Mediated.atomic_allocate atomic requested minimal returns.rests)
  resize := by
    intro watch standing bench requested minimal rests
    refine resize_rule (fun _ later => RestsAt watch standing later)
      (ResizingReturnsTo watch standing bench.contents)
      (rests_readAvailable rests) ?first
      (fun _ _ => resizingReturnsTo_true) ?again
    case first =>
      intro rest later read
      exact @Mediated.atomic_resize below watch standing mediator atomic
        { bench with world := later } requested _ read
    case again =>
      intro later returns
      rw [← returns.same]
      exact Mediated.atomic_resize atomic requested minimal returns.rests

end Bypass

theorem Guaranteed.atomic_source
    {below : Source}
    (atomic : below.Atomic)
    (mediator amount : Nat) :
    (source mediator amount below).Atomic where
  allocate := fun requested _ rests =>
    allocate_rule (fun _ => returnsTo_none (rests.noteAll _)) fun _ =>
    Mediated.atomic_allocate atomic requested requested (rests.noteAll _)
  resize := by
    intro watch standing bench requested minimal rests
    have read := rests.noteAll (Mediation.readLocks bench.world mediator)
    refine resize_rule (fun _ _ => resizingReturnsTo_false read rfl)
      (fun _ => Mediated.atomic_resize atomic requested requested rests)
      fun _ _ => ?_
    exact @Mediated.atomic_resize below watch standing mediator atomic
      { bench with world := _ } requested requested read

theorem Tallied.atomic_source
    {below : Source}
    (atomic : below.Atomic)
    (tally : Nat) :
    (source tally below).Atomic where
  allocate := fun requested minimal rests => allocate_rule
    (atomic.allocate requested minimal rests) (fun _ _ _ => returnsTo_some)
    (fun _ returns => returnsTo_none (returns.rests.refused tally minimal))
  resize := by
    intro watch standing bench requested minimal rests
    -- a refused resize leaves the size alone, so it is reported as a
    -- refusal or not at all
    refine resize_rule (atomic.resize requested minimal rests) ?grown ?cut
      ?missed (fun _ _ returns _ _ => returns)
    case grown =>
      rintro met later returns larger refused
      exact absurd larger (by rw [(returns refused).2]; exact Nat.lt_irrefl _)
    case cut =>
      rintro met later returns smaller refused
      exact absurd smaller (by rw [(returns refused).2]; exact Nat.lt_irrefl _)
    case missed =>
      exact fun later returns _ _ =>
        resizingReturnsTo_false (returns.rests.refused tally _) returns.same

namespace Tracked

variable
    {below : Source}
    {watch : Watch}
    {standing : Standing}
    {lineage : Lineage}
    {enforcing : Bool}

/-- A charge that is forced past the limits is a charge like any other. -/
theorem rests_charge
    {world : World}
    (rests : RestsAt watch standing world)
    (size : Nat) :
    Ends (charge lineage enforcing size) world
      (fun admitted later => RestsAt watch
        (if admitted then standing.charge (Amount.ofSize size) lineage.members
        else standing) later)
      (fun _ _ => True) := by
  refine charge_rule
    (Charging.rests_tryConsume rests (Amount.ofSize_nonneg size) lineage)
    (fun _ charged => charged) (fun _ uncharged _ => uncharged) ?_
  exact fun _ uncharged _ => Charging.rests_consume uncharged lineage

theorem rests_discharge
    {world : World}
    {size : Nat}
    (rests : RestsAt watch
      (standing.charge (Amount.ofSize size) lineage.members) world) :
    Ends (discharge lineage size) world
      (fun _ later => RestsAt watch standing later) (fun _ _ => True) := by
  refine Ends.ite (fun _ => Charging.rests_release rests) (fun empty => ?_)
  obtain rfl : size = 0 := Nat.eq_zero_of_not_pos empty
  exact rests.congr (standing.charge_zero lineage.members)

theorem atomic_allocateFirst
    (atomic : below.Atomic)
    {world : World}
    (rests : RestsAt watch standing world)
    (targets : List Nat) :
    Ends (allocateFirst lineage enforcing below targets) world
      (ReturnsTo watch standing) (fun _ _ => True) := by
  induction targets generalizing world with
  | nil => exact returnsTo_none rests
  | cons target rest ih =>
      refine allocateFirst_rule (ReturnsTo watch
        (standing.charge (Amount.ofSize target) lineage.members))
        (RestsAt watch standing) (rests_charge rests target)
        (fun _ charged => atomic.allocate target target charged)
        (fun _ _ _ => returnsTo_some)
        (fun _ returns => rests_discharge returns.rests) ?again
      case again =>
        rintro later (uncharged | discharged)
        · exact ih uncharged
        · exact ih discharged

theorem atomic_resizeTo
    (atomic : below.Atomic)
    {bench : Workbench}
    (rests : RestsAt watch standing bench.world)
    (old target : Nat) :
    Ends (resizeTo lineage enforcing below old target) bench
      (ResizingReturnsTo watch standing bench.contents) (fun _ _ => True) := by
  refine Ends.ite (fun _ => ?shrunk) (fun notSmaller => ?grown)
  case shrunk =>
    exact shrinkTo_rule (atomic.resize target target rests)
      (fun _ returns => returns)
      (fun _ _ _ => trivial) (fun _ _ _ => ends_resizingReturnsTo_true)
  case grown =>
    refine growTo_rule _ (ResizingReturnsTo watch
      (standing.charge (Amount.ofSize (target - old)) lineage.members)
      bench.contents)
      (Nat.not_le.mp notSmaller) (rests_charge rests (target - old))
      (fun _ uncharged => resizingReturnsTo_false uncharged rfl) ?called
      (fun _ _ => resizingReturnsTo_true) ?refused
    case called =>
      intro later charged
      exact @Source.Atomic.resize _ atomic _ _
        { bench with world := later } target target charged
    case refused =>
      intro later returns
      exact (rests_discharge returns.rests).imp
        (fun _ _ repaid => resizingReturnsTo_false repaid returns.same)

theorem atomic_resizeFirst
    (atomic : below.Atomic)
    {bench : Workbench}
    (rests : RestsAt watch standing bench.world)
    (old : Nat)
    (targets : List Nat) :
    Ends (resizeFirst lineage enforcing below old targets) bench
      (ResizingReturnsTo watch standing bench.contents) (fun _ _ => True) := by
  induction targets generalizing bench with
  | nil => exact resizingReturnsTo_false rests rfl
  | cons target rest ih =>
      refine resizeFirst_rule (ResizingReturnsTo watch standing bench.contents)
        (atomic_resizeTo atomic rests old target)
        (fun _ _ => resizingReturnsTo_true) ?again
      case again =>
        intro later returns
        rw [← returns.same]
        exact ih returns.rests

theorem atomic_source
    (atomic : below.Atomic)
    (lineage : Lineage)
    (enforcing : Bool) :
    (source lineage enforcing below).Atomic where
  allocate := fun requested minimal rests =>
    atomic_allocateFirst atomic rests (targets requested minimal)
  resize := fun requested minimal rests =>
    (ends_bind Resizing.size _).mpr
      (atomic_resizeFirst atomic rests _ (targets requested minimal))

end Tracked

theorem Locked.atomic_source
    {below : Source}
    (atomic : below.Atomic)
    (lock : Nat) :
    (source lock below).Atomic where
  allocate := by
    intro watch standing world requested minimal rests
    refine (ends_holding _ _).mpr ?_
    exact (atomic.allocate requested minimal (rests.note _)).imp
      (fun _ _ returns refused => (returns refused).note _)
  resize := by
    intro watch standing bench requested minimal rests
    refine (ends_holdingResizing _ _).mpr ?_
    exact (@Source.Atomic.resize _ atomic _ _
      { bench with world := _ } requested minimal (rests.note _)).imp
      (fun _ _ returns refused =>
        ⟨(returns refused).1.note _, (returns refused).2⟩)

theorem Probe.atomic_source
    {below : Source}
    (atomic : below.Atomic)
    (probe : Nat)
    (screen : Screen) :
    (source probe screen below).Atomic where
  allocate := by
    intro watch standing world requested minimal rests
    have counted : RestsAt watch standing (world.countProbe probe) :=
      rests.move rfl rests.measured (fun _ => rfl) fun stands => stands
    exact allocate_rule (returnsTo_none counted)
      (atomic.allocate _ minimal counted)
  resize := by
    intro watch standing bench requested minimal rests
    have counted : RestsAt watch standing (bench.world.countProbe probe) :=
      rests.move rfl rests.measured (fun _ => rfl) fun stands => stands
    refine resize_rule (resizingReturnsTo_false counted rfl) ?_
    exact @Source.Atomic.resize _ atomic _ _
      { bench with world := _ } _ minimal counted

/-- A layer over a source whose refusals leave no trace leaves none either. -/
theorem Layer.atomic_over
    (layer : Layer)
    {below : Source}
    (atomic : below.Atomic) :
    (layer.over below).Atomic := by
  cases layer with
  | mediated mediator => exact Mediated.atomic_source atomic mediator
  | clearing => exact Clearing.atomic_source atomic
  | bypass mediator amount => exact Bypass.atomic_source atomic mediator amount
  | tallied tally => exact Tallied.atomic_source atomic tally
  | tracked lineage enforcing =>
      exact Tracked.atomic_source atomic lineage enforcing
  | locked lock => exact Locked.atomic_source atomic lock
  | relay => exact atomic
  | guaranteed mediator amount =>
      exact Guaranteed.atomic_source atomic mediator amount
  | probe number screen => exact Probe.atomic_source atomic number screen

/-- The refusals of every allocator leave no trace. -/
theorem Allocator.atomic_source (allocator : Allocator) :
    allocator.source.Atomic := by
  obtain ⟨layers, heap⟩ := allocator
  induction layers with
  | nil => exact (Heap.atomic_source heap).noting .heap
  | cons layer layers ih => exact (layer.atomic_over ih).noting (.layer layer)

end BufferBudget
