import BufferBudget.Allocator
import BufferBudget.Proofs.Mediation
import Mathlib.Logic.Relation

/-!
# Leading from world to world

`Leads` says of an action that it takes a world to another by steps of some
kind, however it ends.  What the steps are is left open.

The layers of an allocator touch a world only through its accounts, and through
the notes that are taken of calls.  If all of these lead by steps of a kind
(`Accounts.LeadBy`), so does what a layer makes of a source that does
(`Source.LeadsBy`).  A layer with a lock is the exception: there the steps below
may be of another kind than those of the whole, and what ties the two together
is a condition on the lock alone.
-/

namespace BufferBudget

open Relation

/--
However an action ends, it leads from the world that is seen in a state to the
world that is seen afterwards by steps of a kind, and it stops at no other
faults than some.
-/
def Leads
    {σ α : Type}
    (view : σ → World)
    (step : World → World → Prop)
    (stops : Fault → Prop)
    (action : EStateM Fault σ α) : Prop :=
  ∀ state, Ends action state
    (fun _ later => ReflTransGen step (view state) (view later))
    (fun fault later =>
      ReflTransGen step (view state) (view later) ∧ stops fault)

section Rules

variable
    {σ α β : Type}
    {view : σ → World}
    {step : World → World → Prop}
    {stops : Fault → Prop}

theorem leads_pure (value : α) :
    Leads view step stops (pure value : EStateM Fault σ α) :=
  fun _ => .refl

theorem leads_throw {fault : Fault} (stop : stops fault) :
    Leads view step stops (throw fault : EStateM Fault σ α) :=
  fun _ => ⟨.refl, stop⟩

theorem leads_get : Leads view step stops (get : EStateM Fault σ σ) :=
  fun _ => .refl

/-- One action after another leads where both do. -/
theorem Leads.bind
    {action : EStateM Fault σ α}
    {next : α → EStateM Fault σ β}
    (first : Leads view step stops action)
    (rest : ∀ value, Leads view step stops (next value)) :
    Leads view step stops (action >>= next) := by
  intro state
  rw [ends_bind]
  refine (first state).mono ?_ ?_
  · intro value middle reached
    exact (rest value middle).mono (fun _ _ further => reached.trans further)
      (fun _ _ further => ⟨reached.trans further.1, further.2⟩)
  · intro fault later reached
    exact reached

theorem Leads.ite
    {condition : Prop}
    [Decidable condition]
    {yes no : EStateM Fault σ α}
    (whenTrue : Leads view step stops yes)
    (whenFalse : Leads view step stops no) :
    Leads view step stops (if condition then yes else no) := by
  split
  · exact whenTrue
  · exact whenFalse

/-- What has led to a state goes on leading. -/
theorem Leads.further
    {action : EStateM Fault σ α}
    (leads : Leads view step stops action)
    {world : World}
    {state : σ}
    (reached : ReflTransGen step world (view state)) :
    Ends action state (fun _ later => ReflTransGen step world (view later))
      (fun fault later => ReflTransGen step world (view later) ∧ stops fault) :=
  (leads state).mono (fun _ _ onward => reached.trans onward)
    (fun _ _ onward => ⟨reached.trans onward.1, onward.2⟩)

/-- Steps of one kind may all be steps of another. -/
theorem Leads.mono
    {action : EStateM Fault σ α}
    {weaker : World → World → Prop}
    (leads : Leads view step stops action)
    (weaken : ∀ world later, step world later → weaker world later) :
    Leads view weaker stops action :=
  fun state =>
    (leads state).mono (fun _ _ reached => ReflTransGen.mono weaken _ _ reached)
      fun _ _ reached => ⟨ReflTransGen.mono weaken _ _ reached.1, reached.2⟩

end Rules

namespace Operation

variable {α : Type} {step inner : World → World → Prop} {stops : Fault → Prop}

/-- An operation leads by steps of a kind, and may stop at any fault. -/
abbrev LeadsBy (step : World → World → Prop) (operation : Operation α) : Prop :=
  Leads id step (fun _ => True) operation

theorem leads_ofExcept (result : Except Fault α) :
    LeadsBy step (ofExcept result) := by
  cases result with
  | ok value => exact leads_pure value
  | error fault => exact leads_throw trivial

theorem leads_forM
    {action : Nat → Operation Unit}
    {keys : List Nat}
    (each : ∀ key ∈ keys, Leads id step stops (action key)) :
    Leads id step stops (keys.forM action) := by
  induction keys with
  | nil => exact leads_pure ()
  | cons key rest ih =>
      exact (each key List.mem_cons_self).bind fun _ =>
        ih fun other member => each other (List.mem_cons_of_mem key member)

theorem leads_noteAll
    {events : List Event}
    (noted : ∀ world : World, ReflTransGen step world (world.noteAll events)) :
    LeadsBy step (noteAll events) :=
  noted

/-- Diagnostics are emitted one by one. -/
theorem leads_emit
    (emitted : ∀ (world : World) diagnostic,
      step world (world.note (.emitted diagnostic)))
    (diagnostics : List Diagnostic) :
    LeadsBy step (emit diagnostics) := by
  intro world
  rw [ends_emit]
  refine World.noteAll_preserves (fun event member now reached => ?_) .refl
  obtain ⟨diagnostic, -, rfl⟩ := List.mem_map.mp member
  exact reached.tail (emitted now diagnostic)

/-- A lock encloses steps of one kind in steps of another. -/
theorem leads_holding
    {lock : Lock}
    (encloses : ∀ world later : World,
      ReflTransGen inner (world.note (.acquired lock)) later →
      ReflTransGen step world (later.note (.released lock)))
    {operation : Operation α}
    (leads : LeadsBy inner operation) :
    LeadsBy step (holding lock operation) := by
  intro world
  rw [ends_holding]
  exact (leads (world.note (.acquired lock))).mono
    (fun _ later => encloses world later)
    (fun _ later reached => ⟨encloses world later reached.1, trivial⟩)

end Operation

namespace Resizing

variable {α : Type} {step inner : World → World → Prop}

/-- A resizing leads by steps of a kind, and may stop at any fault. -/
abbrev LeadsBy (step : World → World → Prop) (resizing : Resizing α) : Prop :=
  Leads Workbench.world step (fun _ => True) resizing

theorem leads_ofOperation
    {operation : Operation α}
    (leads : Operation.LeadsBy step operation) :
    LeadsBy step (liftM operation) := by
  intro bench
  rw [ends_liftM]
  exact leads bench.world

theorem leads_ofExcept (result : Except Fault α) :
    LeadsBy step (liftM (Operation.ofExcept result)) :=
  leads_ofOperation (Operation.leads_ofExcept result)

theorem leads_size : LeadsBy step size :=
  fun _ => .refl

theorem leads_put (contents : Contents) : LeadsBy step (put contents) :=
  fun _ => .refl

theorem leads_edit (edit : Workbench → Contents) :
    LeadsBy step (modify fun bench => { bench with contents := edit bench }) :=
  fun _ => .refl

theorem leads_holding
    {lock : Lock}
    (encloses : ∀ world later : World,
      ReflTransGen inner (world.note (.acquired lock)) later →
      ReflTransGen step world (later.note (.released lock)))
    {resizing : Resizing α}
    (leads : LeadsBy inner resizing) :
    LeadsBy step (holding lock resizing) := by
  intro bench
  rw [ends_holdingResizing]
  exact (leads { bench with world := bench.world.note (.acquired lock) }).mono
    (fun _ later => encloses bench.world later.world) (fun _ later reached =>
      ⟨encloses bench.world later.world reached.1, trivial⟩)

end Resizing

/--
The accounts of a world are used, and calls and diagnostics are noted, by
steps of a kind.
-/
structure Accounts.LeadBy (step : World → World → Prop) : Prop where
  called : ∀ (world : World) site call,
    step world (world.note (.called site call))
  emitted : ∀ (world : World) diagnostic,
    step world (world.note (.emitted diagnostic))
  allocate : ∀ mediator requested minimal,
    Operation.LeadsBy step (Mediation.allocate mediator requested minimal)
  free : ∀ mediator amount,
    Operation.LeadsBy step (Mediation.free mediator amount)
  readLocks : ∀ mediator (world now : World),
    ReflTransGen step now (now.noteAll (Mediation.readLocks world mediator))
  tryConsume : ∀ lineage bytes,
    Operation.LeadsBy step (Charging.tryConsume lineage bytes)
  consume : ∀ lineage bytes,
    Operation.LeadsBy step (Charging.consume lineage bytes)
  release : ∀ lineage bytes,
    Operation.LeadsBy step (Charging.release lineage bytes)
  update : ∀ tally report,
    Operation.LeadsBy step (Reporting.update tally report)
  counted : ∀ (world : World) probe, step world (world.countProbe probe)

/-- Every call on a source leads by steps of a kind, and so does reading it. -/
structure Source.LeadsBy (step : World → World → Prop) (source : Source) :
    Prop where
  allocate : ∀ requested minimal,
    Operation.LeadsBy step (source.allocate requested minimal)
  resize : ∀ requested minimal,
    Resizing.LeadsBy step (source.resize requested minimal)
  free : ∀ size, Operation.LeadsBy step (source.free size)
  readLocks : ∀ world now : World,
    ReflTransGen step now (now.noteAll (source.readLocks world))

theorem Source.LeadsBy.mono
    {step weaker : World → World → Prop}
    {source : Source}
    (leads : source.LeadsBy step)
    (weaken : ∀ world later, step world later → weaker world later) :
    source.LeadsBy weaker where
  allocate := fun requested minimal =>
    (leads.allocate requested minimal).mono weaken
  resize := fun requested minimal =>
    (leads.resize requested minimal).mono weaken
  free := fun size => (leads.free size).mono weaken
  readLocks :=
    fun world now => ReflTransGen.mono weaken _ _ (leads.readLocks world now)

section Layers

variable {step inner : World → World → Prop} {below : Source}

theorem Heap.leads_source (heap : Heap) : heap.source.LeadsBy step where
  allocate := fun _ _ => leads_pure _
  resize :=
    fun _ _ => leads_get.bind fun _ => Leads.ite (Leads.ite (leads_pure false)
      ((Resizing.leads_put _).bind fun _ => leads_pure true))
      (Leads.ite ((Resizing.leads_put _).bind fun _ => leads_pure true)
        (leads_pure true))
  free := fun _ => leads_pure ()
  readLocks := fun _ _ => .refl

theorem Source.LeadsBy.readAvailable
    {source : Source}
    (leads : source.LeadsBy step) :
    Operation.LeadsBy step source.readAvailable :=
  leads_get.bind fun world =>
    (Operation.leads_noteAll (leads.readLocks world)).bind fun _ =>
    Operation.leads_ofExcept _

/-- A lock encloses the steps that are taken below it. -/
theorem Locked.leads_source
    {lock : Nat}
    (encloses : ∀ world later : World,
      ReflTransGen inner (world.note (.acquired (.layer lock))) later →
      ReflTransGen step world (later.note (.released (.layer lock))))
    (leads : below.LeadsBy inner) :
    (source lock below).LeadsBy step where
  allocate := fun requested minimal =>
    Operation.leads_holding encloses (leads.allocate requested minimal)
  resize := fun requested minimal =>
    Resizing.leads_holding encloses (leads.resize requested minimal)
  free := fun size => Operation.leads_holding encloses (leads.free size)
  readLocks := by
    intro world now
    simp only [source, World.noteAll_append, World.noteAll_cons,
      World.noteAll_nil]
    exact encloses now _ (leads.readLocks world _)

variable (accounts : Accounts.LeadBy step) (leads : below.LeadsBy step)

include accounts

theorem Operation.leads_called (site : Site) (call : LayerCall) :
    LeadsBy step (note (.called site call)) :=
  fun world => .single (accounts.called world site call)

theorem Source.LeadsBy.noting
    {source : Source}
    (leads : source.LeadsBy step)
    (site : Site) :
    (source.noting site).LeadsBy step where
  allocate := fun requested minimal =>
    (leads.allocate requested minimal).bind fun _ =>
      (Operation.leads_called accounts site _).bind fun _ => leads_pure _
  resize := fun requested minimal =>
    Resizing.leads_size.bind fun _ =>
      (leads.resize requested minimal).bind fun _ =>
        Resizing.leads_size.bind fun _ =>
          (Resizing.leads_ofOperation
            (Operation.leads_called accounts site _)).bind
            fun _ => leads_pure _
  free := fun size =>
    (Operation.leads_called accounts site _).bind fun _ => leads.free size
  readLocks := leads.readLocks

theorem Mediation.leads_grant (mediator requested minimal : Nat) :
    Operation.LeadsBy step (grant mediator requested minimal) := by
  refine Leads.ite (leads_pure _)
    ((accounts.allocate mediator requested minimal).bind ?_)
  intro granted
  refine Leads.ite (leads_pure _) (Leads.ite ?_ (leads_pure _))
  exact (accounts.free mediator granted).bind fun _ => leads_pure none

namespace Tracked

theorem leads_charge (lineage : Lineage) (enforcing : Bool) (size : Nat) :
    Operation.LeadsBy step (charge lineage enforcing size) := by
  refine (accounts.tryConsume lineage _).bind fun admitted =>
    Leads.ite (leads_pure true) (Leads.ite (leads_pure false) ?_)
  exact (accounts.consume lineage _).bind fun _ => leads_pure true

theorem leads_discharge (lineage : Lineage) (size : Nat) :
    Operation.LeadsBy step (discharge lineage size) :=
  Leads.ite (accounts.release lineage _) (leads_pure ())

end Tracked

theorem Tallied.leads_reportResize
    (tally requested old : Nat)
    (met : Bool)
    (new : Nat) :
    Operation.LeadsBy step (reportResize tally requested old met new) := by
  have reported :
      ∀ (report : Nat → Tally → Tally) (difference : Except Fault Nat),
        Operation.LeadsBy step (Operation.ofExcept difference >>= fun bytes =>
          Reporting.update tally (report bytes)) :=
    fun report difference => (Operation.leads_ofExcept difference).bind
      fun bytes => accounts.update tally (report bytes)
  refine Leads.ite
    (reported (fun bytes account => account.allocated bytes) _) ?_
  refine Leads.ite (reported (fun bytes account => account.freed bytes) _) ?_
  exact Leads.ite (reported (fun bytes account => account.refused bytes) _)
    (leads_pure ())

theorem Probe.leads_count (probe : Nat) (screen : Screen) :
    Operation.LeadsBy step (count probe screen) :=
  leads_get.bind fun _ => Leads.bind
    (fun world => .single (accounts.counted world probe)) fun _ => leads_pure _

theorem Guaranteed.leads_readAvailable (mediator amount : Nat) :
    Operation.LeadsBy step (readAvailable mediator amount) :=
  leads_get.bind fun world =>
    (Operation.leads_noteAll (accounts.readLocks mediator world)).bind
      fun _ => leads_pure _

include leads

namespace Mediated

theorem leads_allocate (mediator requested minimal : Nat) :
    Operation.LeadsBy step (allocate mediator below requested minimal) := by
  refine (Mediation.leads_grant accounts mediator requested minimal).bind
    fun answer => ?_
  cases answer with
  | none => exact leads_pure none
  | some granted =>
      refine (leads.allocate granted minimal).bind fun result => ?_
      cases result with
      | none =>
          exact (accounts.free mediator granted).bind fun _ => leads_pure none
      | some contents =>
          refine Leads.ite
            ((Operation.leads_ofExcept _).bind fun surplus => ?_) (leads_pure _)
          exact (accounts.free mediator surplus).bind fun _ => leads_pure _

theorem leads_shrink (mediator requested minimal : Nat) :
    Resizing.LeadsBy step (shrink mediator below requested minimal) := by
  refine Resizing.leads_size.bind fun old =>
    (leads.resize requested minimal).bind fun met =>
    Leads.ite ?_ (leads_pure false)
  refine Resizing.leads_size.bind fun new =>
    (Resizing.leads_ofExcept _).bind fun surplus => ?_
  exact (Resizing.leads_ofOperation (accounts.free mediator surplus)).bind
    fun _ => leads_pure true

theorem leads_grow (mediator requested minimal : Nat) :
    Resizing.LeadsBy step (grow mediator below requested minimal) := by
  refine Resizing.leads_size.bind fun old =>
    (Resizing.leads_ofExcept _).bind fun growth => (Resizing.leads_ofOperation
      (Mediation.leads_grant accounts mediator growth _)).bind
    fun answer => ?_
  cases answer with
  | none => exact leads_pure false
  | some granted =>
      refine (Resizing.leads_ofExcept _).bind fun target =>
        (leads.resize target minimal).bind fun met => Leads.ite ?_ ?_
      · refine Resizing.leads_size.bind fun new => ?_
        have paid : Resizing.LeadsBy step (do
            let surplus ← Operation.ofExcept (Size.sub target new)
            Mediation.free mediator surplus
            return true) :=
          (Resizing.leads_ofExcept _).bind fun surplus =>
            (Resizing.leads_ofOperation (accounts.free mediator surplus)).bind
              fun _ => leads_pure true
        exact Leads.ite ((leads_throw trivial).bind fun _ => paid) paid
      · exact (Resizing.leads_ofOperation (accounts.free mediator granted)).bind
          fun _ => leads_pure false

theorem leads_resize (mediator requested minimal : Nat) :
    Resizing.LeadsBy step (resize mediator below requested minimal) :=
  Resizing.leads_size.bind fun _ => Leads.ite
    (leads_shrink accounts leads mediator requested minimal)
    (leads_grow accounts leads mediator requested minimal)

theorem leads_free (mediator size : Nat) :
    Operation.LeadsBy step (free mediator below size) :=
  (accounts.free mediator size).bind fun _ => leads.free size

theorem leads_readLocks (mediator : Nat) (world now : World) :
    ReflTransGen step now (now.noteAll (readLocks mediator below world)) := by
  rw [readLocks, World.noteAll_append]
  exact (leads.readLocks world now).trans (accounts.readLocks mediator world _)

theorem leads_source (mediator : Nat) :
    (source mediator below).LeadsBy step where
  allocate := leads_allocate accounts leads mediator
  resize := leads_resize accounts leads mediator
  free := leads_free accounts leads mediator
  readLocks := leads_readLocks accounts leads mediator

end Mediated

omit accounts in
theorem Clearing.leads_source : (source below).LeadsBy step where
  allocate := fun requested minimal =>
    (leads.allocate requested minimal).bind fun _ => leads_pure _
  resize := fun requested minimal =>
    Resizing.leads_size.bind fun _ =>
      (leads.resize requested minimal).bind fun _ =>
        Resizing.leads_size.bind fun _ =>
          Leads.ite ((Resizing.leads_edit _).bind fun _ => leads_pure _)
            (leads_pure _)
  free := leads.free
  readLocks := leads.readLocks

namespace Bypass

theorem leads_readLocks (mediator : Nat) (world now : World) :
    ReflTransGen step now (now.noteAll (readLocks mediator below world)) := by
  rw [readLocks, World.noteAll_append]
  exact (accounts.readLocks mediator world now).trans
    (Mediated.leads_readLocks accounts leads mediator world _)

theorem leads_readAvailable (mediator amount : Nat) :
    Operation.LeadsBy step (readAvailable mediator amount below) :=
  leads_get.bind fun world => (Operation.leads_noteAll
    (leads_readLocks accounts leads mediator world)).bind
    fun _ => Operation.leads_ofExcept _

theorem leads_allocate (mediator amount requested minimal : Nat) :
    Operation.LeadsBy step
      (allocate mediator amount below requested minimal) := by
  refine (leads_readAvailable accounts leads mediator amount).bind fun rest =>
    (Mediated.leads_allocate accounts leads mediator requested _).bind
      fun result => ?_
  cases result with
  | none =>
      exact Mediated.leads_allocate accounts leads mediator requested minimal
  | some contents => exact leads_pure _

theorem leads_resize (mediator amount requested minimal : Nat) :
    Resizing.LeadsBy step (resize mediator amount below requested minimal) :=
  (Resizing.leads_ofOperation
      (leads_readAvailable accounts leads mediator amount)).bind fun _ =>
    (Mediated.leads_resize accounts leads mediator requested _).bind fun _ =>
      Leads.ite (leads_pure true)
        (Mediated.leads_resize accounts leads mediator requested minimal)

theorem leads_source (mediator amount : Nat) :
    (source mediator amount below).LeadsBy step where
  allocate := leads_allocate accounts leads mediator amount
  resize := leads_resize accounts leads mediator amount
  free := Mediated.leads_free accounts leads mediator
  readLocks := leads_readLocks accounts leads mediator

end Bypass

namespace Guaranteed

theorem leads_allocate (mediator amount requested : Nat) :
    Operation.LeadsBy step (allocate mediator amount below requested) :=
  (leads_readAvailable accounts mediator amount).bind fun _ =>
    Leads.ite (leads_pure none)
      (Mediated.leads_allocate accounts leads mediator requested requested)

theorem leads_resize (mediator amount requested : Nat) :
    Resizing.LeadsBy step (resize mediator amount below requested) := by
  refine Resizing.leads_size.bind fun old => ?_
  have inFull :=
    Mediated.leads_resize accounts leads mediator requested requested
  refine Leads.ite ((Resizing.leads_ofOperation
    (leads_readAvailable accounts mediator amount)).bind
      fun _ => Leads.ite (leads_pure false) inFull) inFull

theorem leads_source (mediator amount : Nat) :
    (source mediator amount below).LeadsBy step where
  allocate :=
    fun requested _ => leads_allocate accounts leads mediator amount requested
  resize :=
    fun requested _ => leads_resize accounts leads mediator amount requested
  free := Mediated.leads_free accounts leads mediator
  readLocks := accounts.readLocks mediator

end Guaranteed

theorem Tallied.leads_source (tally : Nat) :
    (source tally below).LeadsBy step where
  allocate := fun requested minimal => by
    refine (leads.allocate requested minimal).bind fun result => ?_
    cases result with
    | none => exact (accounts.update tally _).bind fun _ => leads_pure _
    | some contents =>
        exact (accounts.update tally _).bind fun _ => leads_pure _
  resize := fun requested minimal =>
    Resizing.leads_size.bind fun _ =>
      (leads.resize requested minimal).bind fun _ =>
        Resizing.leads_size.bind fun _ =>
          (Resizing.leads_ofOperation
            (leads_reportResize accounts tally requested _ _ _)).bind
            fun _ => leads_pure _
  free := fun size => (leads.free size).bind fun _ => accounts.update tally _
  readLocks := leads.readLocks

namespace Tracked

theorem leads_allocateFirst
    (lineage : Lineage)
    (enforcing : Bool)
    (targets : List Nat) :
    Operation.LeadsBy step (allocateFirst lineage enforcing below targets) := by
  induction targets with
  | nil => exact leads_pure none
  | cons target rest ih =>
      refine (leads_charge accounts lineage enforcing target).bind
        fun admitted =>
        Leads.ite ((leads.allocate target target).bind fun result => ?_) ih
      cases result with
      | none => exact (leads_discharge accounts lineage target).bind fun _ => ih
      | some contents => exact leads_pure _

theorem leads_shrinkTo (lineage : Lineage) (old target : Nat) :
    Resizing.LeadsBy step (shrinkTo lineage below old target) := by
  refine (leads.resize target target).bind fun met =>
    Leads.ite ?_ (leads_pure false)
  refine Resizing.leads_size.bind fun new =>
    (Resizing.leads_ofExcept _).bind fun surplus => ?_
  exact
    (Resizing.leads_ofOperation (leads_discharge accounts lineage surplus)).bind
    fun _ => leads_pure true

theorem leads_growTo (lineage : Lineage) (enforcing : Bool) (old target : Nat) :
    Resizing.LeadsBy step (growTo lineage enforcing below old target) := by
  refine (Resizing.leads_ofExcept _).bind fun growth =>
    (Resizing.leads_ofOperation
      (leads_charge accounts lineage enforcing growth)).bind
    fun admitted => Leads.ite ?_ (leads_pure false)
  refine (leads.resize target target).bind fun met =>
    Leads.ite (leads_pure true) ?_
  exact
    (Resizing.leads_ofOperation (leads_discharge accounts lineage growth)).bind
    fun _ => leads_pure false

theorem leads_resizeFirst
    (lineage : Lineage)
    (enforcing : Bool)
    (old : Nat)
    (targets : List Nat) :
    Resizing.LeadsBy step
      (resizeFirst lineage enforcing below old targets) := by
  induction targets with
  | nil => exact leads_pure false
  | cons target rest ih =>
      refine Leads.bind ?_ fun met => Leads.ite (leads_pure true) ih
      exact Leads.ite (leads_shrinkTo accounts leads lineage old target)
        (leads_growTo accounts leads lineage enforcing old target)

theorem leads_source (lineage : Lineage) (enforcing : Bool) :
    (source lineage enforcing below).LeadsBy step where
  allocate := fun requested minimal => leads_allocateFirst accounts leads
    lineage enforcing (targets requested minimal)
  resize := fun requested minimal => Resizing.leads_size.bind fun old =>
    leads_resizeFirst accounts leads lineage enforcing old
      (targets requested minimal)
  free := fun size => (leads.free size).bind fun _ =>
    leads_discharge accounts lineage size
  readLocks := fun _ _ => .refl

end Tracked

theorem Probe.leads_source (probe : Nat) (screen : Screen) :
    (source probe screen below).LeadsBy step where
  allocate := fun _ minimal => (leads_count accounts probe screen).bind fun _ =>
    Leads.ite (leads.allocate _ minimal) (leads_pure none)
  resize := fun _ minimal =>
    (Resizing.leads_ofOperation (leads_count accounts probe screen)).bind
      fun _ => Leads.ite (leads.resize _ minimal) (leads_pure false)
  free := leads.free
  readLocks := fun _ _ => .refl

/--
A layer without a lock, over a source that leads by steps of a kind, leads by
steps of the same kind.
-/
theorem Layer.leads_over
    {layer : Layer}
    (unlocked : ∀ lock, layer ≠ .locked lock) :
    (layer.over below).LeadsBy step := by
  cases layer with
  | mediated mediator => exact Mediated.leads_source accounts leads mediator
  | clearing => exact Clearing.leads_source leads
  | bypass mediator amount =>
      exact Bypass.leads_source accounts leads mediator amount
  | tallied tally => exact Tallied.leads_source accounts leads tally
  | tracked lineage enforcing =>
      exact Tracked.leads_source accounts leads lineage enforcing
  | locked lock => exact absurd rfl (unlocked lock)
  | relay => exact leads
  | guaranteed mediator amount =>
      exact Guaranteed.leads_source accounts leads mediator amount
  | probe number screen => exact Probe.leads_source accounts leads number screen

end Layers

end BufferBudget
