import BufferBudget.Allocator
import BufferBudget.Proofs.Charges
import BufferBudget.Proofs.Mediation

/-!
# Allocators repeat themselves

Whatever an allocator does, it finds in the accounts and in the buffer that is
resized.  In two worlds with the same accounts the same call ends in the same
way; and what else the two worlds have to do with each other remains as it was,
provided that it remains when both use an account in the same way, and when both
note the same.  So a relation may look at the trail as well, which no allocator
ever does.

`World.Used` is the condition on a relation, account by account, and
`Source.Repeats` what it gives for a source.  In contrast to a likeness, a
relation of this kind has only to do with what both worlds note in common.
-/

namespace BufferBudget

variable {related : World → World → Prop}

/--
An operation ends in the same way in any two worlds that are related, and leaves
worlds that are.
-/
abbrev Operation.Repeats
    {α : Type}
    (related : World → World → Prop)
    (operation : Operation α) : Prop :=
  EndAlike (fun _ => False) related Eq operation operation

/-- Two worlds are related, and the contents of the one buffer are the same. -/
structure Workbench.Related
    (related : World → World → Prop)
    (left right : Workbench) : Prop where
  world : related left.world right.world
  contents : left.contents = right.contents

/--
A resizing ends in the same way in any two worlds that are related and on the
same contents, and leaves such worlds and contents.
-/
abbrev Resizing.Repeats
    {α : Type}
    (related : World → World → Prop)
    (resizing : Resizing α) : Prop :=
  EndAlike (fun _ => False) (Workbench.Related related) Eq resizing resizing

/--
A relation between worlds with the same accounts that remains when both use an
account in the same way, or note the same.
-/
structure World.Used (related : World → World → Prop) : Prop where
  mediators : ∀ {left right : World}, related left right →
    left.mediators = right.mediators
  trackers : ∀ {left right : World}, related left right →
    left.trackers = right.trackers
  tallies : ∀ {left right : World}, related left right →
    left.tallies = right.tallies
  probes : ∀ {left right : World}, related left right →
    left.probes = right.probes
  note : ∀ {left right : World} (event : Event), related left right →
    related (left.note event) (right.note event)
  setTracker : ∀ {left right : World} (tracker : Nat) (account : Tracker),
    related left right →
    related (left.setTracker tracker account) (right.setTracker tracker account)
  setTally : ∀ {left right : World} (tally : Nat) (account : Tally),
    related left right →
    related (left.setTally tally account) (right.setTally tally account)
  countProbe : ∀ {left right : World} (probe : Nat), related left right →
    related (left.countProbe probe) (right.countProbe probe)
  allocate : ∀ mediator requested minimal,
    Operation.Repeats related (Mediation.allocate mediator requested minimal)
  free : ∀ mediator amount,
    Operation.Repeats related (Mediation.free mediator amount)

theorem World.Used.charged (used : World.Used related) :
    World.Charged related where
  trackers := used.trackers
  note := fun {_ _ event} _ => used.note event
  setTracker := used.setTracker

theorem World.Used.noteAll
    (used : World.Used related)
    (events : List Event)
    {left right : World}
    (begun : related left right) :
    related (left.noteAll events) (right.noteAll events) := by
  induction events generalizing left right with
  | nil => exact begun
  | cons event rest ih =>
      rw [World.noteAll_cons, World.noteAll_cons]
      exact ih (used.note event begun)

namespace Resizing

variable {α : Type}

/-- Operations that end in the same way do so also within a resizing. -/
theorem endAlike_liftM
    {left right : Operation α}
    (pair : EndAlike (fun _ => False) related Eq left right) :
    EndAlike (fun _ => False) (Workbench.Related related) Eq
      (liftM left : Resizing α) (liftM right) := by
  intro first second begun
  rw [run_liftM, run_liftM]
  exact (pair _ _ begun.world).mapState fun _ _ still => ⟨still, begun.contents⟩

theorem repeats_size : Repeats related size :=
  fun _ _ begun => .values (congrArg (·.size) begun.contents) begun

theorem repeats_put (contents : Contents) : Repeats related (put contents) :=
  endAlike_modify fun _ _ still => ⟨still.world, rfl⟩

theorem repeats_ofExcept (result : Except Fault α) :
    Repeats related (liftM (Operation.ofExcept result)) :=
  endAlike_liftM (endAlike_ofExcept result)

theorem repeats_holding
    (used : World.Used related)
    {resizing : Resizing α}
    (repeats : Repeats related resizing)
    (lock : Lock) :
    Repeats related (holding lock resizing) := by
  intro first second begun
  rw [run_holdingResizing, run_holdingResizing]
  have taken : Workbench.Related related
      { first with world := first.world.note (.acquired lock) }
      { second with world := second.world.note (.acquired lock) } :=
    ⟨used.note _ begun.world, begun.contents⟩
  exact (repeats _ _ taken).mapState fun _ _ still =>
    ⟨used.note _ still.world, still.contents⟩

end Resizing

namespace Operation

variable {α : Type} (used : World.Used related)

include used

theorem repeats_note (event : Event) : Repeats related (note event) :=
  endAlike_modify fun _ _ begun => used.note event begun

theorem repeats_noteAll (events : List Event) :
    Repeats related (noteAll events) :=
  endAlike_modify fun _ _ begun => used.noteAll events begun

theorem repeats_holding
    {operation : Operation α}
    (repeats : Repeats related operation)
    (lock : Lock) :
    Repeats related (holding lock operation) := by
  intro first second begun
  rw [run_holding, run_holding]
  exact (repeats _ _ (used.note _ begun)).mapState fun _ _ still =>
    used.note _ still

end Operation

/--
What a source reports is the same in any two worlds that are related, and every
call on it ends in the same way and leaves worlds that are.
-/
structure Source.Repeats (related : World → World → Prop) (source : Source) :
    Prop where
  available : ∀ {left right : World}, related left right →
    source.available left = source.available right
  readLocks : ∀ {left right : World}, related left right →
    source.readLocks left = source.readLocks right
  allocate : ∀ requested minimal,
    Operation.Repeats related (source.allocate requested minimal)
  resize : ∀ requested minimal,
    Resizing.Repeats related (source.resize requested minimal)
  free : ∀ size, Operation.Repeats related (source.free size)

section Layers

variable {below : Source}

theorem Heap.repeats_source (heap : Heap) : heap.source.Repeats related where
  available := fun _ => rfl
  readLocks := fun _ => rfl
  allocate := fun _ _ => endAlike_pure rfl
  resize := by
    intro requested minimal
    refine endAlike_get.bind fun first second begun => ?_
    rw [begun.contents]
    have put : ∀ contents,
        Resizing.Repeats related (do Resizing.put contents; return true) :=
      fun contents => (Resizing.repeats_put contents).bindEq fun _ =>
        endAlike_pure rfl
    exact EndAlike.ite (EndAlike.ite (endAlike_pure rfl) (put _))
      (EndAlike.ite (put _) (endAlike_pure rfl))
  free := fun _ => endAlike_pure rfl

theorem Clearing.repeats_source (repeats : below.Repeats related) :
    (source below).Repeats related where
  available := repeats.available
  readLocks := repeats.readLocks
  allocate := fun requested minimal =>
    (repeats.allocate requested minimal).bindEq fun _ => endAlike_pure rfl
  resize := by
    intro requested minimal
    refine Resizing.repeats_size.bindEq fun old => ?_
    refine (repeats.resize requested minimal).bindEq fun met => ?_
    refine Resizing.repeats_size.bindEq fun new =>
      EndAlike.ite ?_ (endAlike_pure rfl)
    refine EndAlike.bindEq (endAlike_modify fun _ _ still => ?_) fun _ =>
      endAlike_pure rfl
    exact ⟨still.world, congrArg (·.zeroFrom old) still.contents⟩
  free := repeats.free

variable (used : World.Used related)

include used

theorem Source.Repeats.noting (repeats : below.Repeats related) (site : Site) :
    (below.noting site).Repeats related where
  available := repeats.available
  readLocks := repeats.readLocks
  allocate := fun requested minimal =>
    (repeats.allocate requested minimal).bindEq fun _ =>
      (Operation.repeats_note used _).bindEq fun _ => endAlike_pure rfl
  resize := fun requested minimal =>
    Resizing.repeats_size.bindEq fun _ =>
      (repeats.resize requested minimal).bindEq fun _ =>
        Resizing.repeats_size.bindEq fun _ =>
          (Resizing.endAlike_liftM (Operation.repeats_note used _)).bindEq
            fun _ => endAlike_pure rfl
  free := fun size => (Operation.repeats_note used _).bindEq fun _ =>
    repeats.free size

namespace Mediation

theorem repeats_grant (mediator requested minimal : Nat) :
    Operation.Repeats related (grant mediator requested minimal) := by
  refine EndAlike.ite (endAlike_pure rfl) ?_
  refine (used.allocate mediator requested minimal).bindEq fun granted => ?_
  refine EndAlike.ite (endAlike_pure rfl) (EndAlike.ite ?_ (endAlike_pure rfl))
  exact (used.free mediator granted).bindEq fun _ => endAlike_pure rfl

theorem available_related
    {left right : World}
    (begun : related left right)
    (mediator : Nat) :
    available left mediator = available right mediator := by
  rw [available, available, used.mediators begun]

theorem usage_related
    {left right : World}
    (begun : related left right)
    (mediator : Nat) :
    usage left mediator = usage right mediator := by
  rw [usage, usage, used.mediators begun]

theorem readLocks_related
    {left right : World}
    (begun : related left right)
    (mediator : Nat) :
    readLocks left mediator = readLocks right mediator := by
  rw [readLocks, readLocks, used.mediators begun]

end Mediation

namespace Mediated

variable (repeats : below.Repeats related)

include repeats

theorem repeats_allocate (mediator requested minimal : Nat) :
    Operation.Repeats related (allocate mediator below requested minimal) := by
  refine (Mediation.repeats_grant used mediator requested minimal).bindEq
    fun answer => ?_
  cases answer with
  | none => exact endAlike_pure rfl
  | some granted =>
      refine (repeats.allocate granted minimal).bindEq fun result => ?_
      cases result with
      | none =>
          exact (used.free mediator granted).bindEq fun _ => endAlike_pure rfl
      | some contents =>
          refine EndAlike.ite ?_ (endAlike_pure rfl)
          refine (endAlike_ofExcept _).bindEq fun surplus => ?_
          exact (used.free mediator surplus).bindEq fun _ => endAlike_pure rfl

theorem repeats_shrink (mediator requested minimal : Nat) :
    Resizing.Repeats related (shrink mediator below requested minimal) := by
  refine Resizing.repeats_size.bindEq fun old => ?_
  refine (repeats.resize requested minimal).bindEq fun met =>
    EndAlike.ite ?_ (endAlike_pure rfl)
  refine Resizing.repeats_size.bindEq fun new => ?_
  refine (Resizing.repeats_ofExcept _).bindEq fun surplus => ?_
  exact (Resizing.endAlike_liftM (used.free mediator surplus)).bindEq fun _ =>
    endAlike_pure rfl

theorem repeats_grow (mediator requested minimal : Nat) :
    Resizing.Repeats related (grow mediator below requested minimal) := by
  refine Resizing.repeats_size.bindEq fun old => ?_
  refine (Resizing.repeats_ofExcept _).bindEq fun growth => ?_
  refine (Resizing.endAlike_liftM
    (Mediation.repeats_grant used mediator growth _)).bindEq
    fun answer => ?_
  cases answer with
  | none => exact endAlike_pure rfl
  | some granted =>
      refine (Resizing.repeats_ofExcept _).bindEq fun target => ?_
      refine (repeats.resize target minimal).bindEq fun met =>
        EndAlike.ite ?met ?refused
      case refused =>
        exact (Resizing.endAlike_liftM (used.free mediator granted)).bindEq
          fun _ => endAlike_pure rfl
      case met =>
        refine Resizing.repeats_size.bindEq fun new =>
          EndAlike.ite (endAlike_throw _) ?_
        refine (Resizing.repeats_ofExcept _).bindEq fun surplus => ?_
        exact (Resizing.endAlike_liftM (used.free mediator surplus)).bindEq
          fun _ => endAlike_pure rfl

theorem repeats_resize (mediator requested minimal : Nat) :
    Resizing.Repeats related (resize mediator below requested minimal) :=
  Resizing.repeats_size.bindEq fun _ =>
    EndAlike.ite (repeats_shrink used repeats mediator requested minimal)
      (repeats_grow used repeats mediator requested minimal)

theorem repeats_free (mediator size : Nat) :
    Operation.Repeats related (free mediator below size) :=
  (used.free mediator size).bindEq fun _ => repeats.free size

theorem available_related
    (mediator : Nat)
    {left right : World}
    (begun : related left right) :
    available mediator below left = available mediator below right := by
  rw [available, available, repeats.available begun,
    Mediation.available_related used begun]

theorem readLocks_related
    (mediator : Nat)
    {left right : World}
    (begun : related left right) :
    readLocks mediator below left = readLocks mediator below right := by
  rw [readLocks, readLocks, repeats.readLocks begun,
    Mediation.readLocks_related used begun]

theorem repeats_source (mediator : Nat) :
    (source mediator below).Repeats related where
  available := available_related used repeats mediator
  readLocks := readLocks_related used repeats mediator
  allocate := repeats_allocate used repeats mediator
  resize := repeats_resize used repeats mediator
  free := repeats_free used repeats mediator

end Mediated

namespace Bypass

variable (repeats : below.Repeats related)

include repeats

theorem available_related
    (mediator amount : Nat)
    {left right : World}
    (begun : related left right) :
    available mediator amount below left =
      available mediator amount below right := by
  rw [available, available, Mediated.available_related used repeats mediator
    begun, Mediation.usage_related used begun]

theorem readLocks_related
    (mediator : Nat)
    {left right : World}
    (begun : related left right) :
    readLocks mediator below left = readLocks mediator below right := by
  rw [readLocks, readLocks, Mediated.readLocks_related used repeats mediator
    begun, Mediation.readLocks_related used begun]

theorem repeats_readAvailable (mediator amount : Nat) :
    Operation.Repeats related (readAvailable mediator amount below) := by
  refine endAlike_get.bind fun first second begun => ?_
  rw [available_related used repeats mediator amount begun,
    readLocks_related used repeats mediator begun]
  exact (Operation.repeats_noteAll used _).bindEq fun _ => endAlike_ofExcept _

theorem repeats_source (mediator amount : Nat) :
    (source mediator amount below).Repeats related where
  available := available_related used repeats mediator amount
  readLocks := readLocks_related used repeats mediator
  allocate := by
    intro requested minimal
    refine (repeats_readAvailable used repeats mediator amount).bindEq
      fun rest => ?_
    refine (Mediated.repeats_allocate used repeats mediator requested _).bindEq
      fun result => ?_
    cases result with
    | none =>
        exact Mediated.repeats_allocate used repeats mediator requested minimal
    | some contents => exact endAlike_pure rfl
  resize := by
    intro requested minimal
    refine (Resizing.endAlike_liftM (repeats_readAvailable used repeats mediator
      amount)).bindEq fun rest => ?_
    refine (Mediated.repeats_resize used repeats mediator requested _).bindEq
      fun met => ?_
    exact EndAlike.ite (endAlike_pure rfl)
      (Mediated.repeats_resize used repeats mediator requested minimal)
  free := Mediated.repeats_free used repeats mediator

end Bypass

namespace Guaranteed

theorem available_related
    (mediator amount : Nat)
    {left right : World}
    (begun : related left right) :
    available mediator amount left = available mediator amount right := by
  rw [available, available, Mediation.usage_related used begun]

theorem repeats_readAvailable (mediator amount : Nat) :
    Operation.Repeats related (readAvailable mediator amount) := by
  refine endAlike_get.bind fun first second begun => ?_
  rw [available_related used mediator amount begun,
    Mediation.readLocks_related used begun]
  exact (Operation.repeats_noteAll used _).bindEq fun _ => endAlike_pure rfl

theorem repeats_source
    (repeats : below.Repeats related)
    (mediator amount : Nat) :
    (source mediator amount below).Repeats related where
  available := fun begun =>
    congrArg Except.ok (available_related used mediator amount begun)
  readLocks := fun begun => Mediation.readLocks_related used begun mediator
  allocate := fun requested minimal =>
    (repeats_readAvailable used mediator amount).bindEq fun _ =>
      EndAlike.ite (endAlike_pure rfl)
        (Mediated.repeats_allocate used repeats mediator requested requested)
  resize := by
    intro requested minimal
    have resized :=
      Mediated.repeats_resize used repeats mediator requested requested
    refine Resizing.repeats_size.bindEq fun old => EndAlike.ite ?_ resized
    refine (Resizing.endAlike_liftM
      (repeats_readAvailable used mediator amount)).bindEq fun rest => ?_
    exact EndAlike.ite (endAlike_pure rfl) resized
  free := Mediated.repeats_free used repeats mediator

end Guaranteed

theorem Reporting.repeats_update (tally : Nat) (report : Tally → Tally) :
    Operation.Repeats related (update tally report) := by
  refine endAlike_modify fun first second begun => ?_
  rw [used.tallies begun]
  exact used.setTally tally _ begun

namespace Tallied

theorem repeats_reportResize
    (tally requested old : Nat)
    (met : Bool)
    (new : Nat) :
    Operation.Repeats related (reportResize tally requested old met new) := by
  have reported : ∀ left right (report : Nat → Tally → Tally),
      Operation.Repeats related (do Reporting.update tally (report
        (← Operation.ofExcept (Size.sub left right)))) :=
    fun left right report => (endAlike_ofExcept _).bindEq fun bytes =>
      Reporting.repeats_update used tally (report bytes)
  refine EndAlike.ite
    (reported new old fun bytes account => account.allocated bytes) ?_
  refine EndAlike.ite
    (reported old new fun bytes account => account.freed bytes) ?_
  exact EndAlike.ite (reported requested new fun bytes account =>
    account.refused bytes) (endAlike_pure rfl)

theorem repeats_source (repeats : below.Repeats related) (tally : Nat) :
    (source tally below).Repeats related where
  available := repeats.available
  readLocks := repeats.readLocks
  allocate := by
    intro requested minimal
    refine (repeats.allocate requested minimal).bindEq fun result => ?_
    cases result with
    | none =>
        exact (Reporting.repeats_update used tally _).bindEq fun _ =>
          endAlike_pure rfl
    | some contents =>
        exact (Reporting.repeats_update used tally _).bindEq fun _ =>
          endAlike_pure rfl
  resize := fun requested minimal =>
    Resizing.repeats_size.bindEq fun old =>
      (repeats.resize requested minimal).bindEq fun met =>
        Resizing.repeats_size.bindEq fun new =>
          (Resizing.endAlike_liftM
            (repeats_reportResize used tally requested old met new)).bindEq
            fun _ => endAlike_pure rfl
  free := fun size =>
    (repeats.free size).bindEq fun _ => Reporting.repeats_update used tally _

end Tallied

theorem Locked.repeats_source (repeats : below.Repeats related) (lock : Nat) :
    (source lock below).Repeats related where
  available := repeats.available
  readLocks := fun begun =>
    congrArg (.acquired (.layer lock) :: · ++ [.released (.layer lock)])
      (repeats.readLocks begun)
  allocate := fun requested minimal => Operation.repeats_holding used
    (repeats.allocate requested minimal) (.layer lock)
  resize := fun requested minimal => Resizing.repeats_holding used
    (repeats.resize requested minimal) (.layer lock)
  free :=
    fun size => Operation.repeats_holding used (repeats.free size) (.layer lock)

namespace Tracked

variable {lineage : Lineage} {enforcing : Bool}

theorem available_related {left right : World} (begun : related left right) :
    available lineage enforcing left = available lineage enforcing right := by
  rw [available, available, Charging.spare_eq used.charged begun]

variable (repeats : below.Repeats related)

include repeats

theorem repeats_allocateFirst (targets : List Nat) :
    Operation.Repeats related
      (allocateFirst lineage enforcing below targets) := by
  induction targets with
  | nil => exact endAlike_pure rfl
  | cons target rest ih =>
      refine (endAlike_charge used.charged lineage enforcing target).bindEq
        fun admitted => EndAlike.ite ?_ ih
      refine (repeats.allocate target target).bindEq fun result => ?_
      cases result with
      | none =>
          exact (endAlike_discharge used.charged lineage target).bindEq
            fun _ => ih
      | some contents => exact endAlike_pure rfl

theorem repeats_resizeTo (old target : Nat) :
    Resizing.Repeats related (resizeTo lineage enforcing below old target) := by
  have resized := repeats.resize target target
  have discharged := fun size =>
    Resizing.endAlike_liftM (endAlike_discharge used.charged lineage size)
  refine EndAlike.ite ?shrunk ?grown
  case shrunk =>
    refine resized.bindEq fun met => EndAlike.ite ?_ (endAlike_pure rfl)
    refine Resizing.repeats_size.bindEq fun new => ?_
    refine (Resizing.repeats_ofExcept _).bindEq fun surplus => ?_
    exact (discharged surplus).bindEq fun _ => endAlike_pure rfl
  case grown =>
    refine (Resizing.repeats_ofExcept _).bindEq fun growth => ?_
    refine (Resizing.endAlike_liftM
      (endAlike_charge used.charged lineage enforcing growth)).bindEq
      fun admitted => EndAlike.ite ?_ (endAlike_pure rfl)
    refine resized.bindEq fun met => EndAlike.ite (endAlike_pure rfl) ?_
    exact (discharged growth).bindEq fun _ => endAlike_pure rfl

theorem repeats_resizeFirst (old : Nat) (targets : List Nat) :
    Resizing.Repeats related
      (resizeFirst lineage enforcing below old targets) := by
  induction targets with
  | nil => exact endAlike_pure rfl
  | cons target rest ih =>
      exact (repeats_resizeTo used repeats old target).bindEq fun met =>
        EndAlike.ite (endAlike_pure rfl) ih

theorem repeats_source (lineage : Lineage) (enforcing : Bool) :
    (source lineage enforcing below).Repeats related where
  available := available_related used
  readLocks := fun _ => rfl
  allocate := fun requested minimal =>
    repeats_allocateFirst used repeats (targets requested minimal)
  resize := fun requested minimal => Resizing.repeats_size.bindEq fun old =>
    repeats_resizeFirst used repeats old (targets requested minimal)
  free := fun size => (repeats.free size).bindEq fun _ =>
    endAlike_discharge used.charged lineage size

end Tracked

namespace Probe

theorem repeats_count (probe : Nat) (screen : Screen) :
    Operation.Repeats related (count probe screen) := by
  refine endAlike_get.bind fun first second begun => ?_
  rw [used.probes begun]
  exact EndAlike.bindEq (endAlike_modify fun _ _ still =>
    used.countProbe probe still) fun _ => endAlike_pure rfl

theorem repeats_source
    (repeats : below.Repeats related)
    (probe : Nat)
    (screen : Screen) :
    (source probe screen below).Repeats related where
  available := fun _ => rfl
  readLocks := fun _ => rfl
  allocate := fun requested minimal =>
    (repeats_count used probe screen).bindEq fun _ =>
      EndAlike.ite (repeats.allocate (screen.lower requested minimal) minimal)
        (endAlike_pure rfl)
  resize := fun requested minimal =>
    (Resizing.endAlike_liftM (repeats_count used probe screen)).bindEq fun _ =>
      EndAlike.ite (repeats.resize (screen.lower requested minimal) minimal)
        (endAlike_pure rfl)
  free := repeats.free

end Probe

theorem Layer.repeats_over (repeats : below.Repeats related) (layer : Layer) :
    (layer.over below).Repeats related := by
  cases layer with
  | mediated mediator => exact Mediated.repeats_source used repeats mediator
  | clearing => exact Clearing.repeats_source repeats
  | bypass mediator amount =>
      exact Bypass.repeats_source used repeats mediator amount
  | tallied tally => exact Tallied.repeats_source used repeats tally
  | tracked lineage enforcing =>
      exact Tracked.repeats_source used repeats lineage enforcing
  | locked lock => exact Locked.repeats_source used repeats lock
  | relay => exact repeats
  | guaranteed mediator amount =>
      exact Guaranteed.repeats_source used repeats mediator amount
  | probe number screen => exact Probe.repeats_source used repeats number screen

/--
In two worlds that are related every call on an allocator ends in the same way.
-/
theorem Allocator.repeats_source (allocator : Allocator) :
    allocator.source.Repeats related := by
  rcases allocator with ⟨layers, heap⟩
  induction layers with
  | nil => exact (Heap.repeats_source heap).noting used .heap
  | cons layer layers ih =>
      exact (Layer.repeats_over used ih layer).noting used (.layer layer)

end Layers

end BufferBudget
