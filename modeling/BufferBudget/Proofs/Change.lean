import BufferBudget.Session
import BufferBudget.Proofs.Leading

/-!
# What can happen to a world

Whatever an allocator does, it does in steps of few kinds: an event is noted, a
tracker is written, a mediator answers or is paid back, a tally or a probe is
counted on.  `Step` lists them, and `Changes` is any number of steps.

Every call on a source leads from a world to another by steps, however it ends.
A relation between worlds that is reflexive and transitive and holds across
each kind of step therefore holds across every call; invariants are obtained
in this way with one case for each kind of step, and no allocator is opened
again.
-/

namespace BufferBudget

open Relation

namespace World

/-- One thing that an operation on some trackers does. -/
inductive TrackerStep (trackers : List Nat) : World → World → Prop where
  | note (world : World) (event : Event) (aside : event.Aside) :
      TrackerStep trackers world (world.note event)
  | store
      (world : World)
      {tracker : Nat}
      (member : tracker ∈ trackers)
      (consumption : Int) :
      TrackerStep trackers world (world.setTracker tracker
        ((world.trackers.entry tracker).store consumption))
  | reach
      (world : World)
      {tracker : Nat}
      (member : tracker ∈ trackers)
      (consumption : Int) :
      TrackerStep trackers world (world.setTracker tracker
        ((world.trackers.entry tracker).reach consumption))

/-- One thing that an allocator does. -/
inductive Step : World → World → Prop where
  | onTracker
      {world later : World}
      {trackers : List Nat}
      (step : TrackerStep trackers world later) :
      Step world later
  | call (world : World) (site : Site) (call : LayerCall) :
      Step world (world.note (.called site call))
  | grant
      (world : World)
      (mediator requested minimal granted : Nat)
      (next : Mediator)
      (answer : (world.mediators.entry mediator).allocate requested minimal =
        .ok (granted, next)) :
      Step world (world.grant mediator requested minimal granted next)
  | repay (world : World) (mediator amount : Nat) :
      Step world (world.repay mediator amount)
  | report (world : World) (tally : Nat) (account : Tally) :
      Step world (world.setTally tally account)
  | count (world : World) (probe : Nat) : Step world (world.countProbe probe)

/-- What is noted beside everything else is a step. -/
theorem Step.note (world : World) (event : Event) (aside : event.Aside) :
    world.Step (world.note event) :=
  @onTracker _ _ [] (.note world event aside)

/-- A step leaves a mediator alone, or books an answer or a payment. -/
theorem Step.mediator_cases
    {world later : World}
    (step : world.Step later)
    (mediator : Nat) :
    later.mediators.entry mediator = world.mediators.entry mediator ∨
      (∃ requested minimal granted,
        (world.mediators.entry mediator).allocate requested minimal =
            .ok (granted, later.mediators.entry mediator)) ∨
        ∃ amount,
          later.mediators.entry mediator =
            (world.mediators.entry mediator).free amount := by
  cases step with
  | onTracker step => cases step <;> exact .inl rfl
  | call site call => exact .inl rfl
  | report tally account => exact .inl rfl
  | count probe => exact .inl rfl
  | grant own requested minimal granted next answer =>
      rw [World.grant, mediators_note, entry_mediators_setMediator]
      split
      · rename_i same
        exact .inr (.inl ⟨requested, minimal, granted, same ▸ answer⟩)
      · exact .inl rfl
  | repay own amount =>
      rw [World.repay, mediators_note, entry_mediators_setMediator]
      split
      · rename_i same
        exact .inr (.inr ⟨amount, same ▸ rfl⟩)
      · exact .inl rfl

/-- What any number of steps lead to. -/
abbrev Changes : World → World → Prop :=
  ReflTransGen Step

end World

namespace Operation

variable {α : Type}

/--
An operation does nothing but to some trackers, and stops at no
faults but theirs.
-/
abbrev Tracks (trackers : List Nat) (operation : Operation α) : Prop :=
  Leads id (World.TrackerStep trackers) Fault.OfAmount operation

/-- An operation does nothing but what an allocator does. -/
abbrev Acts (operation : Operation α) : Prop :=
  Leads id World.Step (fun _ => True) operation

theorem Tracks.acts
    {operation : Operation α}
    {trackers : List Nat}
    (tracks : Tracks trackers operation) :
    Acts operation := by
  intro world
  have weaken : ∀ world later : World, World.TrackerStep trackers world later →
      World.Step world later :=
    fun _ _ => .onTracker
  exact (tracks world).mono
    (fun _ _ reached => ReflTransGen.mono weaken _ _ reached)
    (fun _ _ reached => ⟨ReflTransGen.mono weaken _ _ reached.1, trivial⟩)

theorem tracks_noteTracked
    {trackers : List Nat}
    (tracker : Nat)
    (call : TrackerCall) :
    Tracks trackers (note (.tracked tracker call)) :=
  fun world => .single (.note world (.tracked tracker call) trivial)

theorem tracks_noteAll
    {trackers : List Nat}
    {events : List Event}
    (aside : ∀ event ∈ events, event.Aside) :
    Tracks trackers (noteAll events) := by
  intro world
  rw [ends_noteAll]
  refine World.noteAll_preserves (fun event member now reached => ?_) .refl
  exact reached.tail (.note now event (aside event member))

theorem tracks_emit {trackers : List Nat} (diagnostics : List Diagnostic) :
    Tracks trackers (emit diagnostics) := by
  apply tracks_noteAll
  intro event member
  obtain ⟨diagnostic, -, rfl⟩ := List.mem_map.mp member
  exact trivial

theorem acts_noteAll
    {events : List Event}
    (aside : ∀ event ∈ events, event.Aside) :
    Acts (noteAll events) :=
  Tracks.acts (@tracks_noteAll [] events aside)

end Operation

namespace Charging

variable {trackers : List Nat} {tracker : Nat}

theorem tracks_report (tracker : Nat) (consumption : Int) :
    Operation.Tracks trackers (report tracker consumption) :=
  leads_get.bind fun _ => Operation.tracks_emit _

theorem tracks_reach (member : tracker ∈ trackers) (consumption : Int) :
    Operation.Tracks trackers (reach tracker consumption) := by
  refine Leads.bind ?_ fun _ => tracks_report tracker consumption
  exact fun world => .single (.reach world member consumption)

theorem tracks_add (bytes : Int) (member : tracker ∈ trackers) :
    Operation.Tracks trackers (add bytes tracker) := by
  intro world
  rw [add, ends_bind, ends_get, ends_bind, ends_note, ends_bind, ends_modify]
  have weighed := @World.TrackerStep.note trackers world (.weighed tracker
    ((world.trackers.entry tracker).consumption + bytes)) trivial
  have stored := World.TrackerStep.store (world.note
    (.weighed tracker ((world.trackers.entry tracker).consumption + bytes)))
    member ((world.trackers.entry tracker).consumption + bytes)
  have written := ReflTransGen.head weighed (.single stored)
  split
  · exact (tracks_reach member _).further written
  · exact ⟨written, .inl rfl⟩

theorem tracks_subtract (bytes : Int) (member : tracker ∈ trackers) :
    Operation.Tracks trackers (subtract bytes tracker) := by
  intro world
  rw [subtract, ends_bind, ends_get, ends_bind, ends_modify]
  have stored := World.TrackerStep.store world member
    ((world.trackers.entry tracker).consumption - bytes)
  split
  · exact (tracks_report tracker _).further (.single stored)
  · exact ⟨.single stored, .inr rfl⟩

theorem tracks_tryAdd (bytes : Int) (member : tracker ∈ trackers) :
    Operation.Tracks trackers (tryAdd bytes tracker) := by
  intro world
  rw [tryAdd, ends_bind, ends_get]
  by_cases unlimited : (world.trackers.entry tracker).limit.isNone = true
  · rw [if_pos unlimited]
    exact (tracks_add bytes member).bind (fun _ => leads_pure true) world
  · rw [if_neg unlimited, ends_bind, ends_note]
    have weighed := @World.TrackerStep.note trackers world (.weighed tracker
      ((world.trackers.entry tracker).consumption + bytes)) trivial
    split
    · exact .single weighed
    · rw [ends_bind, ends_modify]
      have stored := World.TrackerStep.store (world.note (.weighed tracker
        ((world.trackers.entry tracker).consumption + bytes))) member
        (Amount.saturate ((world.trackers.entry tracker).consumption + bytes))
      have written := ReflTransGen.head weighed (.single stored)
      exact
        ((tracks_reach member _).bind fun _ => leads_pure true).further written

theorem tracks_tryAddAll
    (bytes : Int)
    {accepted rest : List Nat}
    (earlier : ∀ tracker ∈ accepted, tracker ∈ trackers)
    (others : ∀ tracker ∈ rest, tracker ∈ trackers) :
    Operation.Tracks trackers (tryAddAll bytes accepted rest) := by
  induction rest generalizing accepted with
  | nil => exact leads_pure true
  | cons tracker rest ih =>
      have member := others tracker List.mem_cons_self
      refine (tracks_tryAdd bytes member).bind fun admitted =>
        Leads.ite (ih ?_ ?_) ?_
      · intro other among
        rcases List.mem_append.mp among with before | last
        · exact earlier other before
        · exact List.mem_singleton.mp last ▸ member
      · exact fun other among =>
          others other (List.mem_cons_of_mem tracker among)
      · exact (Operation.leads_forM fun other among =>
          tracks_subtract bytes (earlier other among)).bind
          fun _ => leads_pure false

theorem tracks_releaseAll (lineage : Lineage) (bytes : Int) :
    Operation.Tracks lineage.members (releaseAll lineage bytes) :=
  Leads.ite (leads_pure ()) (Operation.leads_forM fun _ member =>
    tracks_subtract bytes member)

theorem tracks_tryConsume (lineage : Lineage) (bytes : Int) :
    Operation.Tracks lineage.members (tryConsume lineage bytes) := by
  refine (Operation.tracks_noteTracked lineage.tracker _).bind
    fun _ => Leads.ite ?_ ?_
  · exact (tracks_releaseAll lineage _).bind fun _ => leads_pure true
  · exact tracks_tryAddAll bytes nofun fun _ member => member

theorem tracks_consume (lineage : Lineage) (bytes : Int) :
    Operation.Tracks lineage.members (consume lineage bytes) :=
  (Operation.tracks_noteTracked lineage.tracker _).bind fun _ =>
    Operation.leads_forM fun _ member => tracks_add bytes member

theorem tracks_release (lineage : Lineage) (bytes : Int) :
    Operation.Tracks lineage.members (release lineage bytes) :=
  (Operation.tracks_noteTracked lineage.tracker _).bind fun _ =>
    tracks_releaseAll lineage bytes

end Charging

theorem World.changes_noteAll
    {world : World}
    {events : List Event}
    (aside : ∀ event ∈ events, event.Aside) :
    world.Changes (world.noteAll events) :=
  Operation.acts_noteAll aside world

/-- Quiet events around a change are steps around it. -/
theorem World.changes_of_around
    {world later : World}
    {change : World → World}
    (around : world.Around change later)
    (changes : ∀ middle : World, middle.mediators = world.mediators →
      middle.Changes (change middle)) :
    world.Changes later := by
  obtain ⟨before, after, quietBefore, quietAfter, rfl⟩ := around
  have entered : world.Changes (world.noteAll before) :=
    changes_noteAll fun event member => (quietBefore event member).aside
  have left : (change (world.noteAll before)).Changes
      ((change (world.noteAll before)).noteAll after) :=
    changes_noteAll fun event member => (quietAfter event member).aside
  exact (entered.trans (changes _ rfl)).trans left

namespace Mediation

theorem acts_allocate (mediator requested minimal : Nat) :
    Operation.Acts (allocate mediator requested minimal) := by
  intro world
  cases answer :
    (world.mediators.entry mediator).allocate requested minimal with
  | error fault =>
      refine (ends_allocate_error answer).mono
        (fun _ _ impossible => impossible.elim) ?_
      intro _ later stopped
      exact ⟨World.changes_of_around stopped.2 fun _ _ => .refl, trivial⟩
  | ok result =>
      obtain ⟨granted, next⟩ := result
      refine (ends_allocate answer).sure ?_
      intro _ later booked
      refine World.changes_of_around booked.2 fun middle same => .single ?_
      exact .grant middle mediator requested minimal granted
        next (same ▸ answer)

theorem acts_free (mediator amount : Nat) :
    Operation.Acts (free mediator amount) := by
  intro world
  refine (ends_free mediator amount world).sure ?_
  intro _ later booked
  exact World.changes_of_around booked fun middle _ =>
    .single (.repay middle mediator amount)

end Mediation

theorem Reporting.acts_update (tally : Nat) (report : Tally → Tally) :
    Operation.Acts (update tally report) :=
  fun world =>
    .single (.report world tally (report (world.tallies.entry tally)))

/-- Every account is used by the steps that an allocator takes. -/
theorem Accounts.LeadBy.step : Accounts.LeadBy World.Step where
  called := .call
  emitted := fun world diagnostic => .note world (.emitted diagnostic) trivial
  allocate := Mediation.acts_allocate
  free := Mediation.acts_free
  readLocks := fun _ _ _ => World.changes_noteAll fun _ member =>
    (Mediation.quiet_of_mem_readLocks member).aside
  tryConsume := fun lineage bytes =>
    (Charging.tracks_tryConsume lineage bytes).acts
  consume := fun lineage bytes => (Charging.tracks_consume lineage bytes).acts
  release := fun lineage bytes => (Charging.tracks_release lineage bytes).acts
  update := Reporting.acts_update
  counted := .count

theorem Mediation.acts_grant (mediator requested minimal : Nat) :
    Operation.Acts (grant mediator requested minimal) :=
  leads_grant .step mediator requested minimal

/-- A resizing does nothing to a world but what an allocator does. -/
abbrev Resizing.Acts {α : Type} (resizing : Resizing α) : Prop :=
  Leads Workbench.world World.Step (fun _ => True) resizing

/--
Every call on a source leads by steps, and reading it takes no more than locks.
-/
structure Source.Stepwise (source : Source) : Prop where
  allocate : ∀ requested minimal,
    Operation.Acts (source.allocate requested minimal)
  resize : ∀ requested minimal, Resizing.Acts (source.resize requested minimal)
  free : ∀ size, Operation.Acts (source.free size)
  readLocks : ∀ world, ∀ event ∈ source.readLocks world, event.Quiet

namespace Source

variable {source : Source}

theorem Stepwise.leads (stepwise : source.Stepwise) :
    source.LeadsBy World.Step where
  allocate := stepwise.allocate
  resize := stepwise.resize
  free := stepwise.free
  readLocks := fun world _ => World.changes_noteAll fun event member =>
    (stepwise.readLocks world event member).aside

theorem LeadsBy.stepwise
    (leads : source.LeadsBy World.Step)
    (quiet : ∀ world, ∀ event ∈ source.readLocks world, event.Quiet) :
    source.Stepwise where
  allocate := leads.allocate
  resize := leads.resize
  free := leads.free
  readLocks := quiet

theorem Stepwise.readAvailable (stepwise : source.Stepwise) :
    Operation.Acts source.readAvailable :=
  stepwise.leads.readAvailable

theorem Stepwise.noting (stepwise : source.Stepwise) (site : Site) :
    (source.noting site).Stepwise :=
  (stepwise.leads.noting .step site).stepwise stepwise.readLocks

end Source

section Layers

variable {below : Source} (stepwise : below.Stepwise)

include stepwise

namespace Mediated

theorem acts_allocate (mediator requested minimal : Nat) :
    Operation.Acts (allocate mediator below requested minimal) :=
  leads_allocate .step stepwise.leads mediator requested minimal

theorem acts_resize (mediator requested minimal : Nat) :
    Resizing.Acts (resize mediator below requested minimal) :=
  leads_resize .step stepwise.leads mediator requested minimal

/-- Every event of a reading is quiet. -/
theorem quiet_readLocks (mediator : Nat) (world : World) :
    ∀ event ∈ readLocks mediator below world, event.Quiet := by
  intro event member
  rcases List.mem_append.mp member with lower | own
  · exact stepwise.readLocks world event lower
  · exact Mediation.quiet_of_mem_readLocks own

theorem stepwise_source (mediator : Nat) : (source mediator below).Stepwise :=
  (leads_source .step stepwise.leads mediator).stepwise
    (quiet_readLocks stepwise mediator)

end Mediated

theorem Bypass.quiet_readLocks (mediator : Nat) (world : World) :
    ∀ event ∈ readLocks mediator below world, event.Quiet := by
  intro event member
  rcases List.mem_append.mp member with own | lower
  · exact Mediation.quiet_of_mem_readLocks own
  · exact Mediated.quiet_readLocks stepwise mediator world event lower

theorem Locked.quiet_readLocks (lock : Nat) (world : World) :
    ∀ event ∈ (source lock below).readLocks world, event.Quiet := by
  intro event member
  rcases List.mem_cons.mp member with rfl | later
  · exact trivial
  · rcases List.mem_append.mp later with lower | last
    · exact stepwise.readLocks world event lower
    · rw [List.mem_singleton.mp last]
      exact trivial

/-- To read a stack takes no more than locks. -/
theorem Layer.quiet_readLocks (layer : Layer) (world : World) :
    ∀ event ∈ (layer.over below).readLocks world, event.Quiet := by
  cases layer with
  | mediated mediator => exact Mediated.quiet_readLocks stepwise mediator world
  | bypass mediator amount =>
      exact Bypass.quiet_readLocks stepwise mediator world
  | locked lock => exact Locked.quiet_readLocks stepwise lock world
  | guaranteed mediator amount =>
      exact fun _ => Mediation.quiet_of_mem_readLocks
  | tracked lineage enforcing =>
      exact fun _ member => absurd member List.not_mem_nil
  | probe number screen => exact fun _ member => absurd member List.not_mem_nil
  | clearing => exact stepwise.readLocks world
  | tallied tally => exact stepwise.readLocks world
  | relay => exact stepwise.readLocks world

/-- A lock is taken and let go of in steps. -/
theorem Locked.leads_step (lock : Nat) :
    (source lock below).LeadsBy World.Step := by
  refine leads_source (fun world later reached => ?_) stepwise.leads
  have acquired : world.Step (world.note (.acquired (.layer lock))) :=
    .note world _ trivial
  have released : later.Step (later.note (.released (.layer lock))) :=
    .note later _ trivial
  exact (reached.head acquired).tail released

/-- A layer over a source that goes by steps goes by steps. -/
theorem Layer.stepwise_over (layer : Layer) : (layer.over below).Stepwise := by
  refine Source.LeadsBy.stepwise ?_ (layer.quiet_readLocks stepwise)
  by_cases locked : ∃ lock, layer = .locked lock
  · obtain ⟨lock, rfl⟩ := locked
    exact Locked.leads_step stepwise lock
  · exact Layer.leads_over .step stepwise.leads fun lock same =>
      locked ⟨lock, same⟩

namespace Tracked

theorem acts_allocateFirst
    (lineage : Lineage)
    (enforcing : Bool)
    (targets : List Nat) :
    Operation.Acts (allocateFirst lineage enforcing below targets) :=
  leads_allocateFirst .step stepwise.leads lineage enforcing targets

theorem acts_resizeFirst
    (lineage : Lineage)
    (enforcing : Bool)
    (old : Nat)
    (targets : List Nat) :
    Resizing.Acts (resizeFirst lineage enforcing below old targets) :=
  leads_resizeFirst .step stepwise.leads lineage enforcing old targets

end Tracked

end Layers

namespace Tracked

theorem tracks_charge (lineage : Lineage) (enforcing : Bool) (size : Nat) :
    Operation.Tracks lineage.members (charge lineage enforcing size) := by
  refine (Charging.tracks_tryConsume lineage _).bind fun admitted =>
    Leads.ite (leads_pure true) (Leads.ite (leads_pure false) ?_)
  exact (Charging.tracks_consume lineage _).bind fun _ => leads_pure true

theorem tracks_discharge (lineage : Lineage) (size : Nat) :
    Operation.Tracks lineage.members (discharge lineage size) :=
  Leads.ite (Charging.tracks_release lineage _) (leads_pure ())

end Tracked

/-- Every call on an allocator leads from world to world by steps. -/
theorem Allocator.stepwise_source (allocator : Allocator) :
    allocator.source.Stepwise := by
  obtain ⟨layers, heap⟩ := allocator
  induction layers with
  | nil =>
      exact Source.Stepwise.noting ((Heap.leads_source heap).stepwise
        fun _ _ member => absurd member List.not_mem_nil) .heap
  | cons layer layers ih => exact (layer.stepwise_over ih).noting (.layer layer)

end BufferBudget
