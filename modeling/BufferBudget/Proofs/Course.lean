import BufferBudget.Proofs.Calls
import BufferBudget.Proofs.Change

/-!
# The course of a session

Every call of a user, apart from moving a ceiling, leads the world of a session
by the steps that an allocator takes, whatever the call is answered with.

What kind of steps these are may depend on the allocators that are called: those
that a call names, and those that held buffers go back to.  Buffers come from
allocators that calls have named before, so that a property of these is one of
the others too (`Session.Onward`).
-/

namespace BufferBudget

open Relation

section Allocators

variable
    {step : World → World → Prop}
    (accounts : Accounts.LeadBy step)
    {allocator : Allocator}
    (leads : allocator.source.LeadsBy step)

include accounts leads

namespace Allocator

theorem leads_allocate (requested minimal : Nat) :
    Operation.LeadsBy step (allocator.allocate requested minimal) :=
  (Operation.leads_ofExcept _).bind fun _ =>
    (leads.allocate requested minimal).bind fun _ =>
      (Operation.leads_emit accounts.emitted _).bind fun _ => leads_pure _

theorem leads_tryAllocate (requested minimal : Nat) :
    Operation.LeadsBy step (allocator.tryAllocate requested minimal) := by
  refine (leads_allocate accounts leads requested minimal).bind fun result => ?_
  cases result with
  | some buffer => exact leads_pure _
  | none => exact leads.readAvailable.bind fun _ => leads_pure _

theorem leads_resize (requested minimal : Nat) :
    Resizing.LeadsBy step (allocator.resize requested minimal) :=
  (Resizing.leads_ofExcept _).bind fun _ =>
    (leads.resize requested minimal).bind fun _ =>
      Resizing.leads_size.bind fun _ => (Resizing.leads_ofOperation
        (Operation.leads_emit accounts.emitted _)).bind
        fun _ => leads_pure _

theorem leads_tryResize (requested : Nat) :
    Resizing.LeadsBy step (allocator.tryResize requested) :=
  (leads_resize accounts leads requested requested).bind fun _ =>
    Leads.ite (leads_pure none) (Resizing.leads_size.bind fun _ => leads_pure _)

end Allocator

end Allocators

namespace Allocator

/-- A buffer goes back to the allocator that it was asked of. -/
theorem originates_allocate
    (allocator : Allocator)
    (requested minimal : Nat)
    (world : World) :
    Ends (allocator.allocate requested minimal) world (fun result _ =>
      ∀ buffer, result = some buffer → buffer.originator = allocator)
      (fun _ _ => True) := by
  refine allocate_rule (fun _ _ => True)
    (fun _ => trivial) (fun _ => ends_somehow) ?told
  case told =>
    intro result _ _ _ buffer given
    obtain ⟨contents, -, rfl⟩ := Option.map_eq_some_iff.mp given
    rfl

theorem originates_tryAllocate
    (allocator : Allocator)
    (requested minimal : Nat)
    (world : World) :
    Ends (allocator.tryAllocate requested minimal) world (fun result _ =>
      ∀ buffer, result = .ok buffer → buffer.originator = allocator)
      (fun _ _ => True) := by
  refine tryAllocate_rule
    (allocator.originates_allocate requested minimal world) ?given ?read
  case given =>
    rintro buffer _ origin _ ⟨⟩
    exact origin buffer rfl
  case read =>
    exact fun _ _ => ends_of_forall (fun _ _ => nofun) (fun _ _ => trivial)

end Allocator

/-- The allocators that a call names, if it names any, have a property. -/
def Call.Names (property : Allocator → Prop) : Call → Prop
  | .allocate _ allocator _ _ => property allocator
  | .tryAllocate _ allocator _ _ => property allocator
  | .resizeSlot _ allocator _ _ => property allocator
  | .resize _ through _ _ =>
      ∀ allocator, through = some allocator → property allocator
  | .tryResize _ through _ =>
      ∀ allocator, through = some allocator → property allocator
  | _ => True

theorem Call.names_of_forall
    {property : Allocator → Prop}
    (every : ∀ allocator, property allocator)
    (call : Call) :
    call.Names property := by
  cases call with
  | allocate => exact every _
  | tryAllocate => exact every _
  | resizeSlot => exact every _
  | resize => exact fun allocator _ => every allocator
  | tryResize => exact fun allocator _ => every allocator
  | _ => exact trivial

theorem Call.Names.mono
    {property weaker : Allocator → Prop}
    {call : Call}
    (names : call.Names property)
    (weaken : ∀ allocator, property allocator → weaker allocator) :
    call.Names weaker := by
  cases call with
  | allocate handle allocator requested minimal => exact weaken allocator names
  | tryAllocate handle allocator requested minimal =>
      exact weaken allocator names
  | resizeSlot handle allocator requested minimal =>
      exact weaken allocator names
  | resize handle through requested minimal =>
      exact fun allocator same => weaken allocator (names allocator same)
  | tryResize handle through requested =>
      exact fun allocator same => weaken allocator (names allocator same)
  | _ => exact trivial

namespace Session

/-- The allocators that held buffers go back to have a property. -/
def HoldsFrom (property : Allocator → Prop) (session : Session) : Prop :=
  ∀ handle buffer, session.shelf.find? handle = some buffer →
    property buffer.originator

/--
A session leads to another by steps of a kind, and to one that holds buffers of
allocators with a property.
-/
structure Onward
    (step : World → World → Prop)
    (property : Allocator → Prop)
    (session later : Session) : Prop where
  world : ReflTransGen step session.world later.world
  held : later.HoldsFrom property

variable
    {step : World → World → Prop}
    {property : Allocator → Prop}
    {session : Session}

theorem Onward.trans
    {later last : Session}
    (first : session.Onward step property later)
    (rest : later.Onward step property last) :
    session.Onward step property last :=
  ⟨first.world.trans rest.world, rest.held⟩

/-- An allocator that is named, or else the one that a buffer came from. -/
theorem property_through
    {through : Option Allocator}
    {buffer : Buffer}
    (named : ∀ allocator, through = some allocator → property allocator)
    (genuine : property buffer.originator) :
    property (through.getD buffer.originator) := by
  cases through with
  | none => exact genuine
  | some allocator => exact named allocator rfl

theorem holdsFrom_start (world : World) : (start world).HoldsFrom property :=
  fun _ _ found => nomatch found

theorem HoldsFrom.insert
    (held : session.HoldsFrom property)
    (world : World)
    (handle : Nat)
    {buffer : Buffer}
    (genuine : property buffer.originator) :
    HoldsFrom property
      { world, shelf := session.shelf.insert handle buffer } := by
  intro place other found
  rw [Shelf.find?_insert] at found
  split at found
  · exact Option.some.inj found ▸ genuine
  · exact held place other found

theorem HoldsFrom.erase
    (held : session.HoldsFrom property)
    (world : World)
    (handle : Nat) :
    HoldsFrom property { world, shelf := session.shelf.erase handle } := by
  intro place other found
  rw [Shelf.find?_erase] at found
  split at found
  · exact nomatch found
  · exact held place other found

section Onward

variable (held : session.HoldsFrom property)

include held

theorem onward_self : session.Onward step property session :=
  ⟨.refl, held⟩

theorem onward_run
    {α : Type}
    {operation : Operation α}
    (leads : Operation.LeadsBy step operation) :
    session.Onward step property (session.run operation).2 :=
  run_rule (fun _ later => session.Onward step property later)
    ((leads session.world).mono (fun _ _ reached => ⟨reached, held⟩)
      fun _ _ stopped => ⟨stopped.1, held⟩)

theorem onward_resizeHeld
    {α : Type}
    {resizing : Resizing α}
    (leads : Resizing.LeadsBy step resizing)
    (handle : Nat)
    {buffer : Buffer}
    (genuine : property buffer.originator) :
    session.Onward step property
      (session.resizeHeld handle buffer resizing).2.2 :=
  resizeHeld_rule (fun _ _ later => session.Onward step property later)
    ((leads { world := session.world, contents := buffer.contents }).mono
      (fun _ _ reached => ⟨reached, held.insert _ handle genuine⟩)
      fun _ _ stopped => ⟨stopped.1, held.insert _ handle genuine⟩)

theorem onward_performHeld
    (handle : Nat)
    {next : Buffer → Answer × Session}
    (onwards : ∀ buffer, property buffer.originator →
      session.Onward step property (next buffer).2) :
    session.Onward step property (session.performHeld handle next).2 :=
  performHeld_rule (fun outcome => session.Onward step property outcome.2)
    (fun _ => onward_self held) fun buffer found =>
    onwards buffer (held handle buffer found)

theorem onward_performWrite (handle : Nat) (edit : Contents → Contents) :
    session.Onward step property (session.performWrite handle edit).2 :=
  onward_performHeld held handle fun _ genuine =>
    ⟨.refl, held.insert _ handle genuine⟩

variable
    (accounts : Accounts.LeadBy step)
    (sources : ∀ allocator, property allocator → allocator.source.LeadsBy step)

include sources

theorem onward_release (handle : Nat) :
    session.Onward step property (session.release handle).2 := by
  refine release_rule (fun _ later => session.Onward step property later)
    (fun _ => onward_self held) fun buffer found => ?_
  have leads := sources buffer.originator (held handle buffer found)
  exact (leads.free buffer.size session.world).mono
    (fun _ _ reached => ⟨reached, held.erase _ handle⟩)
    fun _ _ stopped => ⟨stopped.1, held.erase _ handle⟩

include accounts

theorem onward_allocateInto
    (handle : Nat)
    {allocator : Allocator}
    (genuine : property allocator)
    (requested minimal : Nat) :
    session.Onward step property
      (session.allocateInto handle allocator requested minimal).2 := by
  have leads := allocator.leads_allocate accounts
    (sources allocator genuine) requested minimal
  refine allocateInto_rule (fun _ later => session.Onward step property later)
    (((leads session.world).and
      (allocator.originates_allocate requested minimal session.world)).mono
      ?_ ?_)
  · rintro result later ⟨reached, origin⟩
    refine ⟨fun _ => ⟨reached, held⟩, fun buffer given =>
      ⟨reached, held.insert _ handle ?_⟩⟩
    exact (origin buffer given).symm ▸ genuine
  · exact fun _ _ stopped => ⟨stopped.1.1, held⟩

theorem onward_tryAllocateInto
    (handle : Nat)
    {allocator : Allocator}
    (genuine : property allocator)
    (requested minimal : Nat) :
    session.Onward step property
      (session.tryAllocateInto handle allocator requested minimal).2 := by
  have leads := allocator.leads_tryAllocate accounts
    (sources allocator genuine) requested minimal
  refine tryAllocateInto_rule
    (fun _ later => session.Onward step property later)
    (((leads session.world).and
      (allocator.originates_tryAllocate requested minimal session.world)).mono
      ?_ ?_)
  · rintro result later ⟨reached, origin⟩
    refine ⟨fun _ _ => ⟨reached, held⟩, fun buffer given =>
      ⟨reached, held.insert _ handle ?_⟩⟩
    exact (origin buffer given).symm ▸ genuine
  · exact fun _ _ stopped => ⟨stopped.1.1, held⟩

omit accounts in
/--
A request for a new buffer goes on from where the handle has been vacated.
-/
theorem onward_performNew_of_release
    (handle : Nat)
    {next : Session → Answer × Session}
    {stopped : Fault → Answer}
    (onwards : ∀ later : Session, later.HoldsFrom property →
      later.Onward step property (next later).2) :
    (session.release handle).2.Onward step property
      (session.performNew handle next stopped).2 := by
  have vacated := (onward_release held sources handle).held
  refine performNew_rule
    (fun outcome => (session.release handle).2.Onward step property outcome.2)
    (fun _ _ released => ?_) (fun _ later released => ?_)
  · rw [released] at vacated ⊢
    exact onward_self vacated
  · rw [released] at vacated ⊢
    exact onwards later vacated

omit accounts in
theorem onward_performNew
    (handle : Nat)
    {next : Session → Answer × Session}
    {stopped : Fault → Answer}
    (onwards : ∀ later : Session, later.HoldsFrom property →
      later.Onward step property (next later).2) :
    session.Onward step property (session.performNew handle next stopped).2 :=
  (onward_release held sources handle).trans
    (onward_performNew_of_release held sources handle onwards)

/--
A call leads onward if the allocators that it names do, and, should it move a
ceiling, if this does.
-/
theorem onward_perform
    {call : Call}
    (names : call.Names property)
    (ceilings : ∀ mediator ceiling, call = .setCeiling mediator ceiling →
      Operation.LeadsBy step (Mediation.setCeiling mediator ceiling)) :
    session.Onward step property (session.perform call).2 := by
  cases call with
  | allocate handle allocator requested minimal =>
      exact onward_performNew held sources handle fun _ vacated =>
        onward_allocateInto vacated accounts sources handle names
        requested minimal
  | tryAllocate handle allocator requested minimal =>
      exact onward_performNew held sources handle fun _ vacated =>
        onward_tryAllocateInto vacated accounts sources handle names
        requested minimal
  | resizeSlot handle allocator requested minimal =>
      rw [perform]
      split
      · exact onward_allocateInto held accounts sources handle names
          requested minimal
      · rename_i buffer found
        have leads := sources allocator names
        exact onward_resizeHeld held
          (allocator.leads_resize accounts leads requested minimal)
          handle (held handle buffer found)
  | resize handle through requested minimal =>
      refine onward_performHeld held handle fun buffer genuine => ?_
      have leads := sources _ (property_through names genuine)
      exact onward_resizeHeld held
        (Allocator.leads_resize accounts leads requested minimal) handle genuine
  | tryResize handle through requested =>
      refine onward_performHeld held handle fun buffer genuine => ?_
      have leads := sources _ (property_through names genuine)
      exact onward_resizeHeld held
        (Allocator.leads_tryResize accounts leads requested) handle genuine
  | free handle => exact onward_release held sources handle
  | fill handle byte => exact onward_performWrite held handle (·.fill byte)
  | write handle offset bytes =>
      exact onward_performWrite held handle (·.write offset bytes)
  | read handle =>
      exact onward_performHeld held handle fun _ _ => onward_self held
  | originAvailable handle =>
      exact onward_performHeld held handle fun buffer genuine =>
        onward_run held (sources buffer.originator genuine).readAvailable
  | describe handle address =>
      exact onward_performHeld held handle fun _ _ => onward_self held
  | setCeiling mediator ceiling =>
      exact onward_run held (ceilings mediator ceiling rfl)
  | mediatorAllocate mediator requested minimal =>
      exact onward_run held (accounts.allocate mediator requested minimal)
  | mediatorFree mediator amount =>
      exact onward_run held (accounts.free mediator amount)
  | tryConsume lineage bytes =>
      exact onward_run held (accounts.tryConsume lineage bytes)
  | consume lineage bytes =>
      exact onward_run held (accounts.consume lineage bytes)
  | release lineage bytes =>
      exact onward_run held (accounts.release lineage bytes)

end Onward

section Changes

/-- Of every allocator it is known that it goes by steps. -/
theorem leadsBy_step (allocator : Allocator) (_ : True) :
    allocator.source.LeadsBy World.Step :=
  allocator.stepwise_source.leads

theorem changes_release (handle : Nat) :
    session.world.Changes (session.release handle).2.world :=
  (onward_release (fun _ _ _ => trivial) leadsBy_step handle).world

theorem changes_allocateInto
    (handle : Nat)
    (allocator : Allocator)
    (requested minimal : Nat) :
    session.world.Changes
      (session.allocateInto handle allocator requested minimal).2.world :=
  (onward_allocateInto (fun _ _ _ => trivial) .step leadsBy_step handle
    trivial requested minimal).world

theorem changes_tryAllocateInto
    (handle : Nat)
    (allocator : Allocator)
    (requested minimal : Nat) :
    session.world.Changes
      (session.tryAllocateInto handle allocator requested minimal).2.world :=
  (onward_tryAllocateInto (fun _ _ _ => trivial) .step leadsBy_step handle
    trivial requested minimal).world

/--
A request for a new buffer goes on from where the handle has been vacated.
-/
theorem changes_performNew_of_release
    (handle : Nat)
    {next : Session → Answer × Session}
    {stopped : Fault → Answer}
    (onwards : ∀ later : Session, later.world.Changes (next later).2.world) :
    (session.release handle).2.world.Changes
      (session.performNew handle next stopped).2.world :=
  (onward_performNew_of_release (fun _ _ _ => trivial) leadsBy_step handle
    fun later _ => ⟨onwards later, fun _ _ _ => trivial⟩).world

/--
A call that moves no ceiling does nothing to the world but what allocators do.
-/
theorem changes_perform
    {call : Call}
    (notCeiling : ∀ mediator ceiling, call ≠ .setCeiling mediator ceiling) :
    session.world.Changes (session.perform call).2.world :=
  (onward_perform (fun _ _ _ => trivial) .step leadsBy_step
    (call.names_of_forall fun _ => trivial) fun mediator ceiling same =>
    absurd same (notCeiling mediator ceiling)).world

end Changes

/-- Moving a ceiling does that alone. -/
theorem around_perform_setCeiling (mediator ceiling : Nat) :
    session.world.Around (·.setCeiling mediator ceiling)
      (session.perform (.setCeiling mediator ceiling)).2.world :=
  run_rule (fun _ later =>
    session.world.Around (·.setCeiling mediator ceiling) later.world)
    ((Mediation.ends_setCeiling mediator ceiling session.world).sure
      fun _ _ came => came)

/-- What steps and moved ceilings preserve holds after any calls. -/
theorem world_performAll
    (invariant : World → Prop)
    (steps : ∀ world later : World, world.Changes later → invariant world →
      invariant later)
    (ceilings : ∀ (world later : World) (mediator ceiling : Nat),
      world.Around (·.setCeiling mediator ceiling) later → invariant world →
      invariant later)
    (begins : invariant session.world)
    (calls : List Call) :
    invariant (session.performAll calls).world := by
  induction calls generalizing session with
  | nil => exact begins
  | cons call rest ih =>
      refine ih ?_
      cases call with
      | setCeiling mediator ceiling =>
          exact ceilings _ _ mediator ceiling
            (around_perform_setCeiling mediator ceiling) begins
      | _ => exact steps _ _ (changes_perform nofun) begins

end Session

end BufferBudget
