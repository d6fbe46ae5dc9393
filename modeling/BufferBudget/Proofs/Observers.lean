import BufferBudget.Act
import BufferBudget.Proofs.Charges
import BufferBudget.Proofs.Companions

/-!
# Layers that only look on

Three kinds of layer change nothing of what passes through them: one counts, one
takes a lock, and one does nothing at all.  A fourth, which clears fresh bytes,
changes nothing but these.  `Allocator.without` takes such layers out of a stack
wherever they stand, and `Allocator.alike_without` compares a stack with what is
left of it.

The comparison is a simulation of two worlds that share their trackers, their
probes and their diagnostics, and whose mediators differ at most in having a
lock.  Of the left stack a layer may have been taken out on the right, so that
rules are needed for steps that the left side takes alone.  Where bytes are not
compared, clearing is such a step too.
-/

namespace BufferBudget

/-- A mediator without its lock. -/
def Mediator.unguarded : Mediator → Mediator
  | .ofQuota quota => .ofQuota { quota with guarded := false }
  | .ofArbiter arbiter => .ofArbiter arbiter

namespace Mediator

@[simp]
theorem available_unguarded (mediator : Mediator) :
    mediator.unguarded.available = mediator.available := by
  cases mediator <;> rfl

@[simp]
theorem usage_unguarded (mediator : Mediator) :
    mediator.unguarded.usage = mediator.usage := by
  cases mediator <;> rfl

@[simp]
theorem ceiling?_unguarded (mediator : Mediator) :
    mediator.unguarded.ceiling? = mediator.ceiling? := by
  cases mediator <;> rfl

@[simp]
theorem enforced_unguarded (mediator : Mediator) :
    mediator.unguarded.enforced = mediator.enforced := by
  cases mediator <;> rfl

@[simp]
theorem allocateDiagnostics_unguarded
    (mediator : Mediator)
    (requested minimal : Nat) :
    mediator.unguarded.allocateDiagnostics requested minimal =
      mediator.allocateDiagnostics requested minimal := by
  cases mediator <;> rfl

@[simp]
theorem freeDiagnostics_unguarded (mediator : Mediator) (amount : Nat) :
    mediator.unguarded.freeDiagnostics amount =
      mediator.freeDiagnostics amount := by
  cases mediator <;> rfl

theorem unguarded_free (mediator : Mediator) (amount : Nat) :
    (mediator.free amount).unguarded = mediator.unguarded.free amount := by
  cases mediator <;> rfl

theorem unguarded_setCeiling (mediator : Mediator) (ceiling : Nat) :
    (mediator.setCeiling ceiling).unguarded =
      mediator.unguarded.setCeiling ceiling := by
  cases mediator <;> rfl

/-- A mediator decides as it would without its lock. -/
theorem allocate_unguarded (mediator : Mediator) (requested minimal : Nat) :
    ExceptRel
      (fun answer other => answer.1 = other.1 ∧ answer.2.unguarded = other.2)
      (mediator.allocate requested minimal)
      (mediator.unguarded.allocate requested minimal) := by
  cases mediator with
  | ofArbiter arbiter => exact .ok ⟨rfl, rfl⟩
  | ofQuota quota =>
      rw [unguarded, allocate, allocate, Quota.allocate, Quota.allocate]
      have grant :
          Quota.grant { quota with guarded := false } requested minimal =
            quota.grant requested minimal :=
        rfl
      simp only [grant]
      split
      · exact .error _
      · cases Size.add quota.usage (quota.grant requested minimal) with
        | error fault => exact .error fault
        | ok usage => exact .ok ⟨rfl, rfl⟩

end Mediator

/--
Of two results that agree with the same third one, each agrees with the other.
-/
theorem ExceptRel.meet
    {ε α β γ : Type}
    {agree : α → γ → Prop}
    {other : β → γ → Prop}
    {left : Except ε α}
    {right : Except ε β}
    {last : Except ε γ}
    (one : ExceptRel agree left last)
    (two : ExceptRel other right last) :
    ExceptRel (fun value given => ∃ common, agree value common ∧
      other given common) left right := by
  cases one with
  | error fault =>
      cases two with
      | error fault => exact .error fault
  | ok agrees =>
      cases two with
      | ok others => exact .ok ⟨_, agrees, others⟩

/-- The world in which no mediator has a lock, and none is kept behind one. -/
def World.unguarded (world : World) : World :=
  { world with
    mediators := fun key => (world.mediators.entry key).unguarded
    gates := .constant none }

/--
Two worlds are the same, but for the locks of their mediators, for their
tallies, and for what has been noted beside diagnostics.
-/
structure World.SameBesideObservers (left right : World) : Prop where
  mediators : ∀ key,
    (left.mediators.entry key).unguarded = (right.mediators.entry key).unguarded
  trackers : left.trackers = right.trackers
  probes : left.probes = right.probes
  diagnostics : left.trail.filterMap Event.diagnostic? =
    right.trail.filterMap Event.diagnostic?

namespace World.SameBesideObservers

variable {left right : World}

/--
What both sides note is no difference, as long as it is the same
diagnostic, or none.
-/
theorem note
    (same : left.SameBesideObservers right)
    {event other : Event}
    (diagnostic : event.diagnostic? = other.diagnostic?) :
    (left.note event).SameBesideObservers (right.note other) where
  mediators := same.mediators
  trackers := same.trackers
  probes := same.probes
  diagnostics := by
    rw [trail_note, trail_note, List.filterMap_cons, List.filterMap_cons,
      diagnostic, same.diagnostics]

/-- What one side notes by itself is no difference if it is no diagnostic. -/
theorem noteLeft
    (same : left.SameBesideObservers right)
    {event : Event}
    (silent : event.diagnostic? = none) :
    (left.note event).SameBesideObservers right where
  mediators := same.mediators
  trackers := same.trackers
  probes := same.probes
  diagnostics := by
    rw [trail_note, List.filterMap_cons_none silent, same.diagnostics]

theorem symm (same : left.SameBesideObservers right) :
    right.SameBesideObservers left :=
  ⟨fun key => (same.mediators key).symm, same.trackers.symm, same.probes.symm,
    same.diagnostics.symm⟩

theorem noteAllLeft
    (same : left.SameBesideObservers right)
    {events : List Event}
    (ofLocks : ∀ event ∈ events, event.OfLock) :
    (left.noteAll events).SameBesideObservers right :=
  noteAll_preserves
    (fun event member now (still : now.SameBesideObservers right) =>
      still.noteLeft (ofLocks event member).diagnostic?_eq_none) same

/-- Each side may take its own locks. -/
theorem noteAllBoth
    (same : left.SameBesideObservers right)
    {events others : List Event}
    (ofLocks : ∀ event ∈ events, event.OfLock)
    (ofLocksToo : ∀ event ∈ others, event.OfLock) :
    (left.noteAll events).SameBesideObservers (right.noteAll others) :=
  ((same.noteAllLeft ofLocks).symm.noteAllLeft ofLocksToo).symm

theorem setMediator
    (same : left.SameBesideObservers right)
    (key : Nat)
    {mediator other : Mediator}
    (unguarded : mediator.unguarded = other.unguarded) :
    (left.setMediator key mediator).SameBesideObservers
      (right.setMediator key other) where
  mediators := by
    intro place
    rw [entry_mediators_setMediator, entry_mediators_setMediator]
    split
    · exact unguarded
    · exact same.mediators place
  trackers := same.trackers
  probes := same.probes
  diagnostics := same.diagnostics

theorem setTallyLeft
    (same : left.SameBesideObservers right)
    (tally : Nat)
    (account : Tally) :
    (left.setTally tally account).SameBesideObservers right :=
  ⟨same.mediators, same.trackers, same.probes, same.diagnostics⟩

theorem setTallyBoth
    (same : left.SameBesideObservers right)
    (tally : Nat)
    (account other : Tally) :
    (left.setTally tally account).SameBesideObservers
      (right.setTally tally other) :=
  ⟨same.mediators, same.trackers, same.probes, same.diagnostics⟩

/-- A world is the same without the locks of its mediators. -/
theorem unguarded (world : World) :
    world.SameBesideObservers world.unguarded where
  mediators := by
    intro key
    show _ = (world.mediators.entry key).unguarded.unguarded
    cases world.mediators.entry key <;> rfl
  trackers := rfl
  probes := rfl
  diagnostics := rfl

/-- Charges do not notice what observers do. -/
theorem charged : World.Charged World.SameBesideObservers where
  trackers := fun same => same.trackers
  note := fun _ same => same.note rfl
  setTracker := fun tracker account same =>
    ⟨same.mediators, congrArg (·.set tracker account) same.trackers,
      same.probes, same.diagnostics⟩

end World.SameBesideObservers

/--
Worlds are alike if they are the same beside observers; the bytes of buffers are
compared or not.
-/
def Likeness.besideObservers (exact : Prop) : Likeness where
  Worlds := World.SameBesideObservers
  Exact := exact
  Excused := fun _ => False
  note := fun diagnostic same => same.note diagnostic

namespace Mediation

variable {α : Type} {mediator : Nat}

/-- The lock of a mediator is let go of whatever the result is. -/
theorem run_guarding (operation : Operation α) (world : World) :
    (guarding mediator operation).run world =
      mapState (·.noteAll (leavingLock world mediator))
        (operation.run (world.noteAll (takingLock world mediator))) := by
  show (if (world.mediators.entry mediator).guarded = true then
      Operation.holding (.mediator mediator) operation
    else operation).run world = _
  by_cases guarded : (world.mediators.entry mediator).guarded = true
  · rw [if_pos guarded, run_holding, takingLock, leavingLock,
      if_pos guarded, if_pos guarded]
    rfl
  · rw [if_neg guarded, takingLock, leavingLock, if_neg guarded, if_neg guarded]
    exact (mapState_id _).symm

/-- So is the lock that the mediator is kept behind. -/
theorem run_entering (operation : Operation α) (world : World) :
    (entering mediator operation).run world =
      mapState (·.noteAll (leavingGate world mediator))
        (operation.run (world.noteAll (takingGate world mediator))) := by
  have got : (get : Operation World).run world = .ok world world := rfl
  rw [entering, run_bind_of_ok got, takingGate, leavingGate]
  cases world.gates.entry mediator with
  | none => exact (mapState_id _).symm
  | some lock => exact run_holding (.layer lock) operation world

end Mediation

namespace Likeness

variable {exact : Prop} {α β : Type}

theorem besideObservers_guarding
    {agree : α → β → Prop}
    {left : Operation α}
    {right : Operation β}
    (pair : (besideObservers exact).Operations agree left right)
    (mediator : Nat) :
    (besideObservers exact).Operations agree (Mediation.guarding mediator left)
      (Mediation.guarding mediator right) := by
  intro first second begun
  rw [Mediation.run_guarding, Mediation.run_guarding]
  have taken := begun.noteAllBoth
    (fun _ => @Mediation.ofLock_of_mem_takingLock first mediator _)
    (fun _ => @Mediation.ofLock_of_mem_takingLock second mediator _)
  exact (pair _ _ taken).mapState fun _ _ still =>
    still.noteAllBoth (fun _ => Mediation.ofLock_of_mem_leavingLock)
      (fun _ => Mediation.ofLock_of_mem_leavingLock)

/-- The owner of a mediator may take different locks on the two sides. -/
theorem besideObservers_entering
    {agree : α → β → Prop}
    {left : Operation α}
    {right : Operation β}
    (pair : (besideObservers exact).Operations agree left right)
    (mediator : Nat) :
    (besideObservers exact).Operations agree (Mediation.entering mediator left)
      (Mediation.entering mediator right) := by
  intro first second begun
  rw [Mediation.run_entering, Mediation.run_entering]
  have taken := begun.noteAllBoth
    (fun _ => @Mediation.ofLock_of_mem_takingGate first mediator _)
    (fun _ => @Mediation.ofLock_of_mem_takingGate second mediator _)
  exact (pair _ _ taken).mapState fun _ _ still =>
    still.noteAllBoth (fun _ => Mediation.ofLock_of_mem_leavingGate)
      (fun _ => Mediation.ofLock_of_mem_leavingGate)

theorem operations_ofExcept
    (likeness : Likeness)
    {agree : α → β → Prop}
    {result : Except Fault α}
    {other : Except Fault β}
    (agrees : ExceptRel agree result other) :
    likeness.Operations agree (Operation.ofExcept result)
      (Operation.ofExcept other) := by
  cases agrees with
  | ok agrees => exact endAlike_pure agrees
  | error fault => exact endAlike_throw fault

theorem mediates_besideObservers (mediator : Nat) :
    (besideObservers exact).Mediates mediator where
  available := by
    intro left right same
    rw [Mediation.available, Mediation.available,
      ← Mediator.available_unguarded,
      same.mediators, Mediator.available_unguarded]
  usage := by
    intro left right same
    rw [Mediation.usage, Mediation.usage, ← Mediator.usage_unguarded,
      same.mediators, Mediator.usage_unguarded]
  readLocks := fun _ still =>
    still.noteAllBoth (fun _ => Mediation.ofLock_of_mem_readLocks)
      (fun _ => Mediation.ofLock_of_mem_readLocks)
  allocate := by
    intro requested minimal
    refine besideObservers_guarding
      (endAlike_get.bind fun left right same => ?_) mediator
    have unguarded := same.mediators mediator
    have decided :=
      (left.mediators.entry mediator).allocate_unguarded requested minimal
    rw [unguarded] at decided
    have agrees := decided.meet
      ((right.mediators.entry mediator).allocate_unguarded requested minimal)
    refine (operations_ofExcept _ agrees).bind ?_
    rintro ⟨granted, next⟩ ⟨given, other⟩ ⟨⟨_, _⟩, ⟨rfl, rfl⟩, ⟨rfl, booked⟩⟩
    dsimp only
    rw [← Mediator.allocateDiagnostics_unguarded, unguarded,
      Mediator.allocateDiagnostics_unguarded]
    refine (operations_emit _).bindEq fun _ => ?_
    refine EndAlike.bindEq (endAlike_modify fun _ _ still =>
      still.setMediator mediator booked.symm) fun _ => ?_
    exact (operations_note rfl).bindEq fun _ => endAlike_pure rfl
  free := by
    intro amount
    refine besideObservers_guarding
      (endAlike_get.bind fun left right same => ?_) mediator
    have unguarded := same.mediators mediator
    dsimp only
    rw [← Mediator.freeDiagnostics_unguarded, unguarded,
      Mediator.freeDiagnostics_unguarded]
    refine (operations_emit _).bindEq fun _ => ?_
    refine EndAlike.bindEq (endAlike_modify fun _ _ still =>
      still.setMediator mediator ?_) fun _ => operations_note rfl
    rw [Mediator.unguarded_free, Mediator.unguarded_free, unguarded]

theorem operations_setCeiling_besideObservers (mediator ceiling : Nat) :
    (besideObservers exact).Operations Eq
      (Mediation.setCeiling mediator ceiling)
      (Mediation.setCeiling mediator ceiling) := by
  refine besideObservers_entering
    (besideObservers_guarding ?_ mediator) mediator
  refine endAlike_get.bind fun left right same => ?_
  refine endAlike_modify fun _ _ still => still.setMediator mediator ?_
  rw [Mediator.unguarded_setCeiling,
    Mediator.unguarded_setCeiling, same.mediators]

/-- A figure that does not depend on the lock of a mediator is found alike. -/
theorem operations_inspect_besideObservers
    (mediator : Nat)
    {figure : Mediator → Nat}
    (blind : ∀ account : Mediator, figure account.unguarded = figure account) :
    (besideObservers exact).Operations Eq (Mediation.inspect mediator figure)
      (Mediation.inspect mediator figure) := by
  refine besideObservers_entering
    (besideObservers_guarding ?_ mediator) mediator
  refine endAlike_get.bind fun left right same => endAlike_pure ?_
  rw [← blind, same.mediators, blind]

theorem operations_isEnforced_besideObservers (mediator : Nat) :
    (besideObservers exact).Operations Eq (Mediation.isEnforced mediator)
      (Mediation.isEnforced mediator) := by
  refine besideObservers_entering ?_ mediator
  refine endAlike_get.bind fun left right same => endAlike_pure ?_
  rw [← Mediator.enforced_unguarded, same.mediators,
    Mediator.enforced_unguarded]

theorem tallies_besideObservers (tally : Nat) :
    (besideObservers exact).Tallies tally :=
  fun _ => endAlike_modify fun _ _ same => same.setTallyBoth tally _ _

theorem probes_besideObservers (probe : Nat) :
    (besideObservers exact).Probes probe := by
  intro screen
  refine endAlike_get.bind fun left right same => ?_
  refine EndAlike.bindEq (endAlike_modify fun later last still => ?_) fun _ =>
    endAlike_pure ?_
  · refine ⟨still.mediators, still.trackers, ?_, still.diagnostics⟩
    show later.probes.set probe _ = last.probes.set probe _
    rw [still.probes]
  · rw [same.probes]

/-- Whatever is done past all allocators is done alike. -/
theorem shares_besideObservers (call : Call) :
    (besideObservers exact).Shares call := by
  cases call with
  | setCeiling mediator ceiling =>
      exact operations_setCeiling_besideObservers mediator ceiling
  | mediatorAllocate mediator requested minimal =>
      exact (mediates_besideObservers mediator).allocate requested minimal
  | mediatorFree mediator amount =>
      exact (mediates_besideObservers mediator).free amount
  | tryConsume lineage bytes =>
      exact Charging.endAlike_tryConsume World.SameBesideObservers.charged
        lineage bytes
  | consume lineage bytes =>
      exact Charging.endAlike_consume World.SameBesideObservers.charged
        lineage bytes
  | release lineage bytes =>
      exact Charging.endAlike_release World.SameBesideObservers.charged
        lineage bytes
  | _ => exact trivial

end Likeness

theorem Tracked.alike_besideObservers
    {exact : Prop}
    (lineage : Lineage)
    (enforcing : Bool) :
    Alike (.besideObservers exact) lineage enforcing lineage enforcing where
  available := by
    intro left right same
    rw [available, available,
      Charging.spare_eq World.SameBesideObservers.charged same lineage]
  charge := endAlike_charge World.SameBesideObservers.charged lineage enforcing
  discharge := endAlike_discharge World.SameBesideObservers.charged lineage

/-- Whether a layer changes nothing of what passes through it. -/
def Layer.observes : Layer → Bool
  | .tallied _ | .locked _ | .relay => true
  | _ => false

/--
A layer that can be taken out: it observes, or it clears bytes that
are not compared.
-/
def Layer.Dispensable (exact : Prop) (layer : Layer) : Prop :=
  layer.observes = true ∨ layer = .clearing ∧ ¬exact

section Left

variable
    {exact : Prop}
    {left right : Source}
    (alike : left.Alike (.besideObservers exact) right)

include alike

/-- What is noted of the calls on one side is noted by that side alone. -/
theorem Source.Alike.notingLeft (site : Site) :
    (left.noting site).Alike (.besideObservers exact) right where
  available := alike.available
  readLocks := alike.readLocks
  allocate := by
    intro requested minimal _
    refine (alike.allocate requested minimal trivial).leftLast
      fun result other agrees world last still => ?_
    rw [ends_bind, ends_note]
    exact ⟨agrees, still.noteLeft rfl⟩
  resize := by
    intro requested minimal _
    refine EndAlike.leftFirst (fun _ _ still => still) fun old => ?_
    refine (alike.resize requested minimal trivial).leftLast
      fun met other agrees bench last still => ?_
    rw [ends_bind, ends_size, ends_bind, ends_liftM]
    exact ⟨agrees, still.world.noteLeft rfl, still.contents⟩
  free := fun size => EndAlike.leftFirst (fun _ _ still => still.noteLeft rfl)
    fun _ => alike.free size

theorem Tallied.alike_left (tally : Nat) :
    (source tally left).Alike (.besideObservers exact) right where
  available := alike.available
  readLocks := alike.readLocks
  allocate := by
    intro requested minimal _
    refine (alike.allocate requested minimal trivial).leftLast
      fun result other agrees world last still => ?_
    cases result with
    | none => exact ⟨agrees, still.setTallyLeft tally _⟩
    | some contents => exact ⟨agrees, still.setTallyLeft tally _⟩
  resize := by
    intro requested minimal _
    refine EndAlike.leftFirst (fun _ _ still => still) fun old => ?_
    refine (alike.resize requested minimal trivial).leftLast
      fun met other agrees bench last still => ?_
    rw [ends_bind, ends_size, ends_bind, ends_liftM]
    refine Ends.ite (fun larger => ?_)
      (fun _ => Ends.ite (fun smaller => ?_) (fun _ => ?_))
    · rw [Size.sub_of_le (Nat.le_of_lt larger)]
      exact ⟨agrees, still.world.setTallyLeft tally _, still.contents⟩
    · rw [Size.sub_of_le (Nat.le_of_lt smaller)]
      exact ⟨agrees, still.world.setTallyLeft tally _, still.contents⟩
    · refine Ends.ite (fun missed => ?_) (fun _ => ⟨agrees, still⟩)
      have less := of_decide_eq_true (Bool.and_eq_true_iff.mp missed).2
      rw [Size.sub_of_le (Nat.le_of_lt less)]
      exact ⟨agrees, still.world.setTallyLeft tally _, still.contents⟩
  free := fun size => (alike.free size).leftLast
    fun _ _ agrees _ _ still => ⟨agrees, still.setTallyLeft tally _⟩

theorem Locked.alike_left (lock : Nat) :
    (source lock left).Alike (.besideObservers exact) right where
  available := alike.available
  readLocks := by
    intro first second later last begun still
    have taken :=
      still.noteLeft (@rfl _ (Event.acquired (.layer lock)).diagnostic?)
    simp only [source, World.noteAll_append, World.noteAll_cons,
      World.noteAll_nil]
    exact (alike.readLocks begun taken).noteLeft rfl
  allocate := by
    intro requested minimal _ first second begun
    rw [source, run_holding,
      ← mapState_id ((right.allocate requested minimal).run second)]
    exact (alike.allocate requested minimal trivial _ _
      (begun.noteLeft rfl)).mapState fun _ _ still => still.noteLeft rfl
  resize := by
    intro requested minimal _ first second begun
    rw [source, run_holdingResizing,
      ← mapState_id ((right.resize requested minimal).run second)]
    have taken : (Likeness.besideObservers exact).Benches
        { first with world := first.world.note (.acquired (.layer lock)) }
        second :=
      ⟨begun.world.noteLeft rfl, begun.contents⟩
    exact (alike.resize requested minimal trivial _ _ taken).mapState
      fun _ _ still => ⟨still.world.noteLeft rfl, still.contents⟩
  free := by
    intro size first second begun
    rw [source, run_holding, ← mapState_id ((right.free size).run second)]
    exact (alike.free size _ _ (begun.noteLeft rfl)).mapState
      fun _ _ still => still.noteLeft rfl

/-- Clearing changes bytes alone. -/
theorem Clearing.alike_left (inexact : ¬exact) :
    (source left).Alike (.besideObservers exact) right where
  available := alike.available
  readLocks := alike.readLocks
  allocate := by
    intro requested minimal _
    refine (alike.allocate requested minimal trivial).leftLast
      fun result other agrees world last still => ⟨?_, still⟩
    cases agrees with
    | none => exact .none
    | some same =>
        exact .some ⟨(Contents.size_fill _ _).trans same.size, fun exactly =>
          (inexact exactly).elim⟩
  resize := by
    intro requested minimal _
    refine EndAlike.leftFirst (fun _ _ still => still) fun old => ?_
    refine (alike.resize requested minimal trivial).leftLast
      fun met other agrees bench last still => ?_
    rw [ends_bind, ends_size]
    refine Ends.ite (fun _ => ?_) (fun _ => ⟨agrees, still⟩)
    have size :=
      (Contents.size_zeroFrom bench.contents old).trans still.contents.size
    exact ⟨agrees, still.world, size, fun exactly => (inexact exactly).elim⟩
  free := alike.free

/--
A stack with one layer more cannot be told from one without it, if the layer
can be taken out.
-/
theorem Layer.Dispensable.alike_left
    {layer : Layer}
    (dispensable : layer.Dispensable exact) :
    (layer.over left).Alike (.besideObservers exact) right := by
  cases dispensable with
  | inr clears =>
      obtain ⟨rfl, inexact⟩ := clears
      exact Clearing.alike_left alike inexact
  | inl observes =>
      cases layer with
      | tallied tally => exact Tallied.alike_left alike tally
      | locked lock => exact Locked.alike_left alike lock
      | relay => exact alike
      | _ => exact nomatch observes

end Left

/-- A layer over two sources that are alike makes two that are alike again. -/
theorem Layer.alike_besideObservers
    {exact : Prop}
    {left right : Source}
    (layer : Layer)
    (alike : left.Alike (.besideObservers exact) right) :
    (layer.over left).Alike (.besideObservers exact) (layer.over right) := by
  by_cases tracked : ∃ lineage enforcing, layer = .tracked lineage enforcing
  · obtain ⟨lineage, enforcing, rfl⟩ := tracked
    exact Tracked.alike_source
      (Tracked.alike_besideObservers lineage enforcing) alike
  · exact Layer.alike_over
      (fun lineage enforcing same => tracked ⟨lineage, enforcing, same⟩)
      Likeness.mediates_besideObservers Likeness.tallies_besideObservers
      Likeness.probes_besideObservers alike

namespace Allocator

/-- An allocator without some of its layers, wherever they stand. -/
def without (removed : Layer → Bool) (allocator : Allocator) : Allocator :=
  { allocator with
      layers := allocator.layers.filter fun layer => !removed layer }

/--
An allocator cannot be told from what is left of it without layers that
can be taken out.
-/
theorem alike_without
    {exact : Prop}
    {removed : Layer → Bool}
    (dispensable : ∀ layer, removed layer = true → layer.Dispensable exact)
    (allocator : Allocator) :
    allocator.source.Alike (.besideObservers exact)
      (allocator.without removed).source := by
  obtain ⟨layers, heap⟩ := allocator
  induction layers with
  | nil => exact (Heap.alike_source heap).noting .heap .heap
  | cons layer rest ih =>
      rw [source, source, without, sourceOf]
      dsimp only
      by_cases taken : removed layer = true
      · rw [List.filter_cons_of_neg (by simp [taken])]
        exact ((dispensable layer taken).alike_left ih).notingLeft
          (.layer layer)
      · rw [List.filter_cons_of_pos (by simp [taken])]
        exact (layer.alike_besideObservers ih).noting
          (.layer layer) (.layer layer)

end Allocator

/-- A look with another allocator in the place of the one that it is at. -/
def Look.on (change : Allocator → Allocator) : Look → Look
  | .available allocator => .available (change allocator)
  | look => look

/--
Whatever is looked at, the same is found without layers that can be taken out.
-/
theorem Look.alike_without
    {exact : Prop}
    {removed : Layer → Bool}
    (dispensable : ∀ layer, removed layer = true → layer.Dispensable exact)
    (look : Look) :
    (Likeness.besideObservers exact).Operations Eq look.read
      (look.on (·.without removed)).read := by
  cases look with
  | available allocator =>
      have read := (allocator.alike_without dispensable).readAvailable
      exact read.bindEq fun _ => endAlike_pure rfl
  | usage mediator =>
      exact (Likeness.operations_inspect_besideObservers mediator
        Mediator.usage_unguarded).bindEq fun _ => endAlike_pure rfl
  | ceiling mediator =>
      have blind : ∀ account : Mediator,
          account.unguarded.ceiling?.getD Size.limit =
          account.ceiling?.getD Size.limit := by
        intro account
        rw [Mediator.ceiling?_unguarded]
      exact (Likeness.operations_inspect_besideObservers mediator blind).bindEq
        fun _ => endAlike_pure rfl
  | budget mediator =>
      exact (Likeness.operations_inspect_besideObservers mediator
        Mediator.available_unguarded).bindEq fun _ => endAlike_pure rfl
  | enforced mediator =>
      exact (Likeness.operations_isEnforced_besideObservers mediator).bindEq
        fun _ => endAlike_pure rfl
  | tracker lineage =>
      refine endAlike_get.bind fun left right same => endAlike_pure ?_
      rw [World.trackerReading, World.trackerReading, same.trackers,
        Charging.spare_eq World.SameBesideObservers.charged same lineage]

end BufferBudget
