import BufferBudget.Operation.Mediation
import BufferBudget.Proofs.Ending

/-!
# How mediators are asked and paid back

The ending of each operation on a mediator, as an equation between worlds.  An
access takes the lock of the mediator, if it has one, and tells the operator
what the mediator has to say; in between, the answer or the payment is booked
and noted.  `Around` says that a world comes from another by such a booking.
-/

namespace BufferBudget

namespace Event

/--
An event that says nothing about an account: a diagnostic, or the use of a lock.
-/
def Quiet : Event → Prop
  | .emitted _ | .acquired _ | .released _ => True
  | _ => False

/-- The use of a lock. -/
def OfLock : Event → Prop
  | .acquired _ | .released _ => True
  | _ => False

/-- An event that is no call on a layer or on a mediator. -/
def Aside : Event → Prop
  | .called _ _ | .mediated _ _ => False
  | _ => True

theorem Quiet.aside {event : Event} (quiet : event.Quiet) : event.Aside := by
  cases event with
  | emitted diagnostic => exact trivial
  | acquired lock => exact trivial
  | released lock => exact trivial
  | called site call => exact quiet.elim
  | mediated own call => exact quiet.elim
  | tracked tracker call => exact quiet.elim
  | weighed tracker total => exact quiet.elim

theorem OfLock.quiet {event : Event} (ofLock : event.OfLock) : event.Quiet := by
  cases event with
  | acquired lock => exact trivial
  | released lock => exact trivial
  | _ => exact ofLock.elim

theorem OfLock.diagnostic?_eq_none {event : Event} (ofLock : event.OfLock) :
    event.diagnostic? = none := by
  cases event with
  | emitted diagnostic => exact ofLock.elim
  | _ => rfl

end Event

/--
A mediator that has an answer to a request has booked it: a quota in its usage,
an arbiter in its history.
-/
theorem Mediator.allocate_cases
    {mediator next : Mediator}
    {requested minimal granted : Nat}
    (answer : mediator.allocate requested minimal = .ok (granted, next)) :
    (∃ quota, mediator = .ofQuota quota ∧
      granted = quota.grant requested minimal ∧
      next = .ofQuota { quota with usage := quota.usage + granted }) ∨
    ∃ arbiter, mediator = .ofArbiter arbiter ∧
      next =
        .ofArbiter (arbiter.record (.allocated requested minimal granted)) := by
  cases mediator with
  | ofArbiter arbiter =>
      obtain ⟨rfl, rfl⟩ := Prod.mk.inj (Except.ok.inj answer)
      exact .inr ⟨arbiter, rfl, rfl⟩
  | ofQuota quota =>
      left
      rw [allocate, Quota.allocate] at answer
      by_cases wrong : requested < minimal
      · rw [if_pos wrong] at answer
        cases answer
      · simp only [if_neg wrong, Size.add] at answer
        by_cases fits : quota.usage + quota.grant requested minimal ≤ Size.limit
        · rw [if_pos fits] at answer
          obtain ⟨rfl, rfl⟩ := Prod.mk.inj (Except.ok.inj answer)
          exact ⟨quota, rfl, rfl, rfl⟩
        · rw [if_neg fits] at answer
          cases answer

namespace World

/-- The world after a mediator has answered a request. -/
def grant
    (world : World)
    (mediator requested minimal granted : Nat)
    (next : Mediator) : World :=
  (world.setMediator mediator next).note
    (.mediated mediator (.allocated requested minimal granted))

/-- The world after an amount has been given back to a mediator. -/
def repay (world : World) (mediator amount : Nat) : World :=
  (world.setMediator mediator
    ((world.mediators.entry mediator).free amount)).note
    (.mediated mediator (.freed amount))

/-- The world after the ceiling of a mediator has been moved. -/
def setCeiling (world : World) (mediator ceiling : Nat) : World :=
  world.setMediator mediator
    ((world.mediators.entry mediator).setCeiling ceiling)

/--
A world comes from another by a change, with quiet events noted
before and after it.
-/
def Around (world : World) (change : World → World) (later : World) : Prop :=
  ∃ before after : List Event,
    (∀ event ∈ before, event.Quiet) ∧ (∀ event ∈ after, event.Quiet) ∧
      later = (change (world.noteAll before)).noteAll after

/-- What each event of a list preserves is preserved by all of them. -/
theorem noteAll_preserves
    {invariant : World → Prop}
    {events : List Event}
    (each : ∀ event ∈ events, ∀ world : World, invariant world →
      invariant (world.note event))
    {world : World}
    (begins : invariant world) :
    invariant (world.noteAll events) := by
  induction events generalizing world with
  | nil => exact begins
  | cons event rest ih =>
      rw [noteAll_cons]
      refine ih
        (fun other member => each other (List.mem_cons_of_mem event member)) ?_
      exact each event List.mem_cons_self world begins

theorem noteAll_append (world : World) (first second : List Event) :
    world.noteAll (first ++ second) = (world.noteAll first).noteAll second := by
  simp [noteAll]

/-- More quiet events may be noted around a change. -/
theorem Around.enclosed
    {world later : World}
    {change : World → World}
    {first last : List Event}
    (came : (world.noteAll first).Around change later)
    (quietFirst : ∀ event ∈ first, event.Quiet)
    (quietLast : ∀ event ∈ last, event.Quiet) :
    world.Around change (later.noteAll last) := by
  obtain ⟨before, after, quietBefore, quietAfter, rfl⟩ := came
  refine ⟨first ++ before, after ++ last, ?_, ?_, ?_⟩
  · exact fun event member =>
      (List.mem_append.mp member).elim (quietFirst event) (quietBefore event)
  · exact fun event member =>
      (List.mem_append.mp member).elim (quietAfter event) (quietLast event)
  · rw [noteAll_append, noteAll_append]

end World

namespace Mediation

/--
What is noted when the lock of a mediator is taken for an access, if it has one.
-/
def takingLock (world : World) (mediator : Nat) : List Event :=
  if (world.mediators.entry mediator).guarded
    then [.acquired (.mediator mediator)] else []

/--
What is noted when the lock of a mediator is let go of after an access
begun in a world.
-/
def leavingLock (world : World) (mediator : Nat) : List Event :=
  if (world.mediators.entry mediator).guarded
    then [.released (.mediator mediator)] else []

theorem ofLock_of_mem_takingLock
    {world : World}
    {mediator : Nat}
    {event : Event}
    (member : event ∈ takingLock world mediator) :
    event.OfLock := by
  rw [takingLock] at member
  split at member
  · rw [List.mem_singleton.mp member]
    exact trivial
  · exact absurd member List.not_mem_nil

theorem ofLock_of_mem_leavingLock
    {world : World}
    {mediator : Nat}
    {event : Event}
    (member : event ∈ leavingLock world mediator) :
    event.OfLock := by
  rw [leavingLock] at member
  split at member
  · rw [List.mem_singleton.mp member]
    exact trivial
  · exact absurd member List.not_mem_nil

/-- A mediator is read between the two uses of its lock that an access makes. -/
theorem readLocks_eq (world : World) (mediator : Nat) :
    readLocks world mediator =
      takingLock world mediator ++ leavingLock world mediator := by
  rw [readLocks, takingLock, leavingLock]
  split <;> rfl

theorem ofLock_of_mem_readLocks
    {world : World}
    {mediator : Nat}
    {event : Event}
    (member : event ∈ readLocks world mediator) :
    event.OfLock := by
  rw [readLocks_eq] at member
  rcases List.mem_append.mp member with taking | leaving
  · exact ofLock_of_mem_takingLock taking
  · exact ofLock_of_mem_leavingLock leaving

theorem quiet_of_mem_readLocks
    {world : World}
    {mediator : Nat}
    {event : Event}
    (member : event ∈ readLocks world mediator) :
    event.Quiet :=
  (ofLock_of_mem_readLocks member).quiet

theorem ends_guarding
    {α : Type}
    (mediator : Nat)
    (operation : Operation α)
    (world : World)
    (onValue : α → World → Prop)
    (onFault : Fault → World → Prop) :
    Ends (guarding mediator operation) world onValue onFault ↔
      Ends operation (world.noteAll (takingLock world mediator))
        (fun value later =>
          onValue value (later.noteAll (leavingLock world mediator)))
        (fun fault later =>
          onFault fault (later.noteAll (leavingLock world mediator))) := by
  rw [guarding, ends_bind, ends_get]
  by_cases guarded : (world.mediators.entry mediator).guarded = true
  · simp only [takingLock, leavingLock, guarded, if_true, ends_holding]
    rfl
  · simp only [takingLock, leavingLock, guarded]
    rfl

/-- What is noted when the lock that a mediator is kept behind is taken. -/
def takingGate (world : World) (mediator : Nat) : List Event :=
  (world.gates.entry mediator).toList.map fun lock => .acquired (.layer lock)

/-- What is noted when the lock that a mediator is kept behind is let go of. -/
def leavingGate (world : World) (mediator : Nat) : List Event :=
  (world.gates.entry mediator).toList.map fun lock => .released (.layer lock)

theorem ofLock_of_mem_takingGate
    {world : World}
    {mediator : Nat}
    {event : Event}
    (member : event ∈ takingGate world mediator) :
    event.OfLock := by
  obtain ⟨lock, -, rfl⟩ := List.mem_map.mp member
  exact trivial

theorem ofLock_of_mem_leavingGate
    {world : World}
    {mediator : Nat}
    {event : Event}
    (member : event ∈ leavingGate world mediator) :
    event.OfLock := by
  obtain ⟨lock, -, rfl⟩ := List.mem_map.mp member
  exact trivial

theorem ends_entering
    {α : Type}
    (mediator : Nat)
    (operation : Operation α)
    (world : World)
    (onValue : α → World → Prop)
    (onFault : Fault → World → Prop) :
    Ends (entering mediator operation) world onValue onFault ↔
      Ends operation (world.noteAll (takingGate world mediator))
        (fun value later =>
          onValue value (later.noteAll (leavingGate world mediator)))
        (fun fault later =>
          onFault fault (later.noteAll (leavingGate world mediator))) := by
  rw [entering, ends_bind, ends_get, takingGate, leavingGate]
  cases world.gates.entry mediator with
  | none => exact Iff.rfl
  | some lock => exact ends_holding (.layer lock) operation

/-- The events around an access are quiet. -/
theorem around_of_access
    {world : World}
    {mediator : Nat}
    {diagnostics : List Diagnostic}
    (change : World → World) :
    world.Around
      change ((change ((world.noteAll (takingLock world mediator)).noteAll
        (diagnostics.map .emitted))).noteAll (leavingLock world mediator)) := by
  refine ⟨takingLock world mediator ++ diagnostics.map .emitted,
    leavingLock world mediator, ?_,
    fun _ member => (ofLock_of_mem_leavingLock member).quiet, ?_⟩
  · intro event member
    rcases List.mem_append.mp member with taking | told
    · exact (ofLock_of_mem_takingLock taking).quiet
    · obtain ⟨diagnostic, -, rfl⟩ := List.mem_map.mp told
      exact trivial
  · rw [World.noteAll_append]

/-- A mediator that has an answer gives it, and books it. -/
theorem ends_allocate
    {mediator requested minimal granted : Nat}
    {next : Mediator}
    {world : World}
    (answer : (world.mediators.entry mediator).allocate requested minimal =
      .ok (granted, next)) :
    Ends (allocate mediator requested minimal) world
      (fun value later => value = granted ∧
        world.Around (·.grant mediator requested minimal granted next) later)
      (fun _ _ => False) := by
  rw [allocate, ends_guarding, ends_bind, ends_get]
  have sameEntry :
      (world.noteAll (takingLock world mediator)).mediators.entry mediator =
        world.mediators.entry mediator := rfl
  simp only [sameEntry, answer, ends_bind, ends_ofExcept_ok, ends_emit,
    ends_modify, ends_note, ends_pure]
  exact ⟨trivial,
    around_of_access (·.grant mediator requested minimal granted next)⟩

/-- A mediator that stops at a fault books nothing. -/
theorem ends_allocate_error
    {mediator requested minimal : Nat}
    {fault : Fault}
    {world : World}
    (answer : (world.mediators.entry mediator).allocate requested minimal =
      .error fault) :
    Ends (allocate mediator requested minimal) world (fun _ _ => False)
      (fun stopped later => stopped = fault ∧ world.Around id later) := by
  rw [allocate, ends_guarding, ends_bind, ends_get]
  have sameEntry :
      (world.noteAll (takingLock world mediator)).mediators.entry mediator =
        world.mediators.entry mediator := rfl
  simp only [sameEntry, answer]
  exact ⟨rfl, @around_of_access world mediator [] id⟩

/-- A mediator takes every payment, and books it. -/
theorem ends_free (mediator amount : Nat) (world : World) :
    Ends (free mediator amount) world
      (fun _ later => world.Around (·.repay mediator amount) later)
      (fun _ _ => False) := by
  rw [free, ends_guarding, ends_bind, ends_get]
  exact around_of_access (·.repay mediator amount)

/-- A ceiling is moved, whatever the usage is. -/
theorem ends_setCeiling (mediator ceiling : Nat) (world : World) :
    Ends (setCeiling mediator ceiling) world
      (fun _ later => world.Around (·.setCeiling mediator ceiling) later)
      (fun _ _ => False) := by
  rw [setCeiling, ends_entering, ends_guarding, ends_bind, ends_get]
  have came := @around_of_access (world.noteAll (takingGate world mediator))
    mediator [] (·.setCeiling mediator ceiling)
  exact came.enclosed (fun _ member => (ofLock_of_mem_takingGate member).quiet)
    fun _ member => (ofLock_of_mem_leavingGate member).quiet

end Mediation

end BufferBudget
