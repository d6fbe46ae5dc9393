import BufferBudget.Source.Tracked
import BufferBudget.Proofs.Pairing

/-!
# Charges in worlds that share their trackers

A charge reads nothing of a world but its trackers, writes nothing but
these, and notes what it does.  So in two worlds with the same trackers the
same charge ends in the same way, and what else the worlds have to do with
each other remains as it was, provided that it does not depend on trackers
or on such notes.

A charge takes no lock, and what has to remain may depend on the locks that have
been taken.  A relation that says something of one world alone is such a
relation between the world and itself.
-/

namespace BufferBudget

/-- An event that is no use of a lock. -/
def Event.Lockless : Event → Prop
  | .acquired _ | .released _ => False
  | _ => True

/--
A relation between worlds with the same trackers that remains when both write
the same to a tracker or note the same.
-/
structure World.Charged (related : World → World → Prop) : Prop where
  trackers : ∀ {left right : World}, related left right →
    left.trackers = right.trackers
  note : ∀ {left right : World} {event : Event}, event.Lockless →
    related left right →
    related (left.note event) (right.note event)
  setTracker : ∀ {left right : World} (tracker : Nat) (account : Tracker),
    related left right →
    related (left.setTracker tracker account) (right.setTracker tracker account)

theorem World.Charged.emit
    {related : World → World → Prop}
    (charged : World.Charged related)
    (diagnostics : List Diagnostic)
    {left right : World}
    (begun : related left right) :
    related (left.noteAll (diagnostics.map .emitted))
      (right.noteAll (diagnostics.map .emitted)) := by
  induction diagnostics generalizing left right with
  | nil => exact begun
  | cons diagnostic rest ih =>
      rw [List.map_cons, World.noteAll_cons, World.noteAll_cons]
      exact ih (charged.note trivial begun)

/--
A property that a world keeps under such writes and notes is a relation between
the world and itself.
-/
theorem World.Charged.of_kept
    {kept : World → Prop}
    (note : ∀ {world : World} {event : Event}, event.Lockless → kept world →
      kept (world.note event))
    (setTracker : ∀ {world : World} (tracker : Nat) (account : Tracker),
      kept world → kept (world.setTracker tracker account)) :
    World.Charged fun left right => left = right ∧ kept left where
  trackers := fun same => same.1 ▸ rfl
  note := fun lockless same => ⟨same.1 ▸ rfl, note lockless same.2⟩
  setTracker := fun tracker account same =>
    ⟨same.1 ▸ rfl, setTracker tracker account same.2⟩

namespace Charging

variable {excused : Fault → Prop} {related : World → World → Prop}

/-- An action for each tracker of a list. -/
theorem endAlike_forM
    {action : Nat → Operation Unit}
    (each : ∀ tracker,
      EndAlike excused related Eq (action tracker) (action tracker))
    (trackers : List Nat) :
    EndAlike excused related Eq (trackers.forM action)
      (trackers.forM action) := by
  induction trackers with
  | nil => exact endAlike_pure rfl
  | cons tracker rest ih => exact (each tracker).bindEq fun _ => ih

variable (charged : World.Charged related)

include charged

theorem endAlike_weighed (tracker : Nat) (total : Int) :
    EndAlike excused related Eq (Operation.note (.weighed tracker total))
      (Operation.note (.weighed tracker total)) :=
  endAlike_modify fun _ _ begun => charged.note trivial begun

theorem endAlike_tracked (tracker : Nat) (call : TrackerCall) :
    EndAlike excused related Eq (Operation.note (.tracked tracker call))
      (Operation.note (.tracked tracker call)) :=
  endAlike_modify fun _ _ begun => charged.note trivial begun

theorem endAlike_report (tracker : Nat) (consumption : Int) :
    EndAlike excused related Eq (report tracker consumption)
      (report tracker consumption) := by
  refine endAlike_get.bind fun left right begun => ?_
  rw [charged.trackers begun]
  exact endAlike_modify fun _ _ still => charged.emit _ still

theorem endAlike_reach (tracker : Nat) (consumption : Int) :
    EndAlike excused related Eq (reach tracker consumption)
      (reach tracker consumption) := by
  refine EndAlike.bindEq (endAlike_modify fun left right begun => ?_) fun _ =>
    endAlike_report charged tracker consumption
  rw [charged.trackers begun]
  exact charged.setTracker tracker _ begun

theorem endAlike_add (bytes : Int) (tracker : Nat) :
    EndAlike excused related Eq (add bytes tracker) (add bytes tracker) := by
  refine endAlike_get.bind fun left right begun => ?_
  rw [charged.trackers begun]
  refine (endAlike_weighed charged tracker _).bindEq fun _ => ?_
  refine EndAlike.bindEq (endAlike_modify fun _ _ still =>
    charged.setTracker tracker _ still) fun _ => ?_
  exact EndAlike.ite (endAlike_reach charged tracker _) (endAlike_throw _)

theorem endAlike_subtract (bytes : Int) (tracker : Nat) :
    EndAlike excused related Eq (subtract bytes tracker)
      (subtract bytes tracker) := by
  refine endAlike_get.bind fun left right begun => ?_
  rw [charged.trackers begun]
  refine EndAlike.bindEq (endAlike_modify fun _ _ still =>
    charged.setTracker tracker _ still) fun _ => ?_
  exact EndAlike.ite (endAlike_report charged tracker _) (endAlike_throw _)

theorem endAlike_tryAdd (bytes : Int) (tracker : Nat) :
    EndAlike excused related Eq (tryAdd bytes tracker)
      (tryAdd bytes tracker) := by
  refine endAlike_get.bind fun left right begun => ?_
  rw [charged.trackers begun]
  refine EndAlike.ite ?unlimited ?limited
  case unlimited =>
    exact (endAlike_add charged bytes tracker).bindEq fun _ => endAlike_pure rfl
  case limited =>
    refine (endAlike_weighed charged tracker _).bindEq fun _ =>
      EndAlike.ite (endAlike_pure rfl) ?_
    refine EndAlike.bindEq (endAlike_modify fun _ _ still =>
      charged.setTracker tracker _ still) fun _ => ?_
    exact (endAlike_reach charged tracker _).bindEq fun _ => endAlike_pure rfl

theorem endAlike_tryAddAll (bytes : Int) (accepted rest : List Nat) :
    EndAlike excused related Eq (tryAddAll bytes accepted rest)
      (tryAddAll bytes accepted rest) := by
  induction rest generalizing accepted with
  | nil => exact endAlike_pure rfl
  | cons tracker rest ih =>
      refine (endAlike_tryAdd charged bytes tracker).bindEq fun admitted =>
        EndAlike.ite (ih _) ?_
      exact (endAlike_forM (endAlike_subtract charged bytes) accepted).bindEq
        fun _ => endAlike_pure rfl

theorem endAlike_releaseAll (lineage : Lineage) (bytes : Int) :
    EndAlike excused related Eq (releaseAll lineage bytes)
      (releaseAll lineage bytes) :=
  EndAlike.ite (endAlike_pure rfl)
    (endAlike_forM (endAlike_subtract charged bytes) lineage.members)

theorem endAlike_tryConsume (lineage : Lineage) (bytes : Int) :
    EndAlike excused related Eq (tryConsume lineage bytes)
      (tryConsume lineage bytes) := by
  refine (endAlike_tracked charged lineage.tracker _).bindEq fun _ =>
    EndAlike.ite ?released ?charged
  case released =>
    exact (endAlike_releaseAll charged lineage _).bindEq fun _ =>
      endAlike_pure rfl
  case charged => exact endAlike_tryAddAll charged bytes [] lineage.members

theorem endAlike_consume (lineage : Lineage) (bytes : Int) :
    EndAlike excused related Eq (consume lineage bytes)
      (consume lineage bytes) :=
  (endAlike_tracked charged lineage.tracker _).bindEq fun _ =>
    endAlike_forM (endAlike_add charged bytes) lineage.members

theorem endAlike_release (lineage : Lineage) (bytes : Int) :
    EndAlike excused related Eq (release lineage bytes)
      (release lineage bytes) :=
  (endAlike_tracked charged lineage.tracker _).bindEq fun _ =>
    endAlike_releaseAll charged lineage bytes

/-- What the limits leave is read off the trackers alone. -/
theorem spare_eq
    {left right : World}
    (begun : related left right)
    (lineage : Lineage) :
    spare left lineage = spare right lineage := by
  rw [spare, spare, charged.trackers begun]

end Charging

namespace Tracked

variable
    {excused : Fault → Prop}
    {related : World → World → Prop}
    (charged : World.Charged related)

include charged

theorem endAlike_charge (lineage : Lineage) (enforcing : Bool) (size : Nat) :
    EndAlike excused related Eq (charge lineage enforcing size)
      (charge lineage enforcing size) := by
  refine (Charging.endAlike_tryConsume charged lineage _).bindEq fun admitted =>
    EndAlike.ite (endAlike_pure rfl) (EndAlike.ite (endAlike_pure rfl) ?_)
  exact (Charging.endAlike_consume charged lineage _).bindEq fun _ =>
    endAlike_pure rfl

theorem endAlike_discharge (lineage : Lineage) (size : Nat) :
    EndAlike excused related Eq (discharge lineage size)
      (discharge lineage size) :=
  EndAlike.ite (Charging.endAlike_release charged lineage _) (endAlike_pure rfl)

end Tracked

end BufferBudget
