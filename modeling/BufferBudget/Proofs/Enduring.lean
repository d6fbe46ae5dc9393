import BufferBudget.Proofs.Deciding

/-!
# Charges stop only at an overrun

The arithmetic of trackers is the one place where a call can stop at a fault.  A
sum that is charged leaves the range of amounts at its upper end only, since
nothing that is charged is negative and the counter was an amount before.  What
is taken back was charged before, and lies between two counts that were amounts.
So a charge on trackers, forced or not, stops only where a tracker has been
overrun: where that is watched for, it has been seen by then.
-/

namespace BufferBudget

/--
Whatever charge past the greatest amount is put to a tracker is watched for.
-/
def Watch.Heeds (watch : Watch) : Prop :=
  ∀ event : Event, event.Overruns → watch.kind event = true

/-- The consumption of every tracker is an amount. -/
def Standing.Measured (standing : Standing) : Prop :=
  ∀ tracker, Amount.InRange (standing.consumption tracker)

theorem RestsAt.base_measured
    {watch : Watch}
    {standing : Standing}
    {world : World}
    (rests : RestsAt watch standing world)
    (clear : watch.Clear world) :
    standing.Measured := by
  obtain rfl := rests.standing clear
  exact rests.measured

namespace Charging

variable
    {watch : Watch}
    {standing : Standing}
    {world : World}
    {bytes : Int}
    {tracker : Nat}

theorem endures_reach
    (tracker : Nat)
    (consumption : Int)
    {onFault : Fault → World → Prop} :
    Ends (reach tracker consumption) world (fun _ _ => True) onFault :=
  (ends_bind (modify _) _).mpr ((ends_bind get _).mpr trivial)

theorem endures_report
    (tracker : Nat)
    (consumption : Int)
    {onFault : Fault → World → Prop} :
    Ends (report tracker consumption) world (fun _ _ => True) onFault :=
  (ends_bind get _).mpr trivial

theorem endures_add
    (heeds : watch.Heeds)
    (rests : RestsAt watch standing world)
    (positive : 0 ≤ bytes)
    (tracker : Nat) :
    Ends (add bytes tracker) world (fun _ _ => True)
      (fun _ later => ¬watch.Clear later) := by
  rw [add, ends_bind, ends_get, ends_bind, ends_note, ends_bind, ends_modify]
  refine Ends.ite (fun _ => endures_reach _ _) (fun outside clear => ?_)
  have least := (rests.measured tracker).1
  have beyond :
      Amount.greatest < (world.trackers.entry tracker).consumption + bytes := by
    unfold Amount.InRange at outside
    omega
  have watched := heeds (.weighed tracker
    ((world.trackers.entry tracker).consumption + bytes)) beyond
  have already := rests.bound_le
  have counted : (Event.weighed tracker
      ((world.trackers.entry tracker).consumption + bytes) ::
    world.trail).countP watch.kind ≤ watch.bound := clear
  rw [List.countP_cons, if_pos watched] at counted
  omega

/-- A limited tracker saturates, and so stops at nothing. -/
theorem endures_tryAdd
    (heeds : watch.Heeds)
    (rests : RestsAt watch standing world)
    (positive : 0 ≤ bytes)
    (tracker : Nat) :
    Ends (tryAdd bytes tracker) world (fun _ _ => True)
      (fun _ later => ¬watch.Clear later) := by
  rw [tryAdd, ends_bind, ends_get]
  refine Ends.ite (fun _ => ?_) (fun _ => ?_)
  · exact (endures_add heeds rests positive tracker).bind fun _ _ _ => trivial
  · rw [ends_bind, ends_note]
    refine Ends.ite (fun _ => trivial) (fun _ => ?_)
    rw [ends_bind, ends_modify]
    exact (endures_reach tracker _).bind fun _ _ _ => trivial

/--
What is left of a charge lies between the count before it and the count with it.
-/
theorem endures_subtract
    {rest : List Nat}
    (rests : RestsAt watch (standing.charge bytes (tracker :: rest)) world)
    (positive : 0 ≤ bytes)
    (based : watch.Clear world → standing.Measured) :
    Ends (subtract bytes tracker) world (fun _ _ => True)
      (fun _ later => ¬watch.Clear later) := by
  rw [subtract, ends_bind, ends_get, ends_bind, ends_modify]
  refine Ends.ite (fun _ => endures_report _ _)
    (fun outside clear => outside ?_)
  have before : watch.Clear world := clear
  have counts : (world.trackers.entry tracker).consumption =
      standing.consumption tracker +
        bytes * (rest.count tracker + 1 : Nat) := by
    have stands :=
      congrFun (congrArg Standing.consumption (rests.standing before)) tracker
    rw [← List.count_cons_self]
    exact stands
  have least := (based before tracker).1
  have most := (rests.measured tracker).2
  have others : 0 ≤ bytes * (rest.count tracker : Int) :=
    Int.mul_nonneg positive (by omega)
  rw [counts, Int.natCast_add, Int.mul_add, Int.natCast_one, Int.mul_one]
      at most ⊢
  exact ⟨by omega, by omega⟩

theorem endures_subtractAll
    {trackers : List Nat}
    (rests : RestsAt watch (standing.charge bytes trackers) world)
    (positive : 0 ≤ bytes)
    (based : watch.Clear world → standing.Measured) :
    Ends (trackers.forM (subtract bytes)) world (fun _ _ => True)
      (fun _ later => ¬watch.Clear later) := by
  induction trackers generalizing world with
  | nil => exact trivial
  | cons tracker rest ih =>
      have acts := Operation.Tracks.acts
        (@tracks_subtract [tracker] tracker bytes List.mem_cons_self)
      refine (((rests_subtract rests).both (acts.ends_keeping based)).stopping
        (endures_subtract rests positive based)).bind ?_
      rintro _ later ⟨remaining, still⟩
      exact ih remaining still

theorem endures_addAll
    (heeds : watch.Heeds)
    (rests : RestsAt watch standing world)
    (positive : 0 ≤ bytes)
    (trackers : List Nat) :
    Ends (trackers.forM (add bytes)) world (fun _ _ => True)
      (fun _ later => ¬watch.Clear later) := by
  induction trackers generalizing world standing with
  | nil => exact trivial
  | cons tracker rest ih =>
      exact ((rests_add rests tracker).stopping
        (endures_add heeds rests positive tracker)).bind
        fun _ _ added => ih added

theorem endures_tryAddAll
    {accepted rest : List Nat}
    (heeds : watch.Heeds)
    (rests : RestsAt watch (standing.charge bytes accepted) world)
    (positive : 0 ≤ bytes)
    (based : watch.Clear world → standing.Measured) :
    Ends (tryAddAll bytes accepted rest) world (fun _ _ => True)
      (fun _ later => ¬watch.Clear later) := by
  induction rest generalizing accepted world with
  | nil => exact trivial
  | cons tracker rest ih =>
      have acts := Operation.Tracks.acts (@tracks_tryAdd [tracker] tracker bytes
        List.mem_cons_self)
      refine (((rests_tryAdd rests positive tracker).both
        (acts.ends_keeping based)).stopping
        (endures_tryAdd heeds rests positive tracker)).bind ?_
      rintro admitted later ⟨tried, still⟩
      cases admitted with
      | true =>
          exact ih (tried.congr
            (standing.charge_append bytes accepted [tracker]).symm) still
      | false =>
          exact (endures_subtractAll tried positive still).bind
            fun _ _ _ => trivial

theorem endures_releaseAll
    {lineage : Lineage}
    (rests : RestsAt watch (standing.charge bytes lineage.members) world)
    (positive : 0 ≤ bytes)
    (based : watch.Clear world → standing.Measured) :
    Ends (releaseAll lineage bytes) world (fun _ _ => True)
      (fun _ later => ¬watch.Clear later) :=
  Ends.ite
    (fun _ => trivial) (fun _ => endures_subtractAll rests positive based)

theorem endures_tryConsume
    (heeds : watch.Heeds)
    (rests : RestsAt watch standing world)
    (positive : 0 ≤ bytes)
    (lineage : Lineage) :
    Ends (tryConsume lineage bytes) world (fun _ _ => True)
      (fun _ later => ¬watch.Clear later) := by
  rw [tryConsume, ends_bind, ends_note]
  have noted := rests.note (.tracked lineage.tracker (.tryConsume bytes))
  have based := noted.base_measured
  refine Ends.ite (fun notPositive => ?_) (fun _ => ?_)
  · obtain rfl : bytes = 0 := Int.le_antisymm notPositive positive
    have uncharged := (standing.charge_zero lineage.members).symm
    exact
      (endures_releaseAll (noted.congr uncharged) (Int.le_refl 0) based).bind
      fun _ _ _ => trivial
  · exact endures_tryAddAll heeds
      (noted.congr (standing.charge_nil bytes).symm) positive based

theorem endures_consume
    (heeds : watch.Heeds)
    (rests : RestsAt watch standing world)
    (positive : 0 ≤ bytes)
    (lineage : Lineage) :
    Ends (consume lineage bytes) world (fun _ _ => True)
      (fun _ later => ¬watch.Clear later) :=
  (ends_bind (Operation.note _) _).mpr
    (endures_addAll heeds (rests.note _) positive lineage.members)

theorem endures_release
    {lineage : Lineage}
    (rests : RestsAt watch (standing.charge bytes lineage.members) world)
    (positive : 0 ≤ bytes)
    (based : watch.Clear world → standing.Measured) :
    Ends (release lineage bytes) world (fun _ _ => True)
      (fun _ later => ¬watch.Clear later) :=
  (ends_bind (Operation.note _) _).mpr
    (endures_releaseAll (rests.note _) positive
      fun clear => based (@Watch.Clear.of_append watch world _ clear [_] rfl))

end Charging

namespace Tracked

variable
    {watch : Watch}
    {standing : Standing}
    {world : World}
    {lineage : Lineage}
    {enforcing : Bool}
    {size : Nat}

theorem endures_charge
    (heeds : watch.Heeds)
    (rests : RestsAt watch standing world) :
    Ends (charge lineage enforcing size) world (fun _ _ => True)
      (fun _ later => ¬watch.Clear later) := by
  have positive := Amount.ofSize_nonneg size
  refine charge_rule
    ((Charging.rests_tryConsume rests positive lineage).stopping
      (Charging.endures_tryConsume heeds rests positive lineage))
    (fun _ _ => trivial) (fun _ _ _ => trivial) ?forced
  case forced =>
    exact fun later uncharged _ =>
      Charging.endures_consume heeds uncharged positive lineage

theorem endures_discharge
    (rests : RestsAt watch
      (standing.charge (Amount.ofSize size) lineage.members) world)
    (based : watch.Clear world → standing.Measured) :
    Ends (discharge lineage size) world (fun _ _ => True)
      (fun _ later => ¬watch.Clear later) :=
  Ends.ite
    (fun _ => Charging.endures_release rests (Amount.ofSize_nonneg size) based)
    (fun _ => trivial)

/-- No bytes are admitted whatever the limits. -/
theorem charge_zero_admits
    (lineage : Lineage)
    (enforcing : Bool)
    (world : World) :
    Ends (charge lineage enforcing 0) world (fun admitted _ => admitted = true)
      (fun _ _ => True) := by
  have tried : Ends (Charging.tryConsume lineage (Amount.ofSize 0)) world
      (fun admitted _ => admitted = true) (fun _ _ => True) := by
    rw [Charging.tryConsume, ends_bind, ends_note]
    exact Ends.ite (fun _ => ends_somehow.bind fun _ _ _ => rfl)
      fun positive => absurd (Int.le_refl 0) positive
  exact charge_rule tried (fun _ _ => rfl)
    (fun _ refused _ => absurd refused Bool.false_ne_true)
    (fun _ refused _ => absurd refused Bool.false_ne_true)

end Tracked

end BufferBudget
