import BufferBudget.Proofs.Refusal

/-!
# Charges that are taken back

A charge goes up the lineage of a tracker, one member after the other.  Where a
member refuses it, those below have counted it already, and the amount is taken
from them again.

This is not as if nothing had happened.  A member that has accepted the charge
has recorded the sum as a consumption that it reached, and its peak stays there.
And a sum above the greatest amount is counted as the greatest, while the whole
amount is taken back, so that the member is left with less than it had counted.
-/

namespace BufferBudget

namespace Tracker

/-- A tracker that has accepted a charge. -/
def charged (tracker : Tracker) (bytes : Int) : Tracker :=
  { tracker with
    consumption := tracker.target bytes
    peak := max tracker.peak (tracker.target bytes) }

/-- A tracker that an amount has been taken from. -/
def discharged (tracker : Tracker) (bytes : Int) : Tracker :=
  tracker.store (tracker.consumption - bytes)

/--
A tracker that has accepted a charge, after the charge has been taken back.
-/
def rolledBack (tracker : Tracker) (bytes : Int) : Tracker :=
  { tracker with
    consumption := min tracker.consumption (Amount.greatest - bytes)
    peak := max tracker.peak (tracker.target bytes) }

variable {tracker : Tracker} {bytes : Int}

theorem target_of_pos
    (measured : Amount.InRange tracker.consumption)
    (positive : 0 < bytes) :
    tracker.target bytes =
      min Amount.greatest (tracker.consumption + bytes) := by
  have range := measured
  unfold Amount.InRange Amount.least Amount.greatest at range
  unfold target Amount.saturate Amount.least Amount.greatest
  omega

theorem inRange_target
    (measured : Amount.InRange tracker.consumption)
    (positive : 0 < bytes) :
    Amount.InRange (tracker.target bytes) := by
  rw [target_of_pos measured positive]
  unfold Amount.InRange Amount.least Amount.greatest at *
  omega

/-- A charge that is accepted is stored, and recorded as reached. -/
theorem reach_store_target
    (measured : Amount.InRange tracker.consumption)
    (positive : 0 < bytes) :
    (tracker.store (tracker.target bytes)).reach (tracker.target bytes) =
      tracker.charged bytes := by
  unfold store reach charged
  rw [Amount.wrap_of_inRange (inRange_target measured positive)]

/--
Taking an accepted charge back leaves the peak, and of the consumption no more
than would have fitted beside the charge.
-/
theorem discharged_charged
    (measured : Amount.InRange tracker.consumption)
    (positive : 0 < bytes)
    (amount : bytes ≤ Amount.greatest) :
    (tracker.charged bytes).discharged bytes = tracker.rolledBack bytes := by
  have left : tracker.target bytes - bytes =
      min tracker.consumption (Amount.greatest - bytes) := by
    rw [target_of_pos measured positive]
    omega
  have inside : Amount.InRange (tracker.target bytes - bytes) := by
    have range := measured
    rw [left]
    unfold Amount.InRange Amount.least Amount.greatest at *
    omega
  unfold discharged charged store rolledBack
  rw [Amount.wrap_of_inRange inside, left]

theorem consumption_rolledBack
    (fits : tracker.consumption + bytes ≤ Amount.greatest) :
    (tracker.rolledBack bytes).consumption = tracker.consumption :=
  Int.min_eq_left (by omega)

end Tracker

/-- Each tracker of a list has been changed, and no other. -/
def World.Retracks
    (world : World)
    (change : Tracker → Tracker)
    (trackers : List Nat)
    (later : World) : Prop :=
  ∀ key, later.trackers.entry key = if key ∈ trackers
    then change (world.trackers.entry key) else world.trackers.entry key

namespace World.Retracks

variable
    {world middle later : World}
    {change : Tracker → Tracker}
    {tracker : Nat}

theorem of_same (same : later.trackers = world.trackers) :
    world.Retracks change [] later := by
  intro key
  rw [same, if_neg List.not_mem_nil]

theorem of_set
    (set : later.trackers = world.trackers.set tracker
      (change (world.trackers.entry tracker))) :
    world.Retracks change [tracker] later := by
  intro key
  rw [set, Table.entry_set]
  by_cases same : key = tracker
  · subst same
    rw [if_pos rfl, if_pos List.mem_cons_self]
  · rw [if_neg same, if_neg (mt List.mem_singleton.mp same)]

/-- Other trackers are changed after those of a list. -/
theorem trans
    {first second : List Nat}
    (begun : world.Retracks change first middle)
    (onward : middle.Retracks change second later)
    (apart : ∀ key ∈ first, key ∉ second) :
    world.Retracks change (first ++ second) later := by
  intro key
  rw [onward key, begun key]
  by_cases early : key ∈ first
  · rw [if_neg (apart key early), if_pos early,
      if_pos (List.mem_append_left second early)]
  · simp only [List.mem_append, early, false_or, if_false]

end World.Retracks

/--
A charge has been refused on its way up some trackers, and taken back from those
below the one that has refused it.
-/
def World.RollsBack
    (world : World)
    (bytes : Int)
    (trackers : List Nat)
    (later : World) : Prop :=
  ∃ below refusing above, trackers = below ++ refusing :: above ∧
    (∀ tracker ∈ below, (world.trackers.entry tracker).admits bytes = true) ∧
      (world.trackers.entry refusing).admits bytes = false ∧
        world.Retracks (·.rolledBack bytes) below later

/-- No consumption is changed where the sum would have been an amount. -/
theorem World.RollsBack.consumption_eq
    {world later : World}
    {bytes : Int}
    {trackers : List Nat}
    (rollsBack : world.RollsBack bytes trackers later)
    {key : Nat}
    (fits : (world.trackers.entry key).consumption + bytes ≤ Amount.greatest) :
    (later.trackers.entry key).consumption =
      (world.trackers.entry key).consumption := by
  obtain ⟨below, -, -, -, -, -, retracks⟩ := rollsBack
  rw [retracks key]
  split
  · exact Tracker.consumption_rolledBack fits
  · rfl

namespace Charging

variable {world : World} {bytes : Int}

theorem ends_report (tracker : Nat) (consumption : Int) (world : World) :
    Ends (report tracker consumption) world
      (fun _ later => later.trackers = world.trackers) (fun _ _ => False) :=
  rfl

theorem ends_reach (tracker : Nat) (consumption : Int) (world : World) :
    Ends (reach tracker consumption) world
      (fun _ later => later.trackers = world.trackers.set tracker
        ((world.trackers.entry tracker).reach consumption))
      (fun _ _ => False) :=
  rfl

theorem retracks_subtract (tracker : Nat) (world : World) :
    Ends (subtract bytes tracker) world
      (fun _ later => world.Retracks (·.discharged bytes) [tracker] later)
      (fun _ _ => True) := by
  rw [subtract, ends_bind, ends_get, ends_bind, ends_modify]
  refine Ends.ite (fun _ => ?_) (fun _ => trivial)
  exact (ends_report tracker _ _).sure fun _ _ same => .of_set same

/-- What changes one tracker changes each of a list. -/
theorem retracks_forM
    {change : Tracker → Tracker}
    {action : Nat → Operation Unit}
    (each : ∀ tracker world, Ends (action tracker) world
      (fun _ later => world.Retracks change [tracker] later) (fun _ _ => True))
    {trackers : List Nat}
    (distinct : trackers.Nodup)
    (world : World) :
    Ends (trackers.forM action) world
      (fun _ later => world.Retracks change trackers later)
      (fun _ _ => True) := by
  induction trackers generalizing world with
  | nil => exact .of_same rfl
  | cons tracker rest ih =>
      obtain ⟨apart, others⟩ := List.nodup_cons.mp distinct
      refine (each tracker world).bind fun _ middle first => ?_
      refine (ih others middle).imp fun _ _ onward =>
        first.trans onward fun key member => ?_
      exact List.mem_singleton.mp member ▸ apart

section Accepting

variable
    {tracker : Nat}
    (measured : Amount.InRange (world.trackers.entry tracker).consumption)
    (positive : 0 < bytes)

include measured positive

/--
A tracker that has stored the sum and recorded it as reached has
accepted the charge.
-/
theorem retracks_reach
    {middle : World}
    (stored : middle.trackers = world.trackers.set tracker
      ((world.trackers.entry tracker).store
        ((world.trackers.entry tracker).target bytes))) :
    Ends (reach tracker ((world.trackers.entry tracker).target bytes)) middle
      (fun _ later => world.Retracks (·.charged bytes) [tracker] later)
      (fun _ _ => False) := by
  refine (ends_reach tracker _ middle).sure fun _ later set => .of_set ?_
  rw [set, stored, Table.entry_set_self, Table.set_set,
    Tracker.reach_store_target measured positive]

/--
A tracker is charged where its limit admits it, and left alone
where it does not.
-/
theorem retracks_tryAdd :
    Ends (tryAdd bytes tracker) world (fun admitted later =>
      admitted = (world.trackers.entry tracker).admits bytes ∧
        world.Retracks (·.charged bytes)
          (if admitted then [tracker] else []) later)
      (fun _ _ => True) := by
  rw [tryAdd, ends_bind, ends_get]
  by_cases unlimited : (world.trackers.entry tracker).limit = none
  · have admits : true = (world.trackers.entry tracker).admits bytes := by
      rw [Tracker.admits, unlimited]
    rw [if_pos (Option.isNone_iff_eq_none.mpr unlimited), add, ends_bind,
      ends_bind, ends_get, ends_bind, ends_note, ends_bind, ends_modify]
    refine Ends.ite (fun inside => ?_) (fun _ => trivial)
    have sum : (world.trackers.entry tracker).consumption + bytes =
        (world.trackers.entry tracker).target bytes :=
      (Amount.saturate_of_inRange inside).symm
    rw [sum]
    exact (retracks_reach measured positive rfl).sure fun _ _ charged =>
      ⟨admits, charged⟩
  · rw [if_neg (mt Option.isNone_iff_eq_none.mp unlimited),
      ends_bind, ends_note]
    refine Ends.ite (fun refuses => ?_) (fun admits => ?_)
    · exact ⟨((Bool.not_eq_true' _).mp refuses).symm, .of_same rfl⟩
    · have accepted : true = (world.trackers.entry tracker).admits bytes := by
        simpa using admits
      rw [ends_bind, ends_modify, ends_bind]
      exact (retracks_reach measured positive rfl).sure fun _ _ charged =>
        ⟨accepted, charged⟩

end Accepting

/--
A charge that is refused on its way up a lineage is taken back from those below
the one that refuses it.  `accepted` have accepted it already.
-/
theorem rolledBack_of_tryAddAll
    (measured : world.Measured)
    (positive : 0 < bytes)
    (amount : bytes ≤ Amount.greatest)
    {accepted rest : List Nat}
    (distinct : (accepted ++ rest).Nodup)
    {middle : World}
    (begun : world.Retracks (·.charged bytes) accepted middle)
    (admitted : ∀ tracker ∈ accepted,
      (world.trackers.entry tracker).admits bytes = true) :
    Ends (tryAddAll bytes accepted rest) middle (fun answer later =>
      answer = false → world.RollsBack bytes (accepted ++ rest) later)
      (fun _ _ => True) := by
  -- As the charge goes up, those that have accepted it are charged, and no
  -- others are changed.
  induction rest generalizing accepted middle with
  | nil => exact fun impossible => nomatch impossible
  | cons tracker rest ih =>
      obtain ⟨earlier, -, apart⟩ := List.nodup_append.mp distinct
      have unchanged : middle.trackers.entry tracker =
          world.trackers.entry tracker :=
        (begun tracker).trans (if_neg fun member =>
          apart tracker member tracker List.mem_cons_self rfl)
      have tried := @retracks_tryAdd middle bytes tracker
        (unchanged ▸ measured tracker) positive
      rw [unchanged] at tried
      refine tried.bind fun answer later ended => ?_
      cases answer with
      | true =>
          rw [List.append_cons accepted tracker rest] at distinct ⊢
          refine ih distinct (begun.trans ended.2 fun key member => ?_)
            fun key member => ?_
          · exact fun same => apart key member tracker List.mem_cons_self
              (List.mem_singleton.mp same)
          · rcases List.mem_append.mp member with early | last
            · exact admitted key early
            · exact List.mem_singleton.mp last ▸ ended.1.symm
      | false =>
          have taken := retracks_forM (@retracks_subtract bytes) earlier later
          refine (ends_bind _ _).mpr (taken.imp fun _ last discharged _ => ?_)
          refine ⟨accepted, tracker, rest, rfl, admitted,
            ended.1.symm, fun key => ?_⟩
          have still : later.trackers.entry key =
              middle.trackers.entry key := ended.2 key
          rw [discharged key, still, begun key]
          by_cases member : key ∈ accepted
          · rw [if_pos member, if_pos member, if_pos member]
            exact Tracker.discharged_charged (measured key) positive amount
          · rw [if_neg member, if_neg member, if_neg member]

/-- What is not positive is never refused. -/
theorem rolledBack_of_tryConsume
    (measured : world.Measured)
    (amount : bytes ≤ Amount.greatest)
    {lineage : Lineage}
    (distinct : lineage.members.Nodup) :
    Ends (tryConsume lineage bytes) world (fun answer later => answer = false →
      world.RollsBack bytes lineage.members later)
      (fun _ _ => True) := by
  rw [tryConsume, ends_bind, ends_note]
  refine Ends.ite (fun _ => ?_) (fun positive => ?_)
  · exact (ends_bind _ _).mpr
      (ends_somehow.imp fun _ _ _ impossible => Bool.noConfusion impossible)
  · exact rolledBack_of_tryAddAll measured (Int.not_le.mp positive) amount
      distinct (.of_same rfl) fun _ member => absurd member List.not_mem_nil

end Charging

namespace Session

/--
A charge is refused by some tracker of a lineage.  Those below it have accepted
the charge, and it is taken back from them: each keeps the peak that it has
reached by it, and the consumption that it had before it, as long as the sum was
an amount.  No other tracker is changed.
-/
theorem refused_charge_is_rolled_back
    {world : World}
    (fresh : world.Fresh)
    (calls : List Call)
    (forest : Forest)
    (tracker : Nat)
    {bytes : Int}
    (amount : bytes ≤ Amount.greatest) :
    let session := (start world).performAll calls
    let outcome := session.perform (.tryConsume (forest.lineage tracker) bytes)
    outcome.1 = .admitted (.ok false) →
      session.world.RollsBack bytes
          (forest.lineage tracker).members outcome.2.world ∧
        ∀ key, (session.world.trackers.entry key).consumption + bytes ≤
            Amount.greatest →
          (outcome.2.world.trackers.entry key).consumption =
            (session.world.trackers.entry key).consumption := by
  intro session outcome refused
  have measured : session.world.Measured :=
    measured_performAll fresh.measured calls
  have tells := run_rule
    (fun result later => Answer.admitted result = .admitted (.ok false) →
      session.world.RollsBack bytes
        (forest.lineage tracker).members later.world)
    ((Charging.rolledBack_of_tryConsume measured amount
      (forest.nodup_members_lineage tracker)).mono
        (fun _ _ ended same => ended (Except.ok.inj (Answer.admitted.inj same)))
        fun _ _ _ same => nomatch Answer.admitted.inj same)
  have rollsBack := tells refused
  exact ⟨rollsBack, fun _ => rollsBack.consumption_eq⟩

/--
The root of three trackers has 2 bytes left and refuses 5.  The two below it
have counted them for a moment: they are back at nothing, with a peak of 5.
-/
theorem refused_charge_is_rolled_back_by_root :
    let forest : Forest := { parents := [none, some 0, some 1] }
    let world : World := .start [] [.fresh "process" (some 10),
      .fresh "query" (some 100), .fresh "scan" none]
    let session := (start world).performAll [.consume ⟨0, []⟩ 8]
    let outcome := session.perform (.tryConsume (forest.lineage 2) 5)
    session.world.RollsBack 5 (forest.lineage 2).members outcome.2.world ∧
      (outcome.2.world.trackers.entry 2).consumption =
          (session.world.trackers.entry 2).consumption ∧
        (outcome.2.world.trackers.entry 2).peak = 5 := by
  intro forest world session outcome
  have fresh : world.Fresh := .start_quotas [] (by decide) (by decide)
  have lineage : forest.lineage 2 = ⟨2, [1, 0]⟩ := by decide +kernel
  obtain ⟨rollsBack, kept⟩ :=
    refused_charge_is_rolled_back fresh [.consume ⟨0, []⟩ 8] forest 2
      (by decide : (5 : Int) ≤ Amount.greatest) (by rw [lineage]; rfl)
  refine ⟨rollsBack, kept 2 (by decide +kernel), ?_⟩
  show ((session.perform
    (.tryConsume (forest.lineage 2) 5)).2.world.trackers.entry 2).peak = 5
  rw [lineage]
  decide +kernel

/--
A root of 10 bytes refuses both charges of its two children.  The first child
keeps the peak of 50 bytes that it had for a moment.  The second counts up to
the greatest amount, is taken the greatest amount from, and has lost the byte
that it had counted before.
-/
theorem refused_charge_leaves_traces :
    let world : World := .start [] [.fresh "root" (some 10), .fresh "left" none,
      .fresh "right" (some Amount.greatest)]
    let session := (start world).performAll [.consume ⟨2, [0]⟩ 1]
    let first := session.perform (.tryConsume ⟨1, [0]⟩ 50)
    let second := first.2.perform (.tryConsume ⟨2, [0]⟩ Amount.greatest)
    first.1 = .admitted (.ok false) ∧
      (session.world.trackers.entry 1).peak = 0 ∧
        (first.2.world.trackers.entry 1).peak = 50 ∧
        second.1 = .admitted (.ok false) ∧
          (first.2.world.trackers.entry 2).consumption = 1 ∧
            (second.2.world.trackers.entry 2).consumption = 0 :=
  ⟨rfl, by
    decide +kernel,
      by decide +kernel, rfl, by decide +kernel, by decide +kernel⟩

end Session

end BufferBudget
