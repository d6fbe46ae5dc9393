import BufferBudget.Proofs.Rollback

/-!
# Charges that are paid back

A charge that every limit of a lineage admits is recorded on each of its
members, and a release of the same amount takes it from each of them again.  The
release never stops, since every member has counted at least the amount.

The two are not inverse.  A member whose limit is the greatest amount admits
every charge, since the sum it compares stays at the greatest amount, and that
sum is what it stores.  The release takes the whole amount.  `Saturates` names
this case; in every other case a member that has accepted the charge has counted
exactly the amount, and is where it was after the release.
-/

namespace BufferBudget

namespace Tracker

/--
A charge takes the sum past the greatest amount, under a limit
that lets it pass.
-/
def Saturates (tracker : Tracker) (bytes : Int) : Prop :=
  Amount.greatest < tracker.consumption + bytes ∧
    ∃ limit, tracker.limit = some limit ∧ Amount.greatest ≤ limit

/--
A charge passes: the limit admits it, and without a limit the sum is an amount.
-/
structure Accepts (tracker : Tracker) (bytes : Int) : Prop where
  admits : tracker.admits bytes = true
  fits : tracker.limit = none → tracker.consumption + bytes ≤ Amount.greatest

variable {tracker : Tracker} {bytes : Int}

/-- A charge that passes without saturating the sum makes it an amount. -/
theorem Accepts.sum_le
    (accepts : tracker.Accepts bytes)
    (apart : ¬tracker.Saturates bytes) :
    tracker.consumption + bytes ≤ Amount.greatest := by
  by_contra beyond
  have above : Amount.greatest < tracker.consumption + bytes :=
    Int.not_le.mp beyond
  have admits := accepts.admits
  cases limited : tracker.limit with
  | none => exact beyond (accepts.fits limited)
  | some limit =>
      rw [Tracker.admits, limited, decide_eq_true_eq, target,
        Amount.saturate_of_lt above] at admits
      exact apart ⟨above, limit, limited, admits⟩

theorem consumption_charged
    (measured : Amount.InRange tracker.consumption)
    (positive : 0 < bytes)
    (fits : tracker.consumption + bytes ≤ Amount.greatest) :
    (tracker.charged bytes).consumption = tracker.consumption + bytes :=
  (target_of_pos measured positive).trans (Int.min_eq_right fits)

/-- What a tracker has accepted can be taken from it. -/
theorem inRange_charged_sub
    (measured : Amount.InRange tracker.consumption)
    (positive : 0 < bytes)
    (amount : bytes ≤ Amount.greatest) :
    Amount.InRange ((tracker.charged bytes).consumption - bytes) := by
  have counted : (tracker.charged bytes).consumption =
      min Amount.greatest (tracker.consumption + bytes) :=
    target_of_pos measured positive
  rw [counted]
  unfold Amount.InRange Amount.least Amount.greatest at *
  omega

end Tracker

/-- A change after a change of the same trackers is one change of them. -/
theorem World.Retracks.comp
    {world middle later : World}
    {change further : Tracker → Tracker}
    {trackers : List Nat}
    (begun : world.Retracks change trackers middle)
    (onward : middle.Retracks further trackers later) :
    world.Retracks (further ∘ change) trackers later := by
  intro key
  rw [onward key, begun key]
  split
  · rfl
  · rfl

/-- Only what the change makes of the trackers of the list counts. -/
theorem World.Retracks.congr
    {world later : World}
    {change other : Tracker → Tracker}
    {trackers : List Nat}
    (retracks : world.Retracks change trackers later)
    (same : ∀ key ∈ trackers,
      change (world.trackers.entry key) = other (world.trackers.entry key)) :
    world.Retracks other trackers later := by
  intro key
  rw [retracks key]
  split
  · rename_i member
    exact same key member
  · rfl

namespace Charging

variable {world : World} {bytes : Int}

/--
What is taken from some trackers leaves each with an amount, so that
nothing stops.
-/
theorem discharges_forM
    {trackers : List Nat}
    (distinct : trackers.Nodup)
    (inside : ∀ tracker ∈ trackers,
      Amount.InRange ((world.trackers.entry tracker).consumption - bytes)) :
    Ends (trackers.forM (subtract bytes)) world
      (fun _ later => world.Retracks (·.discharged bytes) trackers later)
      (fun _ _ => False) := by
  refine (retracks_forM retracks_subtract distinct world).stopping ?_
  induction trackers generalizing world with
  | nil => trivial
  | cons tracker rest ih =>
      obtain ⟨apart, others⟩ := List.nodup_cons.mp distinct
      have taken : Ends (subtract bytes tracker) world
          (fun _ middle => world.Retracks (·.discharged bytes) [tracker] middle)
          (fun _ _ => False) := by
        rw [subtract, ends_bind, ends_get, ends_bind, ends_modify,
          if_pos (inside tracker List.mem_cons_self)]
        exact (ends_report tracker _ _).sure fun _ _ same => .of_set same
      refine taken.bind fun _ middle retracks => ih others fun key member => ?_
      have elsewhere : key ∉ [tracker] :=
        fun same => apart (List.mem_singleton.mp same ▸ member)
      rw [retracks key, if_neg elsewhere]
      exact inside key (List.mem_cons_of_mem tracker member)

/--
What is charged to a tracker without a limit is an amount with what it has
counted, and nothing else stops a charge.
-/
theorem fits_of_tryAdd (tracker : Nat) :
    Ends (tryAdd bytes tracker) world
      (fun _ _ => (world.trackers.entry tracker).limit = none →
        (world.trackers.entry tracker).consumption + bytes ≤ Amount.greatest)
      (fun _ _ => (world.trackers.entry tracker).limit = none ∧
        ¬Amount.InRange
          ((world.trackers.entry tracker).consumption + bytes)) := by
  rw [tryAdd, ends_bind, ends_get]
  by_cases unlimited : (world.trackers.entry tracker).limit = none
  · rw [if_pos (Option.isNone_iff_eq_none.mpr unlimited), add, ends_bind,
      ends_bind, ends_get, ends_bind, ends_note, ends_bind, ends_modify]
    refine Ends.ite (fun inside => ?_) (fun outside => ⟨unlimited, outside⟩)
    exact (ends_reach tracker _ _).sure fun _ _ _ _ => inside.2
  · rw [if_neg (mt Option.isNone_iff_eq_none.mp unlimited),
      ends_bind, ends_note]
    refine Ends.ite
      (fun _ => fun limited => absurd limited unlimited) (fun _ => ?_)
    rw [ends_bind, ends_modify, ends_bind]
    exact (ends_reach tracker _ _).sure fun _ _ _ limited =>
      absurd limited unlimited

/--
A charge goes up a lineage until some member refuses it, or none does.  It stops
only at a member without a limit that cannot count the sum.
-/
theorem charged_of_tryAddAll
    (measured : world.Measured)
    (positive : 0 < bytes)
    (amount : bytes ≤ Amount.greatest)
    {accepted rest : List Nat}
    (distinct : (accepted ++ rest).Nodup)
    {middle : World}
    (begun : world.Retracks (·.charged bytes) accepted middle) :
    Ends (tryAddAll bytes accepted rest) middle
      (fun answer later => answer = true →
        (∀ tracker ∈ rest, (world.trackers.entry tracker).Accepts bytes) ∧
          world.Retracks (·.charged bytes) (accepted ++ rest) later)
      (fun _ _ =>
        ∃ tracker ∈ rest, (world.trackers.entry tracker).limit = none ∧
        ¬Amount.InRange
          ((world.trackers.entry tracker).consumption + bytes)) := by
  -- As the charge goes up, those that have accepted it are charged, and no
  -- others are changed.
  induction rest generalizing accepted middle with
  | nil =>
      exact fun _ => ⟨fun _ member => absurd member List.not_mem_nil,
        accepted.append_nil.symm ▸ begun⟩
  | cons tracker rest ih =>
      obtain ⟨earlier, -, apart⟩ := List.nodup_append.mp distinct
      have unchanged : middle.trackers.entry tracker =
          world.trackers.entry tracker :=
        (begun tracker).trans (if_neg fun member =>
          apart tracker member tracker List.mem_cons_self rfl)
      have tried :=
        (@retracks_tryAdd middle bytes tracker (unchanged ▸ measured tracker)
          positive).and (fits_of_tryAdd tracker)
      rw [unchanged] at tried
      refine (tried.mono (fun _ _ ended => ended) fun _ _ stopped =>
        ⟨tracker, List.mem_cons_self, stopped.2⟩).bind ?_
      rintro answer later ⟨⟨decided, retracks⟩, fits⟩
      cases answer with
      | true =>
          rw [List.append_cons accepted tracker rest] at distinct ⊢
          refine (ih distinct
            (begun.trans retracks fun key member same => ?_)).mono
            (fun answer last ended admitted => ?_) (fun _ _ stopped => ?_)
          · exact apart key member tracker List.mem_cons_self
              (List.mem_singleton.mp same)
          · obtain ⟨others, charged⟩ := ended admitted
            exact
              ⟨List.forall_mem_cons.mpr ⟨⟨decided.symm, fits⟩, others⟩, charged⟩
          · obtain ⟨key, member, unable⟩ := stopped
            exact ⟨key, List.mem_cons_of_mem tracker member, unable⟩
      | false =>
          have still : ∀ key ∈ accepted, later.trackers.entry key =
              (world.trackers.entry key).charged bytes := by
            intro key member
            exact (retracks key).trans ((begun key).trans (if_pos member))
          have taken :=
            @discharges_forM later bytes accepted earlier fun key member => by
            rw [still key member]
            exact Tracker.inRange_charged_sub (measured key) positive amount
          exact (ends_bind _ _).mpr
            (taken.sure fun _ _ _ impossible => nomatch impossible)

/--
A charge that is admitted has been accepted by every member of the lineage.
-/
theorem charged_of_tryConsume
    (measured : world.Measured)
    (positive : 0 < bytes)
    (amount : bytes ≤ Amount.greatest)
    {lineage : Lineage}
    (distinct : lineage.members.Nodup) :
    Ends (tryConsume lineage bytes) world (fun answer later => answer = true →
        (∀ tracker ∈ lineage.members,
          (world.trackers.entry tracker).Accepts bytes) ∧
          world.Retracks (·.charged bytes) lineage.members later)
      (fun _ _ => ∃ tracker ∈ lineage.members,
        (world.trackers.entry tracker).limit = none ∧
        ¬Amount.InRange
          ((world.trackers.entry tracker).consumption + bytes)) := by
  rw [tryConsume, ends_bind, ends_note, if_neg (Int.not_le.mpr positive)]
  exact charged_of_tryAddAll measured positive amount distinct (.of_same rfl)

/-- What can be taken from every member of a lineage is. -/
theorem discharges_release
    {lineage : Lineage}
    (distinct : lineage.members.Nodup)
    (positive : 0 < bytes)
    (inside : ∀ tracker ∈ lineage.members,
      Amount.InRange ((world.trackers.entry tracker).consumption - bytes)) :
    Ends (release lineage bytes) world
      (fun _ later => world.Retracks (·.discharged bytes) lineage.members later)
      (fun _ _ => False) := by
  rw [release, ends_bind, ends_note, releaseAll, if_neg (Int.ne_of_gt positive)]
  exact discharges_forM distinct inside

end Charging

namespace Session

/--
A charge is admitted by every tracker of a lineage, and the same amount is
released right after it.  The charge has been recorded on each of them and on no
other tracker, the release does not stop, and it takes the amount from each of
them again.  Where no sum is saturated, that is a charge of exactly the amount,
and the release restores the consumption.
-/
theorem admitted_charge_is_paid_back
    {world : World}
    (fresh : world.Fresh)
    (calls : List Call)
    (forest : Forest)
    (tracker : Nat)
    {bytes : Int}
    (positive : 0 < bytes)
    (amount : bytes ≤ Amount.greatest) :
    let session := (start world).performAll calls
    let lineage := forest.lineage tracker
    let outcome := session.perform (.tryConsume lineage bytes)
    let release := outcome.2.perform (.release lineage bytes)
    outcome.1 = .admitted (.ok true) →
      session.world.Retracks (·.charged bytes) lineage.members outcome.2.world ∧
        release.1 = .done (.ok ()) ∧
          session.world.Retracks (·.rolledBack bytes) lineage.members
              release.2.world ∧
            ∀ key, ¬(session.world.trackers.entry key).Saturates bytes →
              (outcome.2.world.trackers.entry key).consumption =
                  (session.world.trackers.entry key).consumption +
                  (if key ∈ lineage.members then bytes else 0) ∧
                (release.2.world.trackers.entry key).consumption =
                  (session.world.trackers.entry key).consumption := by
  intro session lineage outcome release admitted
  have measured : session.world.Measured :=
    measured_performAll fresh.measured calls
  have distinct : lineage.members.Nodup := forest.nodup_members_lineage tracker
  have charges := run_rule
    (fun result later => Answer.admitted result = .admitted (.ok true) →
      (∀ key ∈ lineage.members,
        (session.world.trackers.entry key).Accepts bytes) ∧
        session.world.Retracks (·.charged bytes) lineage.members later.world)
    ((Charging.charged_of_tryConsume measured positive amount distinct).mono
      (fun _ _ ended same => ended (Except.ok.inj (Answer.admitted.inj same)))
      fun _ _ _ same => nomatch Answer.admitted.inj same)
  obtain ⟨accepts, charged⟩ := charges admitted
  have counted : ∀ key ∈ lineage.members, outcome.2.world.trackers.entry key =
      (session.world.trackers.entry key).charged bytes :=
    fun key member => (charged key).trans (if_pos member)
  have releases := run_rule
    (fun result later => Answer.done result = .done (.ok ()) ∧
      outcome.2.world.Retracks (·.discharged bytes) lineage.members later.world)
    ((Charging.discharges_release distinct positive fun key member => by
        rw [counted key member]
        exact Tracker.inRange_charged_sub (measured key) positive amount).sure
      fun _ _ discharged => ⟨rfl, discharged⟩)
  have restored : session.world.Retracks (·.rolledBack bytes) lineage.members
      release.2.world :=
    (charged.comp releases.2).congr fun key _ =>
      Tracker.discharged_charged (measured key) positive amount
  refine ⟨charged, releases.1, restored, fun key apart => ?_⟩
  have before : outcome.2.world.trackers.entry key =
      if key ∈ lineage.members then
        (session.world.trackers.entry key).charged bytes
      else session.world.trackers.entry key := charged key
  rw [before, restored key]
  by_cases member : key ∈ lineage.members
  · have fits := (accepts key member).sum_le apart
    rw [if_pos member, if_pos member, if_pos member]
    exact ⟨Tracker.consumption_charged (measured key) positive fits,
      Tracker.consumption_rolledBack fits⟩
  · rw [if_neg member, if_neg member, if_neg member]
    exact ⟨(Int.add_zero _).symm, rfl⟩

/--
A query below a limit of 100 bytes charges 5 of them and pays them back.  A
tracker that is no part of the lineage stays as it is.
-/
theorem admitted_charge_is_paid_back_by_query :
    let forest : Forest := { parents := [none, some 0, some 0] }
    let world : World := .start []
      [.fresh "process" (some 100), .fresh "query" none, .fresh "cache" none]
    let session := (start world).performAll [.consume ⟨0, []⟩ 8]
    let outcome := session.perform (.tryConsume (forest.lineage 1) 5)
    let release := outcome.2.perform (.release (forest.lineage 1) 5)
    release.1 = .done (.ok ()) ∧
      [0, 1, 2].map (fun key =>
        (session.world.trackers.entry key).consumption) = [8, 0, 0] ∧
        [0, 1, 2].map (fun key =>
          (outcome.2.world.trackers.entry key).consumption) = [13, 5, 0] ∧
          ∀ key ∈ [0, 1, 2], (release.2.world.trackers.entry key).consumption =
            (session.world.trackers.entry key).consumption := by
  intro forest world session outcome release
  have fresh : world.Fresh := .start_quotas [] (by decide) (by decide)
  have lineage : forest.lineage 1 = ⟨1, [0]⟩ := by decide +kernel
  obtain ⟨-, done, -, restored⟩ :=
    admitted_charge_is_paid_back fresh [.consume ⟨0, []⟩ 8]
      forest 1 (by decide : (0 : Int) < 5) (by decide) (by rw [lineage]; rfl)
  have apart : ∀ key ∈ [0, 1, 2],
      ¬(session.world.trackers.entry key).Saturates 5 := by
    intro key member saturates
    have small : ∀ key ∈ [0, 1, 2],
        (session.world.trackers.entry key).consumption + 5 ≤
        Amount.greatest := by
      decide +kernel
    exact Int.not_lt.mpr (small key member) saturates.1
  have counted : ∀ other : Lineage, other = ⟨1, [0]⟩ → [0, 1, 2].map (fun key =>
      ((session.perform (.tryConsume other 5)).2.world.trackers.entry
        key).consumption) = [13, 5, 0] := by
    rintro _ rfl
    decide +kernel
  exact ⟨done, by decide +kernel, counted _ lineage,
    fun key member => (restored key (apart key member)).2⟩

/--
A tracker whose limit is the greatest amount has counted 1 byte, and admits the
greatest amount on top of it.  It has counted one byte less than both then, and
nothing after the release.
-/
theorem admitted_charge_is_not_paid_back :
    let world : World := .start [] [.fresh "process" (some Amount.greatest)]
    let session := (start world).performAll [.consume ⟨0, []⟩ 1]
    let outcome := session.perform (.tryConsume ⟨0, []⟩ Amount.greatest)
    let release := outcome.2.perform (.release ⟨0, []⟩ Amount.greatest)
    (session.world.trackers.entry 0).consumption = 1 ∧
      outcome.1 = .admitted (.ok true) ∧
        (outcome.2.world.trackers.entry 0).consumption = Amount.greatest ∧
          release.1 = .done (.ok ()) ∧
            (release.2.world.trackers.entry 0).consumption = 0 :=
  ⟨by decide +kernel, rfl, by decide +kernel, rfl, by decide +kernel⟩

end Session

end BufferBudget
