import BufferBudget.Proofs.Rules
import Mathlib.Logic.Function.Basic

/-!
# Where a world stands

The standing of a world is what a request that comes to nothing must leave as it
was: what mediators have granted, what trackers have counted, and what tallies
have counted of grants and releases.  Peaks, refusals and the trail are no part
of it.

`lend` and `charge` are what an answer of a mediator and a charge on trackers do
to a standing.  `RestsAt` says that a world is at a standing, as long as no
charge has overrun a tracker: past the greatest amount the counter of a tracker
saturates, and what was charged can no longer be taken back.
-/

namespace BufferBudget

/--
What a mediator has granted and not been given back: a quota shows it together
with its ceiling, an arbiter as its balance.
-/
inductive MediatorStanding where
  | ofQuota (quota : Quota)
  | ofBalance (outstanding : Int)

namespace MediatorStanding

/-- The standing after an amount more has been granted. -/
def lend (amount : Nat) : MediatorStanding → MediatorStanding
  | .ofQuota quota => .ofQuota { quota with usage := quota.usage + amount }
  | .ofBalance outstanding => .ofBalance (amount + outstanding)

/-- The standing after an amount has been given back. -/
def repay (amount : Nat) : MediatorStanding → MediatorStanding
  | .ofQuota quota => .ofQuota (quota.free amount)
  | .ofBalance outstanding => .ofBalance (-amount + outstanding)

@[simp]
theorem lend_zero (standing : MediatorStanding) :
    standing.lend 0 = standing := by
  cases standing with
  | ofQuota quota => rfl
  | ofBalance outstanding => exact congrArg ofBalance (Int.zero_add outstanding)

@[simp]
theorem repay_lend (standing : MediatorStanding) (amount : Nat) :
    (standing.lend amount).repay amount = standing := by
  cases standing with
  | ofQuota quota => rw [lend, repay, Quota.free, Nat.add_sub_cancel]
  | ofBalance outstanding =>
      exact congrArg ofBalance (Int.neg_add_cancel_left _ _)

end MediatorStanding

namespace Mediator

/-- Where a mediator stands. -/
def standing : Mediator → MediatorStanding
  | .ofQuota quota => .ofQuota quota
  | .ofArbiter arbiter => .ofBalance arbiter.balance

theorem standing_allocate
    {mediator next : Mediator}
    {requested minimal granted : Nat}
    (answer : mediator.allocate requested minimal = .ok (granted, next)) :
    next.standing = mediator.standing.lend granted := by
  rcases allocate_cases answer with ⟨quota, rfl, -, rfl⟩ | ⟨arbiter, rfl, rfl⟩
  · rfl
  · exact congrArg MediatorStanding.ofBalance (arbiter.balance_record _)

theorem standing_free (mediator : Mediator) (amount : Nat) :
    (mediator.free amount).standing = mediator.standing.repay amount := by
  cases mediator with
  | ofQuota quota => rfl
  | ofArbiter arbiter =>
      exact congrArg MediatorStanding.ofBalance (arbiter.balance_record _)

/-- Where a mediator stands tells whether it is a quota, and which. -/
theorem eq_ofQuota_of_standing
    {mediator : Mediator}
    {quota : Quota}
    (stands : mediator.standing = .ofQuota quota) :
    mediator = .ofQuota quota := by
  cases mediator with
  | ofQuota own => exact congrArg ofQuota (MediatorStanding.ofQuota.inj stands)
  | ofArbiter arbiter => exact nomatch stands

end Mediator

/-- What the accounts of a world have at stake. -/
@[ext]
structure Standing where
  /-- What mediators have granted. -/
  mediators : Nat → MediatorStanding
  /-- The limits of trackers. -/
  limits : Nat → Option Int
  /-- What trackers have counted. -/
  consumption : Nat → Int
  /-- The bytes granted that tallies have counted. -/
  allocatedBytes : Nat → Nat
  /-- The bytes given back that tallies have counted. -/
  freedBytes : Nat → Nat
  /-- How many grants tallies have counted. -/
  allocations : Nat → Nat
  /-- How many releases tallies have counted. -/
  frees : Nat → Nat

/-- Where a world stands. -/
def World.standing (world : World) : Standing where
  mediators key := (world.mediators.entry key).standing
  limits key := (world.trackers.entry key).limit
  consumption key := (world.trackers.entry key).consumption
  allocatedBytes key := (world.tallies.entry key).allocatedBytes
  freedBytes key := (world.tallies.entry key).freedBytes
  allocations key := (world.tallies.entry key).allocations
  frees key := (world.tallies.entry key).frees

namespace Standing

variable (standing : Standing)

/-- The standing with another standing of one mediator. -/
def setMediator (mediator : Nat) (account : MediatorStanding) : Standing :=
  { standing with
      mediators := Function.update standing.mediators mediator account }

/-- The standing after a mediator has granted an amount more. -/
def lend (mediator amount : Nat) : Standing :=
  standing.setMediator mediator ((standing.mediators mediator).lend amount)

/-- The standing after an amount has been given back to a mediator. -/
def repay (mediator amount : Nat) : Standing :=
  standing.setMediator mediator ((standing.mediators mediator).repay amount)

/--
The standing after an amount has been charged to each tracker of a list, and to
one that is named several times as often.
-/
def charge (bytes : Int) (trackers : List Nat) : Standing :=
  { standing with
    consumption :=
      fun key => standing.consumption key + bytes * trackers.count key }

@[simp]
theorem lend_zero (mediator : Nat) : standing.lend mediator 0 = standing := by
  simp [lend, setMediator]

/-- What has been lent and given back leaves nothing behind. -/
@[simp]
theorem repay_lend (mediator amount : Nat) :
    (standing.lend mediator amount).repay mediator amount = standing := by
  simp [lend, repay, setMediator]

@[simp]
theorem charge_zero (trackers : List Nat) :
    standing.charge 0 trackers = standing := by
  simp [charge]

@[simp]
theorem charge_nil (bytes : Int) : standing.charge bytes [] = standing := by
  simp [charge]

/-- Charging two lists is charging the one list after the other. -/
theorem charge_append (bytes : Int) (first second : List Nat) :
    standing.charge bytes (first ++ second) =
      (standing.charge bytes first).charge bytes second := by
  simp only [charge, List.count_append, Int.natCast_add,
    Int.mul_add, Int.add_assoc]

/-- What is taken from a tracker is no longer charged to it. -/
theorem charge_cons_neg (bytes : Int) (tracker : Nat) (rest : List Nat) :
    (standing.charge bytes (tracker :: rest)).charge (-bytes) [tracker] =
      standing.charge bytes rest := by
  have charged : tracker :: rest = [tracker] ++ rest := rfl
  simp only [charge, charged, List.count_append, Int.natCast_add,
    Int.mul_add, Int.neg_mul]
  congr 1
  funext key
  omega

end Standing

/--
An event by which a charge is put to a tracker that would take its consumption
past the greatest amount.
-/
def Event.Overruns : Event → Prop
  | .weighed _ total => Amount.greatest < total
  | _ => False

instance (event : Event) : Decidable event.Overruns :=
  match event with
  | .weighed _ total => inferInstanceAs (Decidable (Amount.greatest < total))
  | .emitted _ | .called _ _ | .mediated _ _ | .tracked _ _ |
      .acquired _ | .released _ =>
      inferInstanceAs (Decidable False)

namespace World

/-- The consumption of every tracker is an amount. -/
def Measured (world : World) : Prop :=
  ∀ key, Amount.InRange (world.trackers.entry key).consumption

variable {world : World}

theorem limit_store (tracker : Nat) (consumption : Int) (key : Nat) :
    ((world.setTracker tracker
      ((world.trackers.entry tracker).store consumption)).trackers.entry
      key).limit = (world.trackers.entry key).limit := by
  rw [entry_trackers_setTracker]
  split
  · rename_i same
    exact same ▸ rfl
  · rfl

theorem limit_reach (tracker : Nat) (consumption : Int) (key : Nat) :
    ((world.setTracker tracker
      ((world.trackers.entry tracker).reach consumption)).trackers.entry
      key).limit = (world.trackers.entry key).limit := by
  rw [entry_trackers_setTracker]
  split
  · rename_i same
    exact same ▸ rfl
  · rfl

theorem Measured.store
    (measured : world.Measured)
    (tracker : Nat)
    (consumption : Int) :
    (world.setTracker tracker
      ((world.trackers.entry tracker).store consumption)).Measured := by
  intro key
  rw [entry_trackers_setTracker]
  split
  · exact Amount.inRange_wrap consumption
  · exact measured key

theorem Measured.reach
    (measured : world.Measured)
    (tracker : Nat)
    (consumption : Int) :
    (world.setTracker tracker
      ((world.trackers.entry tracker).reach consumption)).Measured := by
  intro key
  rw [entry_trackers_setTracker]
  split
  · exact measured tracker
  · exact measured key

theorem standing_setMediator (mediator : Nat) (account : Mediator) :
    (world.setMediator mediator account).standing =
      world.standing.setMediator mediator account.standing := by
  refine Standing.ext (funext fun key => ?_) rfl rfl rfl rfl rfl rfl
  show ((world.setMediator mediator account).mediators.entry key).standing =
    Function.update world.standing.mediators mediator account.standing key
  rw [entry_mediators_setMediator, Function.update_apply]
  split
  · rfl
  · rfl

theorem standing_grant
    {mediator requested minimal granted : Nat}
    {next : Mediator}
    (answer : (world.mediators.entry mediator).allocate requested minimal =
      .ok (granted, next)) :
    (world.grant mediator requested minimal granted next).standing =
      world.standing.lend mediator granted :=
  (standing_setMediator mediator next).trans
    (congrArg (world.standing.setMediator mediator)
      (Mediator.standing_allocate answer))

theorem standing_repay (mediator amount : Nat) :
    (world.repay mediator amount).standing =
      world.standing.repay mediator amount :=
  (standing_setMediator mediator _).trans
    (congrArg (world.standing.setMediator mediator)
      (Mediator.standing_free _ amount))

theorem standing_store
    {tracker : Nat}
    {change : Int}
    (inside :
      Amount.InRange ((world.trackers.entry tracker).consumption + change)) :
    (world.setTracker tracker ((world.trackers.entry tracker).store
      ((world.trackers.entry tracker).consumption + change))).standing =
      world.standing.charge change [tracker] := by
  refine Standing.ext rfl (funext (limit_store tracker _))
    (funext fun key => ?_) rfl rfl rfl rfl
  · show ((world.setTracker tracker _).trackers.entry key).consumption =
      (world.trackers.entry key).consumption + change * [tracker].count key
    rw [entry_trackers_setTracker]
    by_cases same : key = tracker
    · subst same
      rw [if_pos rfl, Tracker.consumption_store, Amount.wrap_of_inRange inside,
        List.count_singleton_self, Int.natCast_one, Int.mul_one]
    · rw [if_neg same, List.count_singleton,
        if_neg (by simpa using Ne.symm same),
        Int.natCast_zero, Int.mul_zero, Int.add_zero]

@[simp]
theorem standing_reach (tracker : Nat) (consumption : Int) :
    (world.setTracker tracker
      ((world.trackers.entry tracker).reach consumption)).standing =
      world.standing := by
  refine Standing.ext rfl (funext (limit_reach tracker consumption))
    (funext fun key => ?_) rfl rfl rfl rfl
  · show ((world.setTracker tracker _).trackers.entry key).consumption = _
    rw [entry_trackers_setTracker]
    split
    · rename_i same
      exact same ▸ rfl
    · rfl

end World

/-- Events of some kind, and how many of them there are to be. -/
structure Watch where
  kind : Event → Bool
  bound : Nat

/-- Watches for any more events of a kind than have happened by now. -/
def World.watch (world : World) (kind : Event → Bool) : Watch where
  kind := kind
  bound := world.trail.countP kind

namespace Watch

/-- No more events have happened than there are to be. -/
def Clear (watch : Watch) (world : World) : Prop :=
  world.trail.countP watch.kind ≤ watch.bound

/--
Whatever charge past the greatest amount the limit of a tracker lets pass
is watched for.
-/
def Covers (watch : Watch) (world : World) : Prop :=
  ∀ tracker limit total, (world.trackers.entry tracker).limit = some limit →
    Amount.greatest ≤ limit → Amount.greatest < total →
      watch.kind (.weighed tracker total) = true

variable {watch : Watch} {world later : World}

/-- What is clear has been so all along. -/
theorem Clear.of_append
    (clear : watch.Clear later)
    {events : List Event}
    (trail : later.trail = events ++ world.trail) :
    watch.Clear world := by
  unfold Clear at clear ⊢
  rw [trail, List.countP_append] at clear
  exact Nat.le_trans (Nat.le_add_left _ _) clear

theorem Covers.of_same
    (covers : watch.Covers world)
    (same : ∀ key, (later.trackers.entry key).limit =
      (world.trackers.entry key).limit) :
    watch.Covers later :=
  fun tracker limit total limited =>
    covers tracker limit total (same tracker ▸ limited)

end Watch

/--
The world is at a standing, unless more has happened than is watched for.  The
consumption of trackers is within range either way.
-/
structure RestsAt (watch : Watch) (standing : Standing) (world : World) :
    Prop where
  measured : world.Measured
  covers : watch.Covers world
  bound_le : watch.bound ≤ world.trail.countP watch.kind
  standing : watch.Clear world → world.standing = standing

namespace RestsAt

variable {watch : Watch} {standing : Standing} {world : World}

/-- From now on, the world is where it stands. -/
theorem now
    {kind : Event → Bool}
    (measured : world.Measured)
    (covers : (world.watch kind).Covers world) :
    RestsAt (world.watch kind) world.standing world where
  measured := measured
  covers := covers
  bound_le := Nat.le_refl _
  standing := fun _ => rfl

/--
Once more has happened than is watched for, a world is as good as
at any standing.
-/
theorem of_beyond
    (measured : world.Measured)
    (covers : watch.Covers world)
    (beyond : watch.bound < world.trail.countP watch.kind) :
    RestsAt watch standing world where
  measured := measured
  covers := covers
  bound_le := Nat.le_of_lt beyond
  standing := fun clear => absurd clear (Nat.not_le_of_lt beyond)

theorem congr
    {other : Standing}
    (rests : RestsAt watch standing world)
    (same : standing = other) :
    RestsAt watch other world :=
  same ▸ rests

/--
A change that leaves the trail and the limits alone moves the
standing as it does.
-/
theorem move
    {later : World}
    {moved : Standing}
    (rests : RestsAt watch standing world)
    (sameTrail : later.trail = world.trail)
    (measured : later.Measured)
    (sameLimits : ∀ key, (later.trackers.entry key).limit =
      (world.trackers.entry key).limit)
    (moves : world.standing = standing → later.standing = moved) :
    RestsAt watch moved later where
  measured := measured
  covers := rests.covers.of_same sameLimits
  bound_le := sameTrail ▸ rests.bound_le
  standing := fun clear => moves (rests.standing
    (@Watch.Clear.of_append watch world later clear [] sameTrail))

theorem note (rests : RestsAt watch standing world) (event : Event) :
    RestsAt watch standing (world.note event) where
  measured := rests.measured
  covers := rests.covers
  bound_le := by
    rw [World.trail_note, List.countP_cons]
    exact Nat.le_trans rests.bound_le (Nat.le_add_right _ _)
  standing := fun clear =>
    rests.standing (@Watch.Clear.of_append watch world _ clear [event] rfl)

theorem noteAll (rests : RestsAt watch standing world) (events : List Event) :
    RestsAt watch standing (world.noteAll events) :=
  World.noteAll_preserves (fun event _ _ resting => resting.note event) rests

theorem around
    {later : World}
    {change : World → World}
    {moved : Standing}
    (rests : RestsAt watch standing world)
    (came : world.Around change later)
    (moves : ∀ middle : World, middle.mediators = world.mediators →
      RestsAt watch standing middle → RestsAt watch moved (change middle)) :
    RestsAt watch moved later := by
  obtain ⟨before, after, -, -, rfl⟩ := came
  exact (moves (world.noteAll before) rfl (rests.noteAll before)).noteAll after

theorem grant
    (rests : RestsAt watch standing world)
    {mediator requested minimal granted : Nat}
    {next : Mediator}
    (answer : (world.mediators.entry mediator).allocate requested minimal =
      .ok (granted, next)) :
    RestsAt watch (standing.lend mediator granted)
      (world.grant mediator requested minimal granted next) := by
  have lent : RestsAt watch (standing.lend mediator granted)
      (world.setMediator mediator next) :=
    rests.move rfl rests.measured (fun _ => rfl)
      fun stands => stands ▸ World.standing_grant answer
  exact lent.note _

theorem repay (rests : RestsAt watch standing world) (mediator amount : Nat) :
    RestsAt watch (standing.repay mediator amount)
      (world.repay mediator amount) := by
  have repaid :
      RestsAt watch (standing.repay mediator amount) (world.setMediator mediator
        ((world.mediators.entry mediator).free amount)) :=
    rests.move rfl rests.measured (fun _ => rfl)
      fun stands => stands ▸ World.standing_repay mediator amount
  exact repaid.note _

theorem store
    {tracker : Nat}
    {change : Int}
    (rests : RestsAt watch standing world)
    (inside :
      Amount.InRange ((world.trackers.entry tracker).consumption + change)) :
    RestsAt watch (standing.charge change [tracker])
      (world.setTracker tracker ((world.trackers.entry tracker).store
        ((world.trackers.entry tracker).consumption + change))) :=
  rests.move rfl (rests.measured.store tracker _) (World.limit_store tracker _)
    fun stands => stands ▸ World.standing_store inside

theorem reach
    (rests : RestsAt watch standing world)
    (tracker : Nat)
    (consumption : Int) :
    RestsAt watch standing (world.setTracker tracker
      ((world.trackers.entry tracker).reach consumption)) :=
  rests.move rfl (rests.measured.reach tracker consumption)
    (World.limit_reach tracker consumption) fun stands =>
    (World.standing_reach tracker consumption).trans stands

/-- A report of a refusal moves no counter of grants or releases. -/
theorem refused (rests : RestsAt watch standing world) (tally bytes : Nat) :
    RestsAt watch standing
      (world.setTally tally ((world.tallies.entry tally).refused bytes)) := by
  refine rests.move rfl rests.measured (fun _ => rfl) fun stands => stands ▸ ?_
  have kept : ∀ {α : Type} (counter : Tally → α),
      (counter ((world.tallies.entry tally).refused bytes) =
        counter (world.tallies.entry tally)) →
      (fun key => counter ((world.setTally tally
        ((world.tallies.entry tally).refused bytes)).tallies.entry key)) =
        fun key => counter (world.tallies.entry key) := by
    intro α counter same
    funext key
    rw [World.entry_tallies_setTally]
    split
    · rename_i own
      exact own ▸ same
    · rfl
  exact Standing.ext rfl rfl rfl (kept Tally.allocatedBytes rfl)
    (kept Tally.freedBytes rfl)
    (kept Tally.allocations rfl) (kept Tally.frees rfl)

end RestsAt

namespace Mediation

variable
    {watch : Watch}
    {mediator requested minimal amount : Nat}
    {standing : Standing}
    {world : World}

theorem rests_allocate (rests : RestsAt watch standing world) :
    Ends (allocate mediator requested minimal) world (fun granted later =>
      RestsAt watch (standing.lend mediator granted) later)
      (fun _ _ => True) := by
  cases answer :
    (world.mediators.entry mediator).allocate requested minimal with
  | error fault =>
      exact (ends_allocate_error answer).imp
        (fun _ _ impossible => impossible.elim)
  | ok result =>
      obtain ⟨granted, next⟩ := result
      refine (ends_allocate answer).imp ?_
      rintro _ later ⟨rfl, came⟩
      exact rests.around came fun _ same resting =>
        resting.grant (same ▸ answer)

/-- What a mediator has lent can be given back. -/
theorem rests_free
    (rests : RestsAt watch (standing.lend mediator amount) world) :
    Ends (free mediator amount) world
      (fun _ later => RestsAt watch standing later) (fun _ _ => True) := by
  refine (ends_free mediator amount world).imp ?_
  intro _ later came
  refine rests.around came fun _ _ resting => ?_
  exact (resting.repay mediator amount).congr
    (standing.repay_lend mediator amount)

/-- A grant that is passed on has been lent, and one that is denied has not. -/
theorem rests_grant (rests : RestsAt watch standing world) :
    Ends (grant mediator requested minimal) world (fun answer later =>
      RestsAt watch (standing.lend mediator (answer.getD 0)) later)
      (fun _ _ => True) := by
  refine grant_rule (fun _ => ?empty) (fun _ => rests_allocate rests)
    (fun _ _ lent _ => lent) ?short (fun _ lent _ => lent)
  case empty => exact rests.congr (standing.lend_zero mediator).symm
  case short =>
    intro granted later lent _ _
    refine (rests_free lent).imp ?_
    exact fun _ _ repaid => repaid.congr (standing.lend_zero mediator).symm

end Mediation

namespace Charging

variable {watch : Watch} {standing : Standing} {world : World} {bytes : Int}

theorem rests_report
    (rests : RestsAt watch standing world)
    (tracker : Nat)
    (consumption : Int) :
    Ends (report tracker consumption) world
      (fun _ later => RestsAt watch standing later) (fun _ _ => True) :=
  (ends_bind get _).mpr (rests.noteAll _)

theorem rests_reach
    (rests : RestsAt watch standing world)
    (tracker : Nat)
    (consumption : Int) :
    Ends (reach tracker consumption) world
      (fun _ later => RestsAt watch standing later) (fun _ _ => True) :=
  (ends_bind (modify _) _).mpr
    (rests_report (rests.reach tracker consumption) tracker consumption)

theorem rests_add (rests : RestsAt watch standing world) (tracker : Nat) :
    Ends (add bytes tracker) world
      (fun _ later => RestsAt watch (standing.charge bytes [tracker]) later)
      (fun _ _ => True) := by
  rw [add, ends_bind, ends_get, ends_bind, ends_note, ends_bind, ends_modify]
  refine Ends.ite (fun inside => ?_) (fun _ => trivial)
  have weighed := rests.note
    (.weighed tracker ((world.trackers.entry tracker).consumption + bytes))
  exact rests_reach (weighed.store inside) tracker _

/-- What is charged to a tracker can be taken from it. -/
theorem rests_subtract
    {tracker : Nat}
    {rest : List Nat}
    (rests : RestsAt watch (standing.charge bytes (tracker :: rest)) world) :
    Ends (subtract bytes tracker) world
      (fun _ later => RestsAt watch (standing.charge bytes rest) later)
      (fun _ _ => True) := by
  rw [subtract, ends_bind, ends_get, ends_bind, ends_modify]
  refine Ends.ite (fun inside => ?_) (fun _ => trivial)
  have taken := rests.store inside
  exact rests_report (taken.congr (standing.charge_cons_neg bytes tracker rest))
    tracker _

theorem rests_subtractAll
    {trackers : List Nat}
    (rests : RestsAt watch (standing.charge bytes trackers) world) :
    Ends (trackers.forM (subtract bytes)) world
      (fun _ later => RestsAt watch standing later) (fun _ _ => True) := by
  induction trackers generalizing world with
  | nil => exact rests.congr (standing.charge_nil bytes)
  | cons tracker rest ih =>
      exact (rests_subtract rests).bind fun _ _ remaining => ih remaining

theorem rests_addAll
    (rests : RestsAt watch standing world)
    (trackers : List Nat) :
    Ends (trackers.forM (add bytes)) world
      (fun _ later => RestsAt watch (standing.charge bytes trackers) later)
      (fun _ _ => True) := by
  induction trackers generalizing world standing with
  | nil => exact rests.congr (standing.charge_nil bytes).symm
  | cons tracker rest ih =>
      refine (rests_add rests tracker).bind fun _ _ added => ?_
      refine (ih added).imp (fun _ _ charged => charged.congr ?_)
      exact (standing.charge_append bytes [tracker] rest).symm

/--
A tracker that admits a charge counts it to the byte, unless it is overrun.
-/
theorem rests_tryAdd
    (rests : RestsAt watch standing world)
    (positive : 0 ≤ bytes)
    (tracker : Nat) :
    Ends (tryAdd bytes tracker) world (fun admitted later =>
        RestsAt watch (if admitted then standing.charge bytes [tracker]
          else standing) later)
      (fun _ _ => True) := by
  rw [tryAdd, ends_bind, ends_get]
  by_cases unlimited : (world.trackers.entry tracker).limit.isNone = true
  · rw [if_pos unlimited]
    exact (rests_add rests tracker).bind fun _ _ added => added
  · rw [if_neg unlimited, ends_bind, ends_note]
    have weighed := rests.note
      (.weighed tracker ((world.trackers.entry tracker).consumption + bytes))
    refine Ends.ite (fun _ => weighed) (fun admits => ?_)
    rw [ends_bind, ends_modify]
    refine Ends.bind (rests_reach ?_ tracker _) fun _ _ reached => reached
    by_cases beyond : Amount.greatest <
      (world.trackers.entry tracker).consumption + bytes
    · obtain ⟨limit, limited⟩ := Option.ne_none_iff_exists'.mp
        fun none => unlimited (Option.isNone_iff_eq_none.mpr none)
      -- what is admitted past the greatest amount is counted as that amount
      have filled : (world.trackers.entry tracker).target bytes =
          Amount.greatest :=
        Amount.saturate_of_lt beyond
      have atLimit : Amount.greatest ≤ limit := by
        simpa [Tracker.admits, limited, filled] using admits
      refine .of_beyond (weighed.measured.store tracker _)
        (weighed.covers.of_same (World.limit_store tracker _)) ?_
      show watch.bound <
        (Event.weighed tracker _ :: world.trail).countP watch.kind
      rw [List.countP_cons,
        if_pos (rests.covers tracker limit _ limited atLimit beyond)]
      exact Nat.lt_succ_of_le rests.bound_le
    · have least := (rests.measured tracker).1
      have inside :
          Amount.InRange ((world.trackers.entry tracker).consumption + bytes) :=
        ⟨by omega, Int.not_lt.mp beyond⟩
      rw [Tracker.target, Amount.saturate_of_inRange inside]
      exact weighed.store inside

theorem rests_tryAddAll
    {accepted rest : List Nat}
    (positive : 0 ≤ bytes)
    (rests : RestsAt watch (standing.charge bytes accepted) world) :
    Ends (tryAddAll bytes accepted rest) world (fun admitted later =>
        RestsAt watch (if admitted then standing.charge bytes (accepted ++ rest)
          else standing) later)
      (fun _ _ => True) := by
  induction rest generalizing accepted world with
  | nil => exact rests.congr (congrArg (standing.charge bytes)
    (List.append_nil accepted).symm)
  | cons tracker rest ih =>
      refine (rests_tryAdd rests positive tracker).bind
        fun admitted later tried => ?_
      cases admitted with
      | true =>
          have further : RestsAt watch
              (standing.charge bytes (accepted ++ [tracker])) later :=
            tried.congr (standing.charge_append bytes accepted [tracker]).symm
          rw [List.append_cons accepted tracker rest]
          exact ih further
      | false => exact (rests_subtractAll tried).bind fun _ _ taken => taken

theorem rests_releaseAll
    {lineage : Lineage}
    (rests : RestsAt watch (standing.charge bytes lineage.members) world) :
    Ends (releaseAll lineage bytes) world
      (fun _ later => RestsAt watch standing later) (fun _ _ => True) := by
  refine Ends.ite (fun none => ?_) (fun _ => rests_subtractAll rests)
  rw [none, Standing.charge_zero] at rests
  exact rests

theorem rests_tryConsume
    (rests : RestsAt watch standing world)
    (positive : 0 ≤ bytes)
    (lineage : Lineage) :
    Ends (tryConsume lineage bytes) world (fun admitted later =>
        RestsAt watch (if admitted then standing.charge bytes lineage.members
          else standing) later)
      (fun _ _ => True) := by
  rw [tryConsume, ends_bind, ends_note]
  have noted := rests.note (.tracked lineage.tracker (.tryConsume bytes))
  refine Ends.ite (fun notPositive => ?_) (fun _ => ?_)
  · obtain rfl : bytes = 0 := Int.le_antisymm notPositive positive
    have uncharged := (standing.charge_zero lineage.members).symm
    exact (rests_releaseAll (noted.congr uncharged)).bind
      fun _ _ released => released.congr uncharged
  · exact rests_tryAddAll positive
      (noted.congr (standing.charge_nil bytes).symm)

theorem rests_consume
    (rests : RestsAt watch standing world)
    (lineage : Lineage) :
    Ends (consume lineage bytes) world (fun _ later =>
      RestsAt watch (standing.charge bytes lineage.members) later)
      (fun _ _ => True) :=
  (ends_bind (Operation.note _) _).mpr
    (rests_addAll (rests.note _) lineage.members)

theorem rests_release
    {lineage : Lineage}
    (rests : RestsAt watch (standing.charge bytes lineage.members) world) :
    Ends (release lineage bytes) world
      (fun _ later => RestsAt watch standing later) (fun _ _ => True) :=
  (ends_bind (Operation.note _) _).mpr (rests_releaseAll (rests.note _))

end Charging

end BufferBudget
