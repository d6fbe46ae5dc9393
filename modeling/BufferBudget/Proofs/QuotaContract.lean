import BufferBudget.Proofs.Accounting
import BufferBudget.Proofs.HardStack

/-!
# The contract of quotas

A mediator answers a request with nothing, or with a size between the least that
is accepted and what is asked for.  A quota has a rule of its own for this
(`Quota.due`), and decides by comparisons that were chosen so that no difference
below zero and no sum above the largest size is ever taken.  `allocateChecked`
and `freeChecked` are these decisions in arithmetic that would stop there: they
do not stop, and they come to what the rule says.

Every call on a quota is in the trail, and the usage is what these calls leave
on a counter that stops at zero (`MediatorCall.counted`).  Payments that are
covered never make it stop there, so that the usage is then all that has been
granted less all that has been paid back.
-/

namespace BufferBudget

namespace MediatorCall

/--
What the calls of a list, latest first, leave on a counter that stops at zero.
-/
def counted : List MediatorCall → Nat
  | [] => 0
  | .allocated _ _ granted :: earlier => counted earlier + granted
  | .freed amount :: earlier => counted earlier - amount

/--
Where payments are covered, a counter that stops at zero shows what
is outstanding.
-/
theorem Covered.counted_eq {log : List MediatorCall} (covered : Covered log) :
    (counted log : Int) = outstanding log := by
  induction log with
  | nil => rfl
  | cons call earlier ih =>
      cases call with
      | allocated requested minimal granted =>
          have before := ih covered
          show ((counted earlier + granted : Nat) : Int) =
            granted + outstanding earlier
          omega
      | freed amount =>
          obtain ⟨enough, others⟩ := covered
          have before := ih others
          show ((counted earlier - amount : Nat) : Int) =
            -amount + outstanding earlier
          omega

end MediatorCall

namespace Quota

/--
What a request is due from a quota: as much of it as there is room for, if
that is enough, and else what it accepts, if the quota is not enforced and
can count that.
-/
def due (quota : Quota) (requested minimal : Nat) : Nat :=
  if minimal ≤ quota.room then min requested quota.room
  else if quota.enforced = false ∧ quota.usage + minimal ≤ Size.limit then
    minimal
  else 0

/-- What is due is nothing, or enough and no more than is asked for. -/
theorem due_eq_zero_or_within
    (quota : Quota)
    {requested minimal : Nat}
    (accepted : minimal ≤ requested) :
    quota.due requested minimal = 0 ∨
      Within minimal requested (quota.due requested minimal) := by
  unfold due
  split
  · rename_i enough
    exact .inr ⟨Nat.le_min.mpr ⟨accepted, enough⟩, Nat.min_le_left _ _⟩
  · split
    · exact .inr ⟨Nat.le_refl minimal, accepted⟩
    · exact .inl rfl

/--
Whether a request is past the ceiling.  What the ceiling leaves is not worked
out where the usage is above it.
-/
def pastChecked (quota : Quota) (minimal : Nat) : Except Fault Bool := do
  if quota.ceiling < quota.usage then
    return true
  else
    return (← Size.sub quota.ceiling quota.usage) < minimal

/--
Whether a request is granted past the ceiling.  What can still be counted is not
worked out where the quota is enforced.
-/
def toleratesChecked (quota : Quota) (minimal : Nat) : Except Fault Bool := do
  if quota.enforced then
    return false
  else
    return minimal ≤ (← Size.sub Size.limit quota.usage)

/--
Decides on a request, in arithmetic that stops at a difference below zero.
-/
def grantChecked (quota : Quota) (requested minimal : Nat) :
    Except Fault Nat := do
  if ← quota.pastChecked minimal then
    return if ← quota.toleratesChecked minimal then minimal else 0
  else
    return min requested (← Size.sub quota.ceiling quota.usage)

/--
Decides on a request and books the grant, in arithmetic that stops at a
difference below zero and at a sum above the largest size.
-/
def allocateChecked (quota : Quota) (requested minimal : Nat) :
    Except Fault (Nat × Quota) := do
  let granted ← quota.grantChecked requested minimal
  let usage ← Size.add quota.usage granted
  return (granted, { quota with usage })

/--
Takes a booking back, in arithmetic that stops at a difference below zero.
-/
def freeChecked (quota : Quota) (amount : Nat) : Except Fault Quota := do
  if quota.usage < amount then
    return { quota with usage := 0 }
  else
    return { quota with usage := ← Size.sub quota.usage amount }

variable {quota : Quota} {requested minimal : Nat}

/-- The decision of a quota is what is due by the rule. -/
theorem grant_eq_due (size : quota.usage ≤ Size.limit) :
    quota.grant requested minimal = quota.due requested minimal := by
  cases fitting : quota.fits minimal with
  | true =>
      rw [quota.grant_of_fits requested fitting]
      simp only [fits, Bool.and_eq_true, decide_eq_true_eq] at fitting
      rw [due, if_pos fitting.2]
  | false =>
      rw [quota.grant_of_not_fits requested fitting]
      unfold due
      by_cases enough : minimal ≤ quota.room
      · -- Only a usage above the ceiling denies this: there is no room, and
        -- nothing was accepted.
        simp only [fits, enough, decide_true, Bool.and_true,
          decide_eq_false_iff_not] at fitting
        have full : quota.room = 0 :=
          Nat.sub_eq_zero_of_le (Nat.le_of_not_le fitting)
        obtain rfl : minimal = 0 := Nat.le_zero.mp (full ▸ enough)
        rw [if_pos enough, full, Nat.min_zero, ite_self]
      · have same : (!quota.enforced &&
            decide (minimal ≤ Size.limit - quota.usage)) = true ↔
            quota.enforced = false ∧ quota.usage + minimal ≤ Size.limit := by
          rw [Bool.and_eq_true, Bool.not_eq_true', decide_eq_true_iff]
          exact and_congr_right fun _ => by omega
        rw [if_neg enough, if_congr same rfl rfl]

theorem pastChecked_eq (quota : Quota) (minimal : Nat) :
    quota.pastChecked minimal = .ok !quota.fits minimal := by
  unfold pastChecked fits
  split
  · rename_i above
    rw [decide_eq_false (Nat.not_le.mpr above)]
    rfl
  · rename_i within
    rw [Size.sub_of_le (Nat.not_lt.mp within),
      decide_eq_true (Nat.not_lt.mp within), Bool.true_and, ← decide_not]
    exact congrArg Except.ok (decide_eq_decide.mpr Nat.not_le.symm)

theorem toleratesChecked_eq (size : quota.usage ≤ Size.limit) :
    quota.toleratesChecked minimal =
      .ok (!quota.enforced && minimal ≤ Size.limit - quota.usage) := by
  unfold toleratesChecked
  rw [Size.sub_of_le size]
  cases quota.enforced <;> rfl

theorem grantChecked_eq (size : quota.usage ≤ Size.limit) :
    quota.grantChecked requested minimal =
      .ok (quota.grant requested minimal) := by
  rw [grantChecked, pastChecked_eq, toleratesChecked_eq size]
  cases fitting : quota.fits minimal with
  | true =>
      have within : quota.usage ≤ quota.ceiling := by
        simp only [fits, Bool.and_eq_true, decide_eq_true_eq] at fitting
        exact fitting.1
      rw [quota.grant_of_fits requested fitting, Size.sub_of_le within]
      rfl
  | false =>
      rw [quota.grant_of_not_fits requested fitting]
      rfl

/--
A quota with figures that are sizes decides without an overflow, and as is due.
-/
theorem allocateChecked_eq
    (size : quota.usage ≤ Size.limit)
    (ceiling : quota.ceiling ≤ Size.limit) :
    quota.allocateChecked requested minimal = .ok (quota.due requested minimal,
      { quota with usage := quota.usage + quota.due requested minimal }) := by
  have counts := quota.usage_add_grant_le requested minimal size ceiling
  rw [allocateChecked, grantChecked_eq size, ← grant_eq_due size]
  simp only [bind, Except.bind, Size.add_of_le counts]
  rfl

/-- A quota is paid back without an overflow, and stops at zero. -/
theorem freeChecked_eq (quota : Quota) (amount : Nat) :
    quota.freeChecked amount =
      .ok { quota with usage := quota.usage - amount } := by
  unfold freeChecked
  split
  · rename_i more
    rw [Nat.sub_eq_zero_of_le (Nat.le_of_lt more)]
    rfl
  · rename_i covered
    rw [Size.sub_of_le (Nat.not_lt.mp covered)]
    rfl

end Quota

namespace World

/--
A quota stands under the number of a mediator, and the calls on it so far are
those of a list, latest first.
-/
structure Logs
    (world : World)
    (mediator : Nat)
    (quota : Quota)
    (log : List MediatorCall) : Prop where
  entry : world.mediators.entry mediator = .ofQuota quota
  calls : world.calls mediator = log

namespace Logs

variable
    {world later : World}
    {mediator : Nat}
    {quota moved : Quota}
    {log further : List MediatorCall}

theorem of_same
    (logs : world.Logs mediator quota log)
    (sameEntry : later.mediators.entry mediator =
      world.mediators.entry mediator)
    (sameCalls : later.calls mediator = world.calls mediator) :
    later.Logs mediator quota log :=
  ⟨sameEntry.trans logs.entry, sameCalls.trans logs.calls⟩

theorem noteAll
    (logs : world.Logs mediator quota log)
    {events : List Event}
    (quiet : ∀ event ∈ events, event.Quiet) :
    (world.noteAll events).Logs mediator quota log := by
  refine @noteAll_preserves (·.Logs mediator quota log) events
    (fun event member _ logging => ?_) world logs
  have aside := (quiet event member).aside
  exact logging.of_same rfl (calls_note_of_none (aside.mediatorCall? mediator))

theorem around
    {change : World → World}
    (logs : world.Logs mediator quota log)
    (came : world.Around change later)
    (moves : ∀ middle : World, middle.Logs mediator quota log →
      (change middle).Logs mediator moved further) :
    later.Logs mediator moved further := by
  obtain ⟨before, after, quietBefore, quietAfter, rfl⟩ := came
  exact (moves _ (logs.noteAll quietBefore)).noteAll quietAfter

theorem grant
    (logs : world.Logs mediator quota log)
    {requested minimal granted : Nat}
    {next : Mediator}
    (booked : next = .ofQuota { quota with usage := quota.usage + granted }) :
    (world.grant mediator requested minimal granted next).Logs mediator
      { quota with usage := quota.usage + granted }
      (.allocated requested minimal granted :: log) where
  entry := by
    rw [World.grant, mediators_note, entry_mediators_setMediator,
      if_pos rfl, booked]
  calls := by
    rw [calls_grant, if_pos rfl, logs.calls]

theorem repay (logs : world.Logs mediator quota log) (amount : Nat) :
    (world.repay mediator amount).Logs mediator (quota.free amount)
      (.freed amount :: log) where
  entry := by
    rw [World.repay, mediators_note, entry_mediators_setMediator,
      if_pos rfl, logs.entry]
    rfl
  calls := by
    rw [calls_repay, if_pos rfl, logs.calls]

theorem setCeiling (logs : world.Logs mediator quota log) (ceiling : Nat) :
    (world.setCeiling mediator ceiling).Logs mediator
      (quota.setCeiling ceiling) log where
  entry := by
    rw [World.setCeiling, entry_mediators_setMediator, if_pos rfl, logs.entry]
    rfl
  calls := logs.calls

end Logs

/--
A quota is of the kind that was opened, and its usage keeps count of
the calls on it.
-/
def KeepsCount (world : World) (mediator : Nat) (opened : Quota) : Prop :=
  ∃ quota log, world.Logs mediator quota log ∧
    quota.enforced = opened.enforced ∧
    quota.guarded = opened.guarded ∧ quota.usage = MediatorCall.counted log

namespace KeepsCount

variable {world later : World} {mediator : Nat} {opened : Quota}

theorem of_same
    (keeps : world.KeepsCount mediator opened)
    (sameEntry : later.mediators.entry mediator =
      world.mediators.entry mediator)
    (sameCalls : later.calls mediator = world.calls mediator) :
    later.KeepsCount mediator opened := by
  obtain ⟨quota, log, logs, kind⟩ := keeps
  exact ⟨quota, log, logs.of_same sameEntry sameCalls, kind⟩

/--
Whatever step is taken, the usage of a quota keeps count of the calls on it.
-/
theorem step
    (keeps : world.KeepsCount mediator opened)
    (step : world.Step later) :
    later.KeepsCount mediator opened := by
  cases step with
  | onTracker step =>
      cases step with
      | note event aside =>
          exact keeps.of_same rfl
            (calls_note_of_none (aside.mediatorCall? mediator))
      | store member consumption => exact keeps.of_same rfl rfl
      | reach member consumption => exact keeps.of_same rfl rfl
  | call site call => exact keeps.of_same rfl (calls_note_of_none rfl)
  | report tally account => exact keeps.of_same rfl rfl
  | count probe => exact keeps.of_same rfl rfl
  | grant own requested minimal granted next answer =>
      by_cases same : own = mediator
      · subst same
        obtain ⟨quota, log, logs, enforced, guarded, usage⟩ := keeps
        rw [logs.entry] at answer
        rcases Mediator.allocate_cases answer with ⟨_, ⟨⟩, -, booked⟩ |
          ⟨_, impossible, _⟩
        · exact ⟨_, _, logs.grant booked, enforced, guarded,
            congrArg (· + granted) usage⟩
        · exact nomatch impossible
      · refine keeps.of_same ?_
          ((calls_grant own _ _ _ next).trans (if_neg same))
        rw [World.grant, mediators_note, entry_mediators_setMediator,
          if_neg (Ne.symm same)]
  | repay own amount =>
      by_cases same : own = mediator
      · subst same
        obtain ⟨quota, log, logs, enforced, guarded, usage⟩ := keeps
        exact ⟨_, _, logs.repay amount, enforced, guarded,
          congrArg (· - amount) usage⟩
      · refine keeps.of_same ?_ ((calls_repay own amount).trans (if_neg same))
        rw [World.repay, mediators_note, entry_mediators_setMediator,
          if_neg (Ne.symm same)]

theorem changes
    (keeps : world.KeepsCount mediator opened)
    (changes : world.Changes later) :
    later.KeepsCount mediator opened := by
  induction changes with
  | refl => exact keeps
  | tail _ step ih => exact ih.step step

/-- A moved ceiling is not a call that is counted. -/
theorem setCeiling
    (keeps : world.KeepsCount mediator opened)
    {own ceiling : Nat}
    (came : world.Around (·.setCeiling own ceiling) later) :
    later.KeepsCount mediator opened := by
  obtain ⟨quota, log, logs, kind⟩ := keeps
  by_cases same : own = mediator
  · subst same
    exact ⟨_, _, logs.around came fun middle logging =>
      logging.setCeiling ceiling, kind⟩
  · refine ⟨_, _, logs.around came fun middle logging =>
      logging.of_same ?_ rfl, kind⟩
    rw [World.setCeiling, entry_mediators_setMediator, if_neg (Ne.symm same)]

end KeepsCount

end World

namespace Session

variable {session : Session} {mediator : Nat} {quota : Quota}

/--
How a session answers the next call on a quota that it has,
whichever call that is.
-/
structure Honours (session : Session) (mediator : Nat) (quota : Quota) :
    Prop where
  /--
  A request is granted what is due, and the usage rises by that
  and stays a size.
  -/
  grants : ∀ {requested minimal : Nat}, minimal ≤ requested →
    let granted := quota.due requested minimal
    let booked := { quota with usage := quota.usage + granted }
    let outcome :=
      session.perform (.mediatorAllocate mediator requested minimal)
    quota.allocateChecked requested minimal = .ok (granted, booked) ∧
      outcome.1 = .granted (.ok granted) ∧
      outcome.2.world.Logs mediator booked
        (.allocated requested minimal granted :: session.world.calls mediator) ∧
      booked.usage ≤ Size.limit ∧
        (granted = 0 ∨ Within minimal requested granted)
  /-- A payment takes the usage down, and no further than to zero. -/
  frees : ∀ amount,
    let paid := { quota with usage := quota.usage - amount }
    let outcome := session.perform (.mediatorFree mediator amount)
    quota.freeChecked amount = .ok paid ∧ outcome.1 = .done (.ok ()) ∧
      outcome.2.world.Logs mediator paid
        (.freed amount :: session.world.calls mediator)
  /-- A ceiling is moved, also below the usage, and nothing else. -/
  moves : ∀ ceiling,
    let outcome := session.perform (.setCeiling mediator ceiling)
    outcome.1 = .done (.ok ()) ∧
      outcome.2.world.Logs mediator { quota with ceiling }
        (session.world.calls mediator)

theorem honours_of_entry
    (held : session.world.mediators.entry mediator = .ofQuota quota)
    (sizes : quota.usage ≤ Size.limit ∧ quota.ceiling ≤ Size.limit) :
    session.Honours mediator quota where
  grants := by
    intro requested minimal accepted granted booked
    have logs : session.world.Logs mediator quota
        (session.world.calls mediator) := ⟨held, rfl⟩
    have decides : quota.grant requested minimal = granted :=
      Quota.grant_eq_due sizes.1
    have answer := Mediation.allocate_of_quota held sizes accepted
    have counts := quota.usage_add_grant_le requested minimal sizes.1 sizes.2
    rw [decides] at answer counts
    refine ⟨Quota.allocateChecked_eq sizes.1 sizes.2, ?_⟩
    refine run_rule
      (fun result later => Answer.granted result = .granted (.ok granted) ∧
        later.world.Logs mediator booked (.allocated requested minimal
            granted :: session.world.calls mediator) ∧
        booked.usage ≤ Size.limit ∧
          (granted = 0 ∨ Within minimal requested granted))
      ((Mediation.ends_allocate answer).sure ?_)
    rintro _ later ⟨rfl, came⟩
    exact ⟨rfl, logs.around came fun _ logging => logging.grant rfl, counts,
      quota.due_eq_zero_or_within accepted⟩
  frees := by
    intro amount paid
    have logs : session.world.Logs mediator quota
        (session.world.calls mediator) := ⟨held, rfl⟩
    refine ⟨quota.freeChecked_eq amount, ?_⟩
    refine run_rule
      (fun result later => Answer.done result = .done (.ok ()) ∧
        later.world.Logs mediator paid
          (.freed amount :: session.world.calls mediator))
      ((Mediation.ends_free mediator amount session.world).sure ?_)
    exact fun _ later came =>
      ⟨rfl, logs.around came fun _ logging => logging.repay amount⟩
  moves := by
    intro ceiling
    have logs : session.world.Logs mediator quota
        (session.world.calls mediator) := ⟨held, rfl⟩
    refine run_rule
      (fun result later => Answer.done result = .done (.ok ()) ∧
        later.world.Logs mediator { quota with ceiling }
          (session.world.calls mediator))
      ((Mediation.ends_setCeiling mediator ceiling session.world).sure ?_)
    exact fun _ later came =>
      ⟨rfl, logs.around came fun _ logging => logging.setCeiling ceiling⟩

/--
In a session that has come about by any sized calls, from any accounts that are
fresh, a quota keeps the contract of mediators.  Whichever call comes next, no
arithmetic overflows: a request is granted what is due by the rule, and a
payment takes the usage down to no less than zero.  The usage is what all calls
so far leave on a counter that stops at zero, and as long as payments are
covered it is the sum of the grants less the sum of the payments.
-/
theorem quota_keeps_contract
    {world : World}
    (fresh : world.Fresh)
    {calls : List Call}
    (sized : ∀ call ∈ calls, call.Sized)
    {mediator : Nat}
    {opened : Quota}
    (opens : world.mediators.entry mediator = .ofQuota opened) :
    let session := (start world).performAll calls
    ∃ quota, session.world.mediators.entry mediator = .ofQuota quota ∧
      quota.enforced = opened.enforced ∧ quota.guarded = opened.guarded ∧
      session.Honours mediator quota ∧
      quota.usage = MediatorCall.counted (session.world.calls mediator) ∧
      (MediatorCall.Covered (session.world.calls mediator) →
        (quota.usage : Int) = session.world.balance mediator) := by
  intro session
  have unused := fresh.mediators mediator
  rw [opens] at unused
  have begins : world.KeepsCount mediator opened :=
    ⟨opened, [], ⟨opens, fresh.calls_eq_nil mediator⟩, rfl, rfl, unused.1⟩
  have counts : session.world.KeepsCount mediator opened :=
    world_performAll (·.KeepsCount mediator opened)
      (fun _ _ changes keeps => keeps.changes changes)
      (fun _ _ _ _ came keeps => keeps.setCeiling came) begins calls
  obtain ⟨quota, log, ⟨held, rfl⟩, enforced, guarded, usage⟩ := counts
  have sound := (orderly_performAll fresh sized).mediators mediator
  rw [held] at sound
  refine ⟨quota, held, enforced, guarded, honours_of_entry held sound, usage,
    fun covered => ?_⟩
  rw [usage, covered.counted_eq, World.balance]

/--
A soft and guarded quota of 10 has granted 10, has been paid 3, and then had its
ceiling lowered to 4.  It still grants as much as can be counted beside the 7 in
use, but no more, and stops at zero when 100 are paid.
-/
theorem quota_keeps_contract_past_ceiling :
    let world : World := .start [.ofQuota (.ofCeiling 10 false true)] []
    let session := (start world).performAll
      [.mediatorAllocate 0 20 5, .mediatorFree 0 3, .setCeiling 0 4]
    let most := Size.limit - 7
    Mediation.usage session.world 0 = 7 ∧ session.world.balance 0 = 7 ∧
      (session.perform (.mediatorAllocate 0 Size.limit most)).1 =
          .granted (.ok most) ∧
      (session.perform (.mediatorAllocate 0 Size.limit (most + 1))).1 =
          .granted (.ok 0) ∧
      Mediation.usage (session.perform (.mediatorFree 0 100)).2.world 0 =
        0 := by
  intro world session most
  have fresh : world.Fresh :=
    .start_quotas [.ofCeiling 10 false true] (by decide) (by decide)
  have sized : ∀ call ∈ [Call.mediatorAllocate 0 20 5, .mediatorFree 0 3,
      .setCeiling 0 4], call.Sized := by
    simp [Call.Sized, Size.limit]
  have covered : MediatorCall.Covered (session.world.calls 0) :=
    ⟨by decide, trivial⟩
  have opens : world.mediators.entry 0 =
      .ofQuota (.ofCeiling 10 false true) := rfl
  obtain ⟨quota, held, -, -, honours, -, balance⟩ :=
    quota_keeps_contract fresh sized opens
  have entry : session.world.mediators.entry 0 = .ofQuota
      { usage := 7, ceiling := 4, enforced := false, guarded := true } := rfl
  obtain rfl := Mediator.ofQuota.inj (held.symm.trans entry)
  have granted := (honours.grants (by decide : most ≤ Size.limit)).2.1
  have refused := (honours.grants (by decide : most + 1 ≤ Size.limit)).2.1
  have paid := (honours.frees 100).2.2.entry
  exact ⟨rfl, (balance covered).symm, granted, refused,
    congrArg Mediator.usage paid⟩

end Session

end BufferBudget
