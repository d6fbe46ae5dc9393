import BufferBudget.Proofs.Accounting
import BufferBudget.Proofs.Course

/-!
# A hard quota is never exceeded

An enforced quota grants what its ceiling leaves room for, and past the ceiling
nothing.  So whatever is done to a world, short of moving the ceiling, leaves
the usage of the quota below the ceiling or below what it was: a usage that has
risen has risen to the ceiling at most.

What the held buffers cost of the quota is no more than its usage, by the books,
and therefore stays below the ceiling too.
-/

namespace BufferBudget

/-- An enforced quota stands under the number of a mediator. -/
structure World.Enforces (world : World) (mediator : Nat) (quota : Quota) :
    Prop where
  entry : world.mediators.entry mediator = .ofQuota quota
  enforced : quota.enforced = true

theorem Quota.usage_add_grant_le_max
    {quota : Quota}
    (enforced : quota.enforced = true)
    (requested minimal : Nat) :
    quota.usage + quota.grant requested minimal ≤
      max quota.usage quota.ceiling := by
  cases fitting : quota.fits minimal with
  | true =>
      rw [quota.grant_of_fits requested fitting]
      have capped := Nat.min_le_right requested quota.room
      simp only [fits, Bool.and_eq_true, decide_eq_true_eq] at fitting
      unfold room at capped ⊢
      omega
  | false =>
      rw [quota.grant_of_not_fits requested fitting, enforced]
      exact Nat.le_max_left _ _

/--
An enforced quota is still there, with the ceiling that it had, and its usage
has not risen above both the ceiling and what it was.
-/
def Quota.Bounds (quota : Quota) (mediator : Nat) (later : World) : Prop :=
  ∃ next, later.Enforces mediator next ∧ next.ceiling = quota.ceiling ∧
    next.usage ≤ max quota.usage quota.ceiling

/-- The quota that a mediator is, if it is one. -/
def Mediator.quota? : Mediator → Option Quota
  | .ofQuota quota => some quota
  | .ofArbiter _ => none

theorem Mediator.eq_ofQuota
    {mediator : Mediator}
    {quota : Quota}
    (isQuota : mediator.quota? = some quota) :
    mediator = .ofQuota quota := by
  cases mediator with
  | ofQuota own => exact congrArg Mediator.ofQuota (Option.some.inj isQuota)
  | ofArbiter arbiter => exact nomatch isQuota

namespace World

variable {world later : World} {mediator : Nat} {quota : Quota}

theorem Enforces.bounds (enforces : world.Enforces mediator quota) :
    quota.Bounds mediator world :=
  ⟨quota, enforces, rfl, Nat.le_max_left _ _⟩

theorem Enforces.of_entry
    (enforces : world.Enforces mediator quota)
    (same : later.mediators.entry mediator = world.mediators.entry mediator) :
    later.Enforces mediator quota :=
  ⟨same.trans enforces.entry, enforces.enforced⟩

theorem Enforces.unmoved
    (enforces : world.Enforces mediator quota)
    (same : later.mediators.entry mediator = world.mediators.entry mediator) :
    quota.Bounds mediator later :=
  (enforces.of_entry same).bounds

/--
No step takes the usage of an enforced quota above both its ceiling
and what it was.
-/
theorem Enforces.step
    (enforces : world.Enforces mediator quota)
    (step : world.Step later) :
    quota.Bounds mediator later := by
  rcases step.mediator_cases mediator with same |
    ⟨requested, minimal, granted, answer⟩ | ⟨amount, paid⟩
  · exact enforces.unmoved same
  · rcases Mediator.allocate_cases answer with
      ⟨old, was, rfl, became⟩ | ⟨_, was, _⟩
    · obtain rfl := Mediator.ofQuota.inj (enforces.entry.symm.trans was)
      refine ⟨_, ⟨became, enforces.enforced⟩, rfl, ?_⟩
      exact Quota.usage_add_grant_le_max enforces.enforced requested minimal
    · exact nomatch enforces.entry.symm.trans was
  · rw [enforces.entry] at paid
    refine ⟨quota.free amount, ⟨paid, enforces.enforced⟩, rfl, ?_⟩
    exact Nat.le_trans (Nat.sub_le _ _) (Nat.le_max_left _ _)

theorem Enforces.changes
    (enforces : world.Enforces mediator quota)
    (changes : world.Changes later) :
    quota.Bounds mediator later := by
  induction changes with
  | refl => exact enforces.bounds
  | tail _ step ih =>
      obtain ⟨middle, enforcing, sameCeiling, bound⟩ := ih
      obtain ⟨next, further, stillSame, nextBound⟩ := enforcing.step step
      exact ⟨next, further, stillSame.trans sameCeiling, by omega⟩

theorem Enforces.setCeiling
    (enforces : world.Enforces mediator quota)
    (own ceiling : Nat)
    (came : world.Around (·.setCeiling own ceiling) later) :
    later.Enforces mediator
      (if mediator = own then quota.setCeiling ceiling else quota) := by
  obtain ⟨before, after, -, -, rfl⟩ := came
  have entry : (((world.noteAll before).setCeiling own ceiling).noteAll
      after).mediators.entry mediator =
      if mediator = own then (world.mediators.entry own).setCeiling ceiling
        else world.mediators.entry mediator := rfl
  by_cases same : mediator = own
  · subst same
    rw [if_pos rfl] at entry ⊢
    rw [enforces.entry] at entry
    exact ⟨entry, enforces.enforced⟩
  · rw [if_neg same] at entry ⊢
    exact ⟨entry.trans enforces.entry, enforces.enforced⟩

end World

namespace Session

variable {session : Session} {mediator : Nat} {quota : Quota}

/--
No call takes the usage of an enforced quota above both its ceiling
and what it was.
-/
theorem bounds_perform
    (enforces : session.world.Enforces mediator quota)
    {call : Call}
    (notCeiling : ∀ ceiling, call ≠ .setCeiling mediator ceiling) :
    quota.Bounds mediator (session.perform call).2.world := by
  cases call with
  | setCeiling own ceiling =>
      have moved :=
        enforces.setCeiling own ceiling (around_perform_setCeiling own ceiling)
      have other : mediator ≠ own := fun same => notCeiling ceiling (same ▸ rfl)
      rw [if_neg other] at moved
      exact moved.bounds
  | _ => exact enforces.changes (changes_perform nofun)

theorem enforces_perform_setCeiling
    (enforces : session.world.Enforces mediator quota)
    (ceiling : Nat) :
    (session.perform (.setCeiling mediator ceiling)).2.world.Enforces mediator
      (quota.setCeiling ceiling) := by
  have moved := enforces.setCeiling mediator ceiling
    (around_perform_setCeiling mediator ceiling)
  rwa [if_pos rfl] at moved

/--
What a call does to an enforced quota: it moves the ceiling and nothing else, or
it leaves the ceiling and keeps the usage within the bounds.
-/
theorem perform_cases
    (enforces : session.world.Enforces mediator quota)
    (call : Call) :
    (∃ ceiling, call = .setCeiling mediator ceiling ∧
      (session.perform call).2.world.Enforces mediator
          (quota.setCeiling ceiling)) ∨
    ((∀ ceiling, call ≠ .setCeiling mediator ceiling) ∧
      quota.Bounds mediator (session.perform call).2.world) := by
  by_cases moves : ∃ ceiling, call = .setCeiling mediator ceiling
  · obtain ⟨ceiling, rfl⟩ := moves
    exact .inl ⟨ceiling, rfl, enforces_perform_setCeiling enforces ceiling⟩
  · have notCeiling : ∀ ceiling, call ≠ .setCeiling mediator ceiling :=
      fun ceiling same => moves ⟨ceiling, same⟩
    exact .inr ⟨notCeiling, bounds_perform enforces notCeiling⟩

/-- The usage of an enforced quota is within its ceiling. -/
def Obeys (session : Session) (mediator : Nat) : Prop :=
  ∃ quota, session.world.Enforces mediator quota ∧ quota.usage ≤ quota.ceiling

/-- A call does not lower the ceiling of an enforced quota. -/
def NeverLowers (mediator : Nat) (session : Session) (call : Call) : Prop :=
  ∀ ceiling quota, call = .setCeiling mediator ceiling →
    session.world.Enforces mediator quota → quota.ceiling ≤ ceiling

/-- An enforced quota has nothing left when a call is made. -/
def Exhausted (mediator : Nat) (session : Session) (_ : Call) : Prop :=
  ∀ quota, session.world.Enforces mediator quota → quota.ceiling ≤ quota.usage

theorem obeys_performAll
    {calls : List Call}
    (follows : session.Follows (NeverLowers mediator) calls)
    (obeys : session.Obeys mediator) :
    (session.performAll calls).Obeys mediator := by
  refine follows.invariant (·.Obeys mediator) ?_ obeys
  rintro current call neverLowers ⟨quota, enforces, within⟩
  rcases perform_cases enforces call with ⟨ceiling, rfl, moved⟩ |
    ⟨-, next, stays, same, bound⟩
  · exact ⟨_, moved,
      Nat.le_trans within (neverLowers ceiling quota rfl enforces)⟩
  · exact ⟨next, stays, by omega⟩

theorem usage_performAll_le
    {calls : List Call}
    (follows : session.Follows (Exhausted mediator) calls)
    (bound : Nat)
    (begins : ∃ quota, session.world.Enforces mediator quota ∧
      quota.usage ≤ bound) :
    ∃ quota, (session.performAll calls).world.Enforces mediator quota ∧
      quota.usage ≤ bound := by
  refine follows.invariant (fun current => ∃ quota,
    current.world.Enforces mediator quota ∧ quota.usage ≤ bound) ?_ begins
  rintro current call exhausted ⟨quota, enforces, within⟩
  have full := exhausted quota enforces
  rcases perform_cases enforces call with ⟨ceiling, rfl, moved⟩ |
    ⟨-, next, stays, -, capped⟩
  · exact ⟨_, moved, within⟩
  · exact ⟨next, stays, by omega⟩

/--
After a run that keeps the books, whether it stopped or not, the held buffers
cost no more than is outstanding.
-/
theorem holds_some_performAll
    {world : World}
    (fresh : world.Fresh)
    {calls : List Call}
    (follows : (start world).Follows Admits calls)
    (mediator : Nat) :
    ∃ slack, ((start world).performAll calls).Holds mediator slack := by
  refine follows.invariant
    (fun current => ∃ slack, current.Holds mediator slack) ?_
    ⟨0, fresh.stands mediator⟩
  rintro current call admits ⟨slack, holds⟩
  obtain ⟨more, -, holding, -⟩ := keeps_perform holds admits
  exact ⟨more, holding⟩

theorem Holds.charged_le_usage
    {slack : Nat}
    (holds : session.Holds mediator slack)
    (enforces : session.world.Enforces mediator quota) :
    session.charged mediator ≤ quota.usage := by
  have usage := holds.booked.usage quota enforces.entry
  have balance := holds.balance
  omega

/--
Whatever a user does, a call that raises the usage of an enforced quota ends
within the ceiling in force, and only moving the ceiling moves it.  From fresh
accounts, and as long as the ceiling is never lowered, the usage is within it,
and so is what the held buffers cost.  And while the usage has reached the
ceiling or is above it, the usage does not rise.
-/
theorem hard_quota_never_exceeded (mediator : Nat) :
    (∀ (session : Session) (quota : Quota),
      session.world.Enforces mediator quota →
      ∀ call, ∃ later, (session.perform call).2.world.Enforces mediator later ∧
        ((∀ ceiling, call ≠ .setCeiling mediator ceiling) →
          later.ceiling = quota.ceiling) ∧
          (quota.usage < later.usage → later.usage ≤ later.ceiling)) ∧
    (∀ (world : World) (quota : Quota), world.Fresh →
      world.Enforces mediator quota →
      ∀ calls, (start world).Follows (NeverLowers mediator) calls →
        ∃ later,
          ((start world).performAll calls).world.Enforces mediator later ∧
          later.usage ≤ later.ceiling ∧
            ((start world).Follows Admits calls →
              ((start world).performAll calls).charged mediator ≤
                  later.ceiling)) ∧
    (∀ (session : Session) (quota : Quota),
      session.world.Enforces mediator quota →
      ∀ calls, session.Follows (Exhausted mediator) calls →
        ∃ later, (session.performAll calls).world.Enforces mediator later ∧
          later.usage ≤ quota.usage) := by
  refine ⟨?_, ?_, ?_⟩
  · intro session quota enforces call
    rcases perform_cases enforces call with ⟨ceiling, rfl, moved⟩ |
      ⟨-, next, stays, same, bound⟩
    · exact ⟨_, moved, fun notCeiling => absurd rfl (notCeiling ceiling),
        fun rises => absurd rises (Nat.lt_irrefl _)⟩
    · exact ⟨next, stays, fun _ => same, fun rises => by omega⟩
  · intro world quota fresh enforces calls follows
    have unused := fresh.mediators mediator
    rw [enforces.entry] at unused
    have begins : (start world).Obeys mediator :=
      ⟨quota, enforces, unused.1 ▸ Nat.zero_le quota.ceiling⟩
    obtain ⟨later, stays, within⟩ := obeys_performAll follows begins
    refine ⟨later, stays, within, fun admits => ?_⟩
    obtain ⟨slack, holds⟩ := holds_some_performAll fresh admits mediator
    exact Nat.le_trans (holds.charged_le_usage stays) within
  · intro session quota enforces calls follows
    exact usage_performAll_le follows quota.usage
      ⟨quota, enforces, Nat.le_refl _⟩

/--
Under a bypass, a quota of 10 bytes that is charged twice for each byte
makes 2 bytes of a request for 8.  When its ceiling is lowered to 3, it
grants nothing more.
-/
theorem hard_quota_never_exceeded_under_bypass :
    let allocator : Allocator :=
      { layers := [.bypass 1 50, .mediated 0, .mediated 0], heap := .standard }
    let world : World := .start [.ofQuota (.ofCeiling 10 true false)] []
    let session := (start world).performAll [.allocate 0 allocator 8 1]
    let lowered := session.performAll [.setCeiling 0 3]
    (∃ later, session.world.Enforces 0 later ∧ later.usage ≤ later.ceiling ∧
      session.charged 0 ≤ later.ceiling) ∧
    ∃ later,
      (lowered.performAll [.allocate 1 allocator 8 0]).world.Enforces 0 later ∧
      later.usage ≤ 4 := by
  intro allocator world session lowered
  have fresh : world.Fresh :=
    .start_quotas [.ofCeiling 10 true false] (by decide) (by decide)
  have enforces : world.Enforces 0 (.ofCeiling 10 true false) := ⟨rfl, rfl⟩
  have follows :
      (start world).Follows (NeverLowers 0) [.allocate 0 allocator 8 1] :=
    ⟨nofun, trivial⟩
  have admits : (start world).Follows Admits [.allocate 0 allocator 8 1] :=
    ⟨(by decide : 8 ≤ Size.limit), trivial⟩
  obtain ⟨-, runs, exhausts⟩ := hard_quota_never_exceeded 0
  obtain ⟨later, stays, within, charged⟩ :=
    runs world _ fresh enforces _ follows
  have full : lowered.world.mediators.entry 0 = .ofQuota
      { usage := 4, ceiling := 3, enforced := true, guarded := false } :=
    Mediator.eq_ofQuota (by decide +kernel)
  have exhausted :
      lowered.Follows (Exhausted 0) [.allocate 1 allocator 8 0] := by
    refine ⟨fun quota held => ?_, trivial⟩
    obtain rfl := Mediator.ofQuota.inj (held.entry.symm.trans full)
    decide
  exact ⟨⟨later, stays, within, charged admits⟩,
    exhausts lowered _ ⟨full, rfl⟩ _ exhausted⟩

end Session

end BufferBudget
