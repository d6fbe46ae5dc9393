import BufferBudget.Assembly
import BufferBudget.Proofs.Calls

/-!
# Runs from a fresh world

A run starts in a world whose accounts are fresh and performs calls one after
the other.  `Fresh` is what assembled worlds have in common, and `Follows` says
that each call of a run is allowed by a rule in the session in which it is
made.  What the allowed calls preserve holds after every run that follows the
rule.
-/

namespace BufferBudget

/--
Nothing has been asked of a mediator, its numbers are sizes, and it grants no
more than it is asked for.
-/
def Mediator.Fresh : Mediator → Prop
  | .ofQuota quota => quota.usage = 0 ∧ quota.ceiling ≤ Size.limit
  | .ofArbiter arbiter =>
      arbiter.history = [] ∧
        ∀ history requested minimal,
          arbiter.policy history requested minimal ≤ requested

/-- A world in which no account has been used. -/
structure World.Fresh (world : World) : Prop where
  mediators : ∀ key, (world.mediators.entry key).Fresh
  trackers : ∀ key, (world.trackers.entry key).consumption = 0
  trail : ∀ event ∈ world.trail, event.Quiet

namespace World.Fresh

variable {world : World}

theorem note (fresh : world.Fresh) {event : Event} (quiet : event.Quiet) :
    (world.note event).Fresh where
  mediators := fresh.mediators
  trackers := fresh.trackers
  trail := by
    intro other member
    rcases List.mem_cons.mp member with rfl | earlier
    · exact quiet
    · exact fresh.trail other earlier

theorem setMediator
    (fresh : world.Fresh)
    (key : Nat)
    {mediator : Mediator}
    (freshMediator : mediator.Fresh) :
    (world.setMediator key mediator).Fresh where
  mediators := by
    intro other
    rw [World.entry_mediators_setMediator]
    split
    · exact freshMediator
    · exact fresh.mediators other
  trackers := fresh.trackers
  trail := fresh.trail

theorem closeGate (fresh : world.Fresh) (mediator lock : Nat) :
    (world.closeGate mediator lock).Fresh :=
  ⟨fresh.mediators, fresh.trackers, fresh.trail⟩

theorem start
    {mediators : List Mediator}
    {trackers : List Tracker}
    (freshMediators : ∀ mediator ∈ mediators, mediator.Fresh)
    (freshTrackers : ∀ tracker ∈ trackers, tracker.consumption = 0) :
    (World.start mediators trackers).Fresh where
  mediators := by
    intro key
    show (mediators.getD key .unlimited).Fresh
    rw [List.getD_eq_getElem?_getD]
    cases held : mediators[key]? with
    | none => exact ⟨rfl, Nat.le_refl _⟩
    | some mediator => exact freshMediators mediator (List.mem_of_getElem? held)
  trackers := by
    intro key
    show (trackers.getD key (.fresh "" none)).consumption = 0
    rw [List.getD_eq_getElem?_getD]
    cases held : trackers[key]? with
    | none => rfl
    | some tracker => exact freshTrackers tracker (List.mem_of_getElem? held)
  trail := fun _ member => absurd member List.not_mem_nil

/--
Quotas that nothing has been granted from, and trackers that have
counted nothing.
-/
theorem start_quotas
    (quotas : List Quota)
    {trackers : List Tracker}
    (freshQuotas : ∀ quota ∈ quotas, quota.usage = 0 ∧
      quota.ceiling ≤ Size.limit)
    (freshTrackers : ∀ tracker ∈ trackers, tracker.consumption = 0) :
    (World.start (quotas.map .ofQuota) trackers).Fresh := by
  refine .start (fun mediator member => ?_) freshTrackers
  obtain ⟨quota, among, rfl⟩ := List.mem_map.mp member
  exact freshQuotas quota among

end World.Fresh

/--
The ceiling of the quota that an addition opens, if it opens one with a
ceiling to speak of.
-/
def Addition.ceiling? {ω : Type} : Addition ω → Option Nat
  | .limit ceiling _ => some ceiling
  | .lockedLimit ceiling _ => some ceiling
  | .guarantee amount => some amount
  | .config layers => layers.quota
  | _ => none

/-- The ceiling that a plan names, if it names one, is a size. -/
def Plan.Sized {ω : Type} : Plan ω → Prop
  | .heap _ => True
  | .upon _ addition =>
      ∀ ceiling, addition.ceiling? = some ceiling → ceiling ≤ Size.limit

namespace Assembly

variable {ω : Type} {assembly : Assembly ω}

theorem fresh_openQuota
    (fresh : assembly.world.Fresh)
    {ceiling : Nat}
    (size : ceiling ≤ Size.limit)
    (enforced : Bool) :
    (assembly.openQuota ceiling enforced).2.world.Fresh :=
  fresh.setMediator assembly.nextMediator ⟨rfl, size⟩

theorem fresh_limitBy
    (fresh : assembly.world.Fresh)
    {config : Config}
    (allocator : Allocator)
    (size : ∀ ceiling, config.quota = some ceiling → ceiling ≤ Size.limit) :
    (assembly.limitBy config allocator).2.world.Fresh := by
  rw [limitBy]
  split
  · exact fresh
  · rename_i ceiling asked
    exact fresh_openQuota fresh (size ceiling asked) config.enforced

theorem fresh_bypassBy
    (fresh : assembly.world.Fresh)
    (config : Config)
    (allocator : Allocator) :
    (assembly.bypassBy config allocator).2.world.Fresh := by
  rw [bypassBy]
  split
  · exact fresh
  · exact fresh_openQuota fresh (Nat.le_refl _) true

theorem fresh_configure
    (fresh : assembly.world.Fresh)
    {config : Config}
    {allocator cleared : Allocator}
    {later : Assembly ω}
    (size : ∀ ceiling, config.quota = some ceiling → ceiling ≤ Size.limit)
    (configured : assembly.configure config allocator = .ok (cleared, later)) :
    later.world.Fresh := by
  rw [configure] at configured
  cases valid : config.validate with
  | error error =>
      rw [valid] at configured
      exact nomatch configured
  | ok _ =>
      rw [valid] at configured
      obtain ⟨-, rfl⟩ := Prod.mk.inj (Except.ok.inj configured)
      exact (fresh_bypassBy (fresh_limitBy fresh allocator size) config _).note
        trivial

theorem fresh_build
    (fresh : assembly.world.Fresh)
    {base : Allocator}
    {addition : Addition ω}
    {later : Assembly ω}
    (size : ∀ ceiling, addition.ceiling? = some ceiling → ceiling ≤ Size.limit)
    (built : assembly.build base addition = .ok later) :
    later.world.Fresh := by
  cases addition with
  | limit ceiling enforced =>
      obtain rfl := Except.ok.inj built
      exact fresh_openQuota fresh (size ceiling rfl) enforced
  | lockedLimit ceiling enforced =>
      obtain rfl := Except.ok.inj built
      exact (fresh_openQuota fresh (size ceiling rfl) enforced).closeGate _ _
  | mediator mediator =>
      obtain rfl := Except.ok.inj built
      exact fresh
  | clearing =>
      obtain rfl := Except.ok.inj built
      exact fresh
  | bypass amount =>
      obtain rfl := Except.ok.inj built
      exact fresh_openQuota fresh (Nat.le_refl _) true
  | tally tally =>
      obtain rfl := Except.ok.inj built
      exact fresh
  | tracker tracker enforcing =>
      obtain rfl := Except.ok.inj built
      exact fresh
  | lock =>
      obtain rfl := Except.ok.inj built
      exact fresh
  | objects objects =>
      obtain rfl := Except.ok.inj built
      exact fresh
  | guarantee amount =>
      obtain rfl := Except.ok.inj built
      exact fresh_openQuota fresh (size amount rfl) true
  | config config =>
      rw [build] at built
      split at built
      · exact nomatch built
      · rename_i allocator configuredTo configured
        obtain rfl := Except.ok.inj built
        have made : configuredTo.world.Fresh :=
          fresh_configure fresh size configured
        exact made
  | probe screen =>
      obtain rfl := Except.ok.inj built
      exact fresh

theorem fresh_follow
    (fresh : assembly.world.Fresh)
    {plan : Plan ω}
    (sized : plan.Sized)
    {later : Assembly ω}
    (followed : assembly.follow plan = .ok later) :
    later.world.Fresh := by
  cases plan with
  | heap heap =>
      obtain rfl := Except.ok.inj followed
      exact fresh
  | upon position addition =>
      rw [follow] at followed
      split at followed
      · exact nomatch followed
      · exact fresh_build fresh sized followed

/-- Whatever is assembled over fresh accounts is assembled in a fresh world. -/
theorem fresh_followAll
    (fresh : assembly.world.Fresh)
    {plans : List (Plan ω)}
    (sized : ∀ plan ∈ plans, plan.Sized)
    {later : Assembly ω}
    (followed : assembly.followAll plans = .ok later) :
    later.world.Fresh := by
  induction plans generalizing assembly with
  | nil =>
      obtain rfl := Except.ok.inj followed
      exact fresh
  | cons plan rest ih =>
      rw [followAll, List.foldlM_cons] at followed
      cases first : assembly.follow plan with
      | error error =>
          rw [first] at followed
          exact nomatch followed
      | ok next =>
          rw [first] at followed
          exact ih (fresh_follow fresh (sized plan List.mem_cons_self) first)
            (fun other member =>
              sized other (List.mem_cons_of_mem plan member)) followed

end Assembly

namespace Session

/--
Each call of a run is allowed by a rule in the session in which it is made.
-/
def Follows (rule : Session → Call → Prop) : Session → List Call → Prop
  | _, [] => True
  | session, call :: rest =>
      rule session call ∧ Follows rule (session.perform call).2 rest

/--
What the calls that a rule allows preserve holds after a run that
follows the rule.
-/
theorem Follows.invariant
    {rule : Session → Call → Prop}
    (invariant : Session → Prop)
    (step : ∀ session call, rule session call → invariant session →
      invariant (session.perform call).2)
    {session : Session}
    {calls : List Call}
    (follows : session.Follows rule calls)
    (begins : invariant session) :
    invariant (session.performAll calls) := by
  induction calls generalizing session with
  | nil => exact begins
  | cons call rest ih => exact ih follows.2 (step session call follows.1 begins)

/--
A rule that does not depend on the session is followed by a run of
allowed calls.
-/
theorem follows_of_forall
    {rule : Call → Prop}
    {calls : List Call}
    (allowed : ∀ call ∈ calls, rule call)
    (session : Session) :
    session.Follows (fun _ call => rule call) calls := by
  induction calls generalizing session with
  | nil => exact trivial
  | cons call rest ih =>
      exact ⟨allowed call List.mem_cons_self, ih (fun other member =>
        allowed other (List.mem_cons_of_mem call member)) _⟩

end Session

end BufferBudget
