import BufferBudget.Proofs.Custody
import BufferBudget.Proofs.Metering
import BufferBudget.Proofs.Refusal

/-!
# Trackers and the buffers that are held

The register of trackers, carried over runs.  As long as trackers are left to
the allocators, what a tracker has counted is what the held buffers are charged
to it, a strict tracker stays within its limit, and calls that accept no more
than they ask for are answered.

All of this holds up to the charge that is spilled.  A charge past the greatest
amount stops a call halfway at every tracker that does not turn it away: one
without a limit, or one that some layer charges whatever its limit.
-/

namespace BufferBudget

open Relation

namespace Forest

/-- A tracker is another one, or a descendant of it. -/
def Descends (forest : Forest) : Nat → Nat → Prop :=
  ReflTransGen fun child parent =>
    ∃ earlier, forest.parent? child = some ⟨parent, earlier⟩

/-- A charge on a tracker is recorded on the trackers that it descends from. -/
theorem mem_members_lineage_iff (forest : Forest) {tracker ancestor : Nat} :
    ancestor ∈ (forest.lineage tracker).members ↔
      forest.Descends tracker ancestor := by
  induction tracker using Nat.strongRecOn with
  | _ tracker ih =>
    have unfolded : (forest.lineage tracker).members =
        tracker :: forest.ancestors tracker := rfl
    rw [unfolded, List.mem_cons, ancestors]
    constructor
    · rintro (rfl | further)
      · exact .refl
      · split at further
        · exact absurd further List.not_mem_nil
        · rename_i parent earlier named
          have above : forest.Descends parent ancestor :=
            (ih parent earlier).mp further
          exact .head ⟨earlier, named⟩ above
    · intro descends
      rcases descends.cases_head with rfl | ⟨parent, ⟨earlier, named⟩, above⟩
      · exact .inl rfl
      · right
        rw [named]
        exact (ih parent earlier).mpr above

end Forest

/--
The supervision of the trackers of a world, of which some are left to
allocators, and some of these to enforcing layers.
-/
def World.supervision (world : World) (reserved strict : Nat → Prop) :
    Supervision where
  limits tracker := (world.trackers.entry tracker).limit
  reserved := reserved
  strict := strict

/--
A heap serves no size above the greatest amount, layers charge the lineages of a
forest, and those that charge a strict tracker enforce the limits.
-/
structure Allocator.Tracks
    (allocator : Allocator)
    (forest : Forest)
    (strict : Nat → Prop) : Prop where
  heap : allocator.heap.Countable
  lineages : ∀ lineage enforcing,
    Layer.tracked lineage enforcing ∈ allocator.layers →
    lineage = forest.lineage lineage.tracker
  enforces : ∀ lineage enforcing,
    Layer.tracked lineage enforcing ∈ allocator.layers →
    ∀ tracker ∈ lineage.members, strict tracker → enforcing = true

namespace Allocator.Tracks

variable {allocator : Allocator} {forest : Forest} {supervision : Supervision}

theorem obeys (tracks : allocator.Tracks forest supervision.strict) :
    allocator.Obeys supervision where
  heap := tracks.heap
  layers := by
    intro layer member
    cases layer with
    | tracked lineage enforcing =>
        constructor
        · rw [tracks.lineages lineage enforcing member]
          exact forest.nodup_members_lineage lineage.tracker
        · intro lenient tracker charged strict
          have enforced :=
            tracks.enforces lineage enforcing member tracker charged strict
          exact nomatch lenient.symm.trans enforced
    | _ => exact trivial

/--
A layer over a heap tracks, if it enforces the limits of all strict trackers
that it charges.
-/
theorem single
    {heap : Heap}
    {lineage : Lineage}
    {enforcing : Bool}
    {strict : Nat → Prop}
    (countable : heap.Countable)
    (named : lineage = forest.lineage lineage.tracker)
    (enforces : ∀ tracker ∈ lineage.members, strict tracker →
      enforcing = true) :
    ({ layers := [.tracked lineage enforcing], heap } : Allocator).Tracks forest
      strict where
  heap := countable
  lineages := by
    intro other enforced member
    obtain ⟨rfl, rfl⟩ := Layer.tracked.inj (List.mem_singleton.mp member)
    exact named
  enforces := by
    intro other enforced member
    obtain ⟨rfl, rfl⟩ := Layer.tracked.inj (List.mem_singleton.mp member)
    exact enforces

end Allocator.Tracks

/-- Addresses of 48 bits are amounts. -/
theorem Heap.countable_standard : Heap.standard.Countable := by
  intro size served
  have less : size < 281474976710656 := of_decide_eq_true served
  unfold Amount.greatest
  omega

/--
The allocators over a forest, which keep the register of its trackers, and the
lineages without reserved trackers, which may be charged past them.
-/
def Forest.custody (forest : Forest) (supervision : Supervision) : Custody where
  register := supervision.register
  Uses := fun allocator => allocator.Tracks forest supervision.strict
  cost := Allocator.trackerCost
  keeps := fun _ tracks => Allocator.meters_source tracks.obeys
  Frees := fun lineage => ∀ tracker ∈ lineage.members,
    ¬supervision.reserved tracker
  frees := by
    intro lineage free α operation tracks amounts world counts
    refine (Charging.counts_beside tracks free counts).mono
      (fun _ _ counting => counting) ?_
    intro _ later counting
    have own : lineage.tracker ∈ lineage.members := List.mem_cons_self
    exact Register.At.past counting fun reserved =>
      absurd (reserved _) (free _ own)

/--
Where a tracker and its descendants are reserved, the trackers that may be
charged past all allocators are the others.
-/
theorem Forest.free_lineage_iff
    {forest : Forest}
    {world : World}
    {strict : Nat → Prop}
    {tracker other : Nat} :
    (forest.custody (world.supervision (forest.Descends · tracker)
      strict)).Frees (forest.lineage other) ↔
      ¬forest.Descends other tracker := by
  constructor
  · exact fun free => free other List.mem_cons_self
  · intro apart ancestor member descends
    have above : forest.Descends other ancestor :=
      forest.mem_members_lineage_iff.mp member
    exact apart (above.trans descends)

/--
What the held buffers are charged to a tracker: the size of each, once for each
layer of the allocator that it goes back to that charges the tracker.
-/
def Session.chargedTo (session : Session) (tracker : Nat) : Nat :=
  session.shelf.total fun buffer =>
    buffer.originator.trackerCost buffer.size tracker

/-- Nothing has been counted in a fresh world. -/
theorem World.Fresh.counts
    {world : World}
    (fresh : world.Fresh)
    (reserved strict : Nat → Prop) :
    Counts (world.supervision reserved strict) (fun _ => 0) world where
  orderly := fresh.orderly
  measured := fresh.measured
  limits := fun _ => rfl
  counted := fun _ tracker _ => fresh.trackers tracker
  capped := fun _ _ _ _ _ _ nonneg => nonneg

namespace Session

variable
    {session : Session}
    {world : World}
    {forest : Forest}
    {reserved strict : Nat → Prop}
    {supervision : Supervision}
    {calls : List Call}

/-- What has happened before a call stays on the trail. -/
theorem trail_perform (session : Session) (call : Call) :
    session.world.trail <:+ (session.perform call).2.world.trail := by
  refine world_performAll (fun later => session.world.trail <:+ later.trail) ?_
    ?_ (List.suffix_refl _) [call]
  · intro middle later changes before
    rcases changes.trail with ⟨events, trail⟩
    exact before.trans ⟨events, trail.symm⟩
  · intro middle later mediator ceiling came before
    have beside : middle.Beside later :=
      .around came fun world => .setMediator world mediator _
    exact before.trans beside.trail

/--
Where no sum of a tracker has been past the greatest amount, no charge
has been spilled.
-/
theorem not_spilled_of_fitting
    (fitting : ∀ event ∈ session.world.trail, ¬event.Overruns) :
    ¬supervision.Spilled session.world := by
  rintro ⟨event, member, spills⟩
  exact fitting event member spills.overruns

/--
Trackers are left to allocators over a forest, and a call is answered where some
limit is not legible.
-/
def Charges
    (forest : Forest)
    (supervision : Supervision)
    (session : Session)
    (call : Call) : Prop :=
  (forest.custody supervision).Allows session call ∧
    (supervision.Legible ∨ (session.perform call).1.fault? = none)

/-- A session is held with no slack, unless a charge has been spilled. -/
def Reconciles
    (forest : Forest)
    (supervision : Supervision)
    (session : Session) : Prop :=
  ∃ slack, (forest.custody supervision).Holds slack session ∧
    (supervision.Spilled session.world ∨ slack = fun _ => 0)

theorem reconciles_perform
    {call : Call}
    (all : ∀ tracker, supervision.reserved tracker)
    (reconciles : session.Reconciles forest supervision)
    (charges : session.Charges forest supervision call) :
    (session.perform call).2.Reconciles forest supervision := by
  rcases reconciles with ⟨slack, holds, before⟩
  rcases Custody.settles_perform holds charges.1 with
    ⟨more, -, holding, settled⟩
  refine ⟨more, holding, ?_⟩
  rcases settled with ⟨stopped, excuse⟩ | ⟨rfl, -⟩
  · rcases charges.2 with legible | answered
    · exact .inl (excuse all legible)
    · exact absurd answered stopped
  · rcases before with spilled | none
    · exact .inl (spilled.mono (session.trail_perform call))
    · exact .inr none

/--
A run that keeps to a custody of trackers holds what it holds with some slack.
-/
theorem custody_performAll
    (fresh : world.Fresh)
    (follows : (start world).Follows
      (forest.custody (world.supervision reserved strict)).Allows calls) :
    ∃ slack, (forest.custody (world.supervision reserved strict)).Holds slack
      ((start world).performAll calls) := by
  refine follows.invariant
    (fun session => ∃ slack,
      (forest.custody (world.supervision reserved strict)).Holds slack session)
    ?_ ⟨fun _ => 0, fresh.counts reserved strict, nofun⟩
  rintro session call allows ⟨slack, holds⟩
  rcases Custody.settles_perform holds allows with ⟨more, -, holding, -⟩
  exact ⟨more, holding⟩

/--
After any run by which trackers are left to allocators, a tracker has counted
the size of each held buffer, as often as the allocator that it goes back to
charges the tracker or one of its descendants, and nothing where no buffer is
held.  The run must not take the sum of any tracker past the greatest amount,
and where some limit is below minus one its calls must not stop.
-/
theorem consumption_eq_charged
    (fresh : world.Fresh)
    (follows : (start world).Follows
      (Charges forest (world.supervision (fun _ => True) fun _ => False)) calls)
    (fitting : ∀ event ∈ ((start world).performAll calls).world.trail,
      ¬event.Overruns)
    (tracker : Nat) :
    let session := (start world).performAll calls
    let consumption := (session.world.trackers.entry tracker).consumption
    consumption = session.chargedTo tracker ∧ 0 ≤ consumption ∧
      (session.shelf = .empty → consumption = 0) := by
  intro session consumption
  let supervision := world.supervision (fun _ => True) fun _ => False
  have begins : (start world).Reconciles forest supervision :=
    ⟨fun _ => 0, ⟨fresh.counts _ _, nofun⟩, .inr rfl⟩
  have dry : ¬supervision.Spilled session.world :=
    not_spilled_of_fitting fitting
  rcases follows.invariant (·.Reconciles forest supervision)
    (fun _ _ charges reconciles =>
      reconciles_perform (fun _ => trivial) reconciles charges)
    begins with ⟨slack, holds, spilled | rfl⟩
  · exact absurd spilled dry
  · have counted : consumption = session.chargedTo tracker :=
      holds.charged.counted dry tracker trivial
    refine ⟨counted, counted ▸ Int.natCast_nonneg _, fun empty => ?_⟩
    rw [counted, chargedTo, empty]
    rfl

/--
A tracker with a limit of 50 bytes is charged 70 by force, by a layer that does
not enforce it; an enforcing layer is turned away until less is held.  What is
charged in the end is 10 bytes once, and 30 bytes twice.
-/
theorem consumption_eq_charged_of_forced_charge :
    let lenient : Allocator :=
      { layers := [.tracked ⟨1, [0]⟩ false, .mediated 0], heap := .standard }
    let twice : Allocator :=
      { layers := [.tracked ⟨0, []⟩ true, .tracked ⟨1, [0]⟩ false],
        heap := .standard }
    let world : World :=
      .start [.ofQuota (.ofCeiling 80 true false)]
        [.fresh "" (some 50), .fresh "" none]
    let session := (start world).performAll
      [.allocate 0 lenient 70 70, .allocate 1 twice 30 15, .resize 0 none 90 60,
        .resize 0 none 10 10, .allocate 1 twice 30 15]
    (session.world.trackers.entry 0).consumption = 70 ∧
      (session.world.trackers.entry 0).consumption = session.chargedTo 0 := by
  intro lenient twice world session
  let forest : Forest := ⟨[none, some 0]⟩
  have fresh : world.Fresh :=
    .start_quotas [.ofCeiling 80 true false] (by decide) (by decide)
  have legible :
      (world.supervision (fun _ => True) fun _ => False).Legible := by
    intro tracker limit limited
    match tracker, limited with
    | 0, limited =>
        obtain rfl : 50 = limit := Option.some.inj limited
        decide
    | 1, limited => exact nomatch limited
    | _ + 2, limited => exact nomatch limited
  have root : (⟨0, []⟩ : Lineage) = forest.lineage 0 := by
    simp [forest, Forest.lineage, Forest.ancestors, Forest.parent?]
  have child : (⟨1, [0]⟩ : Lineage) = forest.lineage 1 := by
    simp [forest, Forest.lineage, Forest.ancestors, Forest.parent?]
  have usesLenient : lenient.Tracks forest fun _ => False := by
    refine ⟨Heap.countable_standard, fun lineage enforcing member => ?_, nofun⟩
    simp only [lenient, List.mem_cons, List.not_mem_nil, Layer.tracked.injEq,
      or_false, reduceCtorEq] at member
    exact member.1 ▸ child
  have usesTwice : twice.Tracks forest fun _ => False := by
    refine ⟨Heap.countable_standard, fun lineage enforcing member => ?_, nofun⟩
    simp only [twice, List.mem_cons, List.not_mem_nil, Layer.tracked.injEq,
      or_false] at member
    rcases member with ⟨rfl, -⟩ | ⟨rfl, -⟩
    · exact root
    · exact child
  have follows : (start world).Follows
      (Charges forest (world.supervision (fun _ => True) fun _ => False))
      [.allocate 0 lenient 70 70, .allocate 1 twice 30 15, .resize 0 none 90 60,
        .resize 0 none 10 10, .allocate 1 twice 30 15] := by
    have small : ∀ size ≤ 90, size ≤ Size.limit :=
      fun _ less => Nat.le_trans less (by decide)
    exact ⟨⟨⟨small 70 (by decide), trivial, usesLenient⟩, .inl legible⟩,
      ⟨⟨small 30 (by decide), trivial, usesTwice⟩, .inl legible⟩,
      ⟨⟨small 90 (by decide), trivial, fun _ _ => rfl⟩, .inl legible⟩,
      ⟨⟨small 10 (by decide), trivial, fun _ _ => rfl⟩, .inl legible⟩,
      ⟨⟨small 30 (by decide), trivial, usesTwice⟩, .inl legible⟩, trivial⟩
  have charged := consumption_eq_charged fresh follows (by decide +kernel) 0
  dsimp only [session]
  refine ⟨?_, charged.1⟩
  decide +kernel

/--
Below a limit of minus two, the greatest amount cannot be read off.  A call that
has charged it by force, and then asks for what is left, stops with the charge
made and no buffer.
-/
theorem consumption_ne_charged_of_illegible_limit :
    ¬∀ (world : World) (forest : Forest) (calls : List Call) (tracker : Nat),
      world.Fresh →
      (start world).Follows (forest.custody (world.supervision (fun _ => True)
        fun _ => False)).Allows calls →
      (∀ event ∈ ((start world).performAll calls).world.trail,
        ¬event.Overruns) →
        (((start world).performAll calls).world.trackers.entry
          tracker).consumption =
          ((start world).performAll calls).chargedTo tracker := by
  intro charged
  let forest : Forest := ⟨[none]⟩
  let allocator : Allocator :=
    { layers := [.tracked ⟨0, []⟩ false, .bypass 0 1, .tracked ⟨0, []⟩ true],
      heap := .standard }
  let world : World := .start [] [.fresh "" (some (-2))]
  have fresh : world.Fresh := .start_quotas [] (by decide) (by decide)
  have root : (⟨0, []⟩ : Lineage) = forest.lineage 0 := by
    simp [forest, Forest.lineage, Forest.ancestors, Forest.parent?]
  have uses : allocator.Tracks forest fun _ => False := by
    refine ⟨Heap.countable_standard, fun lineage enforcing member => ?_, nofun⟩
    simp only [allocator, List.mem_cons, List.not_mem_nil, Layer.tracked.injEq,
      or_false, reduceCtorEq, false_or] at member
    rcases member with ⟨rfl, -⟩ | ⟨rfl, -⟩
    · exact root
    · exact root
  have follows : (start world).Follows
      (forest.custody (world.supervision (fun _ => True) fun _ => False)).Allows
      [.allocate 0 allocator 9223372036854775807 9223372036854775807] :=
    ⟨⟨(by decide : 9223372036854775807 ≤ Size.limit), trivial, uses⟩, trivial⟩
  have equal := charged world forest _ 0 fresh follows (by decide +kernel)
  revert equal
  decide +kernel

/--
A tracker with a limit, if only allocators charge it or its descendants, by
layers that are all enforcing, stays within the limit, and so does what all held
buffers together are charged to it, whatever is done to other trackers, and
whether calls stop or not.  The run must not take the sum of any tracker past
the greatest amount.
-/
theorem enforced_limit_never_exceeded
    (fresh : world.Fresh)
    {tracker : Nat}
    {limit : Int}
    (limited : (world.trackers.entry tracker).limit = some limit)
    (nonneg : 0 ≤ limit)
    (follows : (start world).Follows (forest.custody (world.supervision
      (forest.Descends · tracker) (· = tracker))).Allows calls)
    (fitting : ∀ event ∈ ((start world).performAll calls).world.trail,
      ¬event.Overruns) :
    let session := (start world).performAll calls
    let account := session.world.trackers.entry tracker
    account.limit = some limit ∧ account.consumption ≤ limit ∧
      session.chargedTo tracker ≤ account.consumption := by
  intro session account
  let supervision := world.supervision (forest.Descends · tracker) (· = tracker)
  rcases custody_performAll fresh follows with ⟨slack, holds⟩
  have dry : ¬supervision.Spilled session.world :=
    not_spilled_of_fitting fitting
  have counted : account.consumption =
      (session.chargedTo tracker + slack tracker : Nat) :=
    holds.charged.counted dry tracker .refl
  have capped :
      ((session.chargedTo tracker + slack tracker : Nat) : Int) ≤ limit :=
    holds.charged.capped dry tracker limit .refl rfl limited nonneg
  refine ⟨(holds.charged.limits tracker).trans limited, counted ▸ capped, ?_⟩
  omega

/--
Two allocators charge siblings under a limit of 100, of which one has a
limit of its own, and the parent of all is charged by a user.  Requests
settle for less, or are turned away, and neither the limit nor what is held
under it goes above 100.
-/
theorem enforced_limit_never_exceeded_by_siblings :
    let forest : Forest := ⟨[none, some 0, some 1, some 1]⟩
    let left : Allocator :=
      { layers := [.tracked ⟨2, [1, 0]⟩ true], heap := .standard }
    let right : Allocator :=
      { layers := [.tracked ⟨3, [1, 0]⟩ true], heap := .standard }
    let world : World := .start [] [.fresh "" none, .fresh "" (some 100),
      .fresh "" none, .fresh "" (some 40)]
    let session := (start world).performAll [.consume (forest.lineage 0) 500,
      .allocate 0 left 70 10, .allocate 1 right 60 20, .resize 0 none 120 75,
      .free 1, .resize 0 none 200 101, .resize 0 none 100 100]
    session.chargedTo 1 = 100 ∧
      (session.world.trackers.entry 1).consumption ≤ 100 := by
  intro forest left right world session
  have fresh : world.Fresh := .start_quotas [] (by decide) (by decide)
  have root : forest.lineage 0 = ⟨0, []⟩ := by
    simp [forest, Forest.lineage, Forest.ancestors, Forest.parent?]
  have first : (⟨2, [1, 0]⟩ : Lineage) = forest.lineage 2 := by
    simp [forest, Forest.lineage, Forest.ancestors, Forest.parent?]
  have second : (⟨3, [1, 0]⟩ : Lineage) = forest.lineage 3 := by
    simp [forest, Forest.lineage, Forest.ancestors, Forest.parent?]
  have uses : ∀ lineage : Lineage, lineage = forest.lineage lineage.tracker →
      ({ layers := [.tracked lineage true], heap := .standard } :
        Allocator).Tracks forest (· = 1) :=
    fun _ named => .single Heap.countable_standard named fun _ _ _ => rfl
  have apart : ¬forest.Descends 0 1 := by
    rw [← forest.mem_members_lineage_iff, root]
    decide
  have follows : (start world).Follows
      (forest.custody (world.supervision (forest.Descends · 1) (· = 1))).Allows
      [.consume (forest.lineage 0) 500, .allocate 0 left 70 10,
        .allocate 1 right 60 20, .resize 0 none 120 75, .free 1,
        .resize 0 none 200 101, .resize 0 none 100 100] := by
    have small : ∀ size ≤ 200, size ≤ Size.limit :=
      fun _ less => Nat.le_trans less (by decide)
    exact ⟨⟨trivial, Forest.free_lineage_iff.mpr apart, trivial⟩,
      ⟨small 70 (by decide), trivial, uses _ first⟩,
      ⟨small 60 (by decide), trivial, uses _ second⟩, ⟨small 120 (by decide),
        trivial, fun _ _ => rfl⟩, ⟨trivial, trivial, trivial⟩,
      ⟨small 200 (by decide), trivial, fun _ _ => rfl⟩,
      ⟨small 100 (by decide), trivial, fun _ _ => rfl⟩, trivial⟩
  have limited : (world.trackers.entry 1).limit = some 100 := rfl
  have bounded := enforced_limit_never_exceeded fresh limited
    (by decide) follows (by rw [root]; decide +kernel)
  dsimp only [session]
  refine ⟨?_, bounded.2.1⟩
  rw [root]
  decide +kernel

/--
In a session that has come about by leaving trackers to allocators, with limits
that are legible, a call that does not accept less than more than it asks for is
answered, and what is left can be read from every allocator afterwards, as long
as every charge that some tracker could not count has been put to a tracker that
turns it away: one with a limit below the greatest amount that is charged by
enforcing layers only.
-/
theorem legal_call_answered_unless_spilled
    (fresh : world.Fresh)
    (legible : (world.supervision (fun _ => True) strict).Legible)
    (follows : (start world).Follows
      (forest.custody (world.supervision (fun _ => True) strict)).Allows calls)
    {call : Call}
    (allows : (forest.custody (world.supervision (fun _ => True) strict)).Allows
      ((start world).performAll calls) call)
    (legal : ¬call.Inverted) :
    let (answer, later) := ((start world).performAll calls).perform call
    (∀ tracker total, .weighed tracker total ∈ later.world.trail →
      Amount.greatest < total →
      (world.supervision (fun _ => True) strict).TurnsAway tracker) →
    answer.fault? = none ∧
      ∀ allocator : Allocator, allocator.Tracks forest strict →
        ∃ rest, allocator.source.available later.world = .ok rest := by
  rcases custody_performAll fresh follows with ⟨slack, holds⟩
  rcases Custody.settles_perform holds allows with ⟨more, -, holding, settled⟩
  generalize ((start world).performAll calls).perform call =
    outcome at holding settled ⊢
  rcases outcome with ⟨answer, later⟩
  intro turnedAway
  have dry :
      ¬(world.supervision (fun _ => True) strict).Spilled later.world := by
    rintro ⟨event, member, spills⟩
    cases event with
    | weighed tracker total =>
        exact spills.2.2 (turnedAway tracker total member spills.2.1)
    | _ => exact spills.elim
  constructor
  · rcases settled with ⟨-, excuse⟩ | ⟨-, answered | inverted⟩
    · exact absurd (excuse (fun _ => trivial) legible) dry
    · exact answered
    · exact absurd inverted legal
  · intro allocator tracks
    cases read : allocator.source.available later.world with
    | ok rest => exact ⟨rest, rfl⟩
    | error fault =>
        have excuse :=
          (Allocator.meters_source tracks.obeys).available holding.charged read
        exact absurd (excuse (fun _ => trivial) legible) dry

/--
With one byte held, an enforcing layer under a limit of 100 turns away a request
for all bytes that there can be, and what is left can be read afterwards.
-/
theorem legal_call_answered_unless_spilled_at_size_limit :
    let allocator : Allocator :=
      { layers := [.tracked ⟨0, []⟩ true], heap := .standard }
    let session := (start (.start [] [.fresh "" (some 100)])).performAll
      [.allocate 0 allocator 1 1]
    let (answer, later) :=
      session.perform (.allocate 1 allocator Size.limit Size.limit)
    answer.fault? = none ∧
      ∃ rest, allocator.source.available later.world = .ok rest := by
  intro allocator session
  let forest : Forest := ⟨[none]⟩
  let world : World := .start [] [.fresh "" (some 100)]
  have fresh : world.Fresh := .start_quotas [] (by decide) (by decide)
  have legible : (world.supervision (fun _ => True) (· = 0)).Legible := by
    intro tracker limit limited
    match tracker, limited with
    | 0, limited =>
        obtain rfl : 100 = limit := Option.some.inj limited
        decide
    | _ + 1, limited => exact nomatch limited
  have root : (⟨0, []⟩ : Lineage) = forest.lineage 0 := by
    simp [forest, Forest.lineage, Forest.ancestors, Forest.parent?]
  have uses : allocator.Tracks forest (· = 0) :=
    .single Heap.countable_standard root fun _ _ _ => rfl
  have follows : (start world).Follows
      (forest.custody (world.supervision (fun _ => True) (· = 0))).Allows
      [.allocate 0 allocator 1 1] :=
    ⟨⟨(by decide : 1 ≤ Size.limit), trivial, uses⟩, trivial⟩
  have legal : ¬(Call.allocate 1 allocator Size.limit Size.limit).Inverted :=
    Call.not_inverted rfl (Nat.le_refl _)
  have allows :
      (forest.custody (world.supervision (fun _ => True) (· = 0))).Allows
        ((start world).performAll [.allocate 0 allocator 1 1])
        (.allocate 1 allocator Size.limit Size.limit) :=
    ⟨Nat.le_refl Size.limit, trivial, uses⟩
  have first :
      ∀ event ∈ (((start world).performAll [.allocate 0 allocator 1 1]).perform
        (.allocate 1 allocator Size.limit Size.limit)).2.world.trail,
        event.Overruns → event = .weighed 0 (Amount.greatest + 1) := by
    decide +kernel
  have answered := legal_call_answered_unless_spilled fresh legible follows
      allows legal fun tracker total member beyond => by
      obtain ⟨rfl, -⟩ := Event.weighed.inj (first _ member beyond)
      exact ⟨rfl, 100, rfl, by decide⟩
  exact ⟨answered.1, answered.2 allocator uses⟩

/--
An unlimited tracker that has counted one byte cannot count the greatest amount
besides, and a legal request stops there.
-/
theorem legal_call_stops_at_unlimited_tracker :
    ¬∀ (world : World) (forest : Forest) (calls : List Call) (call : Call),
      world.Fresh →
      (∀ tracker limit,
        (world.trackers.entry tracker).limit = some limit → 0 ≤ limit) →
      (start world).Follows (forest.custody (world.supervision (fun _ => True)
        fun _ => False)).Allows calls →
      (forest.custody (world.supervision (fun _ => True) fun _ => False)).Allows
          ((start world).performAll calls) call →
      ¬call.Inverted →
        (((start world).performAll calls).perform call).1.fault? = none := by
  intro answers
  let forest : Forest := ⟨[none]⟩
  let allocator : Allocator :=
    { layers := [.tracked ⟨0, []⟩ false], heap := .standard }
  let world : World := .start [] [.fresh "" none]
  have fresh : world.Fresh := .start_quotas [] (by decide) (by decide)
  have unlimited : ∀ tracker limit,
      (world.trackers.entry tracker).limit = some limit →
      0 ≤ limit := by
    intro tracker limit limited
    match tracker, limited with
    | 0, limited => exact nomatch limited
    | _ + 1, limited => exact nomatch limited
  have root : (⟨0, []⟩ : Lineage) = forest.lineage 0 := by
    simp [forest, Forest.lineage, Forest.ancestors, Forest.parent?]
  have uses : allocator.Tracks forest fun _ => False :=
    .single Heap.countable_standard root nofun
  have follows : (start world).Follows
      (forest.custody (world.supervision (fun _ => True) fun _ => False)).Allows
      [.allocate 0 allocator 1 1] :=
    ⟨⟨(by decide : 1 ≤ Size.limit), trivial, uses⟩, trivial⟩
  have legal : ¬(Call.allocate 1 allocator Size.limit Size.limit).Inverted :=
    Call.not_inverted rfl (Nat.le_refl _)
  have allows :
      (forest.custody (world.supervision (fun _ => True) fun _ => False)).Allows
        ((start world).performAll [.allocate 0 allocator 1 1])
        (.allocate 1 allocator Size.limit Size.limit) :=
    ⟨Nat.le_refl Size.limit, trivial, uses⟩
  have answered := answers world forest _ _ fresh unlimited follows allows legal
  revert answered
  decide +kernel

end Session

end BufferBudget
