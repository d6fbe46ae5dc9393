import BufferBudget.Proofs.IdleBypass
import BufferBudget.Proofs.Repeating

/-!
# A guarantee is a limit that is asked in full

A guarantee judges a request by what is left of its amount, and then puts it to
an enforced quota of its own.  A limit with such a quota, asked for the same
size and to accept nothing less, has the quota as its only judge.  The two
agree: the quota stands below its ceiling all along, so that it denies just what
the guarantee denies beforehand.  Either way nothing is asked below, and nothing
is changed; the quota alone makes a note of it, and the operator is told.

So the trails of the two are compared without what is noted of the quota, of the
calls on the guarantee or the limit itself, of diagnostics and of locks.
Everything else on them is the same, above all the calls on the layers below.
-/

namespace BufferBudget

/--
Whether an event is apart from a guarantee of an amount, or from a limit, that
has its quota under a number: what happens below them, or past them.
Diagnostics and the uses of locks are left out.
-/
def Event.apart (own amount : Nat) : Event → Bool
  | .emitted _ | .acquired _ | .released _ => false
  | .called site _ =>
      site ≠ .layer (.guaranteed own amount) && site ≠ .layer (.mediated own)
  | .mediated mediator _ => mediator ≠ own
  | .tracked _ _ | .weighed _ _ => true

theorem Event.Quiet.not_apart
    {event : Event}
    (quiet : event.Quiet)
    (own amount : Nat) :
    event.apart own amount = false := by
  cases event with
  | emitted diagnostic => rfl
  | acquired lock => rfl
  | released lock => rfl
  | called site call => exact quiet.elim
  | mediated mediator call => exact quiet.elim
  | tracked tracker call => exact quiet.elim
  | weighed tracker total => exact quiet.elim

namespace World

/--
What has happened apart from a guarantee or a limit with its quota under a
number, latest first.
-/
def apart (own amount : Nat) (world : World) : List Event :=
  world.trail.filter (Event.apart own amount)

/--
Two worlds have the same accounts, and the same has happened in them apart from
a guarantee or a limit.
-/
structure SameApart (own amount : Nat) (left right : World) : Prop where
  mediators : left.mediators = right.mediators
  trackers : left.trackers = right.trackers
  tallies : left.tallies = right.tallies
  probes : left.probes = right.probes
  apart : left.apart own amount = right.apart own amount

variable {own amount : Nat} {left right middle later last : World}

namespace SameApart

theorem refl (world : World) : SameApart own amount world world :=
  ⟨rfl, rfl, rfl, rfl, rfl⟩

theorem symm (same : SameApart own amount left right) :
    SameApart own amount right left :=
  ⟨same.mediators.symm, same.trackers.symm, same.tallies.symm, same.probes.symm,
    same.apart.symm⟩

theorem trans
    (same : SameApart own amount left middle)
    (further : SameApart own amount middle right) :
    SameApart own amount left right :=
  ⟨same.mediators.trans further.mediators, same.trackers.trans further.trackers,
    same.tallies.trans further.tallies, same.probes.trans further.probes,
    same.apart.trans further.apart⟩

theorem note (same : SameApart own amount left right) (event : Event) :
    SameApart own amount (left.note event) (right.note event) where
  mediators := same.mediators
  trackers := same.trackers
  tallies := same.tallies
  probes := same.probes
  apart := by
    have trails := same.apart
    unfold World.apart at trails ⊢
    rw [trail_note, trail_note, List.filter_cons, List.filter_cons, trails]

/-- What is not apart is not seen. -/
theorem hidden
    (world : World)
    {event : Event}
    (hides : event.apart own amount = false) :
    SameApart own amount world (world.note event) where
  mediators := rfl
  trackers := rfl
  tallies := rfl
  probes := rfl
  apart := by
    unfold World.apart
    rw [trail_note, List.filter_cons_of_neg (Bool.eq_false_iff.mp hides)]

theorem quiet
    (world : World)
    {events : List Event}
    (quiet : ∀ event ∈ events, event.Quiet) :
    SameApart own amount world (world.noteAll events) :=
  noteAll_preserves (fun event member now same =>
    same.trans (hidden now ((quiet event member).not_apart _ _))) (refl world)

/-- Diagnostics are not seen. -/
theorem told (world : World) (diagnostics : List Diagnostic) :
    SameApart own amount world (world.noteAll (diagnostics.map .emitted)) := by
  refine quiet world fun event member => ?_
  obtain ⟨diagnostic, -, rfl⟩ := List.mem_map.mp member
  exact trivial

theorem around
    {change : World → World}
    (came : left.Around change later)
    (changed : ∀ middle : World, SameApart own amount left middle →
      SameApart own amount middle (change middle)) :
    SameApart own amount left later := by
  obtain ⟨before, after, quietBefore, quietAfter, rfl⟩ := came
  have entered : SameApart own amount left (left.noteAll before) :=
    quiet left quietBefore
  exact (entered.trans (changed _ entered)).trans (quiet _ quietAfter)

end SameApart

/--
Two worlds are the same apart from a guarantee or a limit, and the quota of the
two is an enforced one that stands below its ceiling.
-/
structure Level (own amount : Nat) (left right : World) : Prop where
  same : SameApart own amount left right
  capped : ∃ used ≤ amount, left.mediators.entry own = .capped amount used

namespace Level

theorem shift
    (level : Level own amount left right)
    (came : SameApart own amount left later)
    (went : SameApart own amount right last) :
    Level own amount later last where
  same := came.symm.trans (level.same.trans went)
  capped := came.mediators ▸ level.capped

theorem note (level : Level own amount left right) (event : Event) :
    Level own amount (left.note event) (right.note event) :=
  ⟨level.same.note event, level.capped⟩

theorem setMediator
    (level : Level own amount left right)
    (key : Nat)
    {account : Mediator}
    (kept : key = own → ∃ used ≤ amount, account = .capped amount used) :
    Level own amount (left.setMediator key account)
      (right.setMediator key account) where
  same :=
    ⟨congrArg (·.set key account) level.same.mediators, level.same.trackers,
      level.same.tallies, level.same.probes, level.same.apart⟩
  capped := by
    rw [entry_mediators_setMediator]
    split
    · rename_i isOwn
      exact kept isOwn.symm
    · exact level.capped

/-- An access to a mediator that books the same on both sides. -/
theorem around
    (level : Level own amount left right)
    {change : World → World}
    (booked : ∀ {middle other : World}, Level own amount middle other →
      Level own amount (change middle) (change other))
    (came : left.Around change later)
    (went : right.Around change last) :
    Level own amount later last := by
  obtain ⟨before, after, quietBefore, quietAfter, rfl⟩ := came
  obtain ⟨earlier, others, quietEarlier, quietOthers, rfl⟩ := went
  exact (booked
    (level.shift (.quiet left quietBefore) (.quiet right quietEarlier))).shift
    (.quiet _ quietAfter) (.quiet _ quietOthers)

end Level

end World

/-- Whatever an enforced quota grants leaves it below its ceiling. -/
theorem Mediator.capped_of_allocate
    {amount used requested minimal granted : Nat}
    {next : Mediator}
    (within : used ≤ amount)
    (answer : (capped amount used).allocate requested minimal =
      .ok (granted, next)) :
    ∃ more ≤ amount, next = capped amount more := by
  rcases allocate_cases answer with ⟨quota, held, rfl, rfl⟩ | ⟨arbiter, held, -⟩
  · obtain rfl := Mediator.ofQuota.inj held
    refine ⟨_,
      Nat.le_trans (Quota.usage_add_grant_le_max rfl requested minimal) ?_, rfl⟩
    exact Nat.max_le.mpr ⟨within, Nat.le_refl amount⟩
  · exact nomatch held

namespace World

variable {own amount : Nat}

namespace Level

variable {left right : World}

theorem repeats_allocate (mediator requested minimal : Nat) :
    Operation.Repeats (Level own amount)
      (Mediation.allocate mediator requested minimal) := by
  intro left right level
  have entry : right.mediators.entry mediator =
      left.mediators.entry mediator := by
    rw [level.same.mediators]
  cases answer : (left.mediators.entry mediator).allocate requested minimal with
  | ok booked =>
      obtain ⟨granted, next⟩ := booked
      have kept : mediator = own →
          ∃ used ≤ amount, next = .capped amount used := by
        rintro rfl
        obtain ⟨used, within, held⟩ := level.capped
        exact Mediator.capped_of_allocate within (held ▸ answer)
      refine endedAlike_of_values (Mediation.ends_allocate answer)
        (Mediation.ends_allocate (entry.symm ▸ answer)) ?_
      rintro _ later _ last ⟨rfl, came⟩ ⟨rfl, went⟩
      refine ⟨rfl, level.around (fun booked => ?_) came went⟩
      exact (booked.setMediator mediator kept).note _
  | error fault =>
      refine endedAlike_of_faults (Mediation.ends_allocate_error answer)
        (Mediation.ends_allocate_error (entry.symm ▸ answer)) ?_
      rintro _ later _ last ⟨rfl, came⟩ ⟨rfl, went⟩
      exact ⟨rfl, level.around (fun booked => booked) came went⟩

theorem repeats_free (mediator returned : Nat) :
    Operation.Repeats (Level own amount)
      (Mediation.free mediator returned) := by
  intro left right level
  refine endedAlike_of_values (Mediation.ends_free mediator returned left)
    (Mediation.ends_free mediator returned right) ?_
  intro _ later _ last came went
  refine ⟨rfl, level.around (fun {middle other} booked => ?_) came went⟩
  have entry : other.mediators.entry mediator =
      middle.mediators.entry mediator := by
    rw [booked.same.mediators]
  rw [repay, repay, entry]
  refine (booked.setMediator mediator ?_).note _
  rintro rfl
  obtain ⟨used, within, held⟩ := booked.capped
  exact ⟨used - returned,
    Nat.le_trans (Nat.sub_le used returned) within, held ▸ rfl⟩

/-- Moving the ceiling of another quota. -/
theorem repeats_setCeiling
    {mediator : Nat}
    (other : mediator ≠ own)
    (ceiling : Nat) :
    Operation.Repeats (Level own amount)
      (Mediation.setCeiling mediator ceiling) := by
  intro left right level
  refine endedAlike_of_values (Mediation.ends_setCeiling mediator ceiling left)
    (Mediation.ends_setCeiling mediator ceiling right) ?_
  intro _ later _ last came went
  refine ⟨rfl, level.around (fun {middle next} booked => ?_) came went⟩
  rw [setCeiling, setCeiling, booked.same.mediators]
  exact booked.setMediator mediator fun same => absurd same other

end Level

/-- Accounts are used in the same way in two worlds that are level. -/
theorem used_level : Used (Level own amount) where
  mediators := fun level => level.same.mediators
  trackers := fun level => level.same.trackers
  tallies := fun level => level.same.tallies
  probes := fun level => level.same.probes
  note := fun event level => level.note event
  setTracker := fun tracker account level =>
    ⟨⟨level.same.mediators,
      congrArg (·.set tracker account) level.same.trackers,
      level.same.tallies, level.same.probes, level.same.apart⟩,
      level.capped⟩
  setTally := fun tally account level =>
    ⟨⟨level.same.mediators, level.same.trackers,
      congrArg (·.set tally account) level.same.tallies,
      level.same.probes, level.same.apart⟩, level.capped⟩
  countProbe := by
    intro left right probe level
    have counted : (left.countProbe probe).probes =
        (right.countProbe probe).probes := by
      show left.probes.set probe _ = right.probes.set probe _
      rw [level.same.probes]
    exact
      ⟨⟨level.same.mediators, level.same.trackers, level.same.tallies,
        counted, level.same.apart⟩, level.capped⟩
  allocate := Level.repeats_allocate
  free := Level.repeats_free

end World

section Refusing

variable {own amount used requested : Nat} {below : Source}

/-- An enforced quota denies more than is left of it, and nothing is changed. -/
theorem Mediation.denies_grant
    {world : World}
    {bytes : Nat}
    (held : world.mediators.entry own = .capped amount used)
    (within : used ≤ amount)
    (size : amount ≤ Size.limit)
    (more : amount - used < bytes) :
    Ends (grant own bytes bytes) world (fun answer later => answer = none ∧
      World.SameApart own amount world later) (fun _ _ => False) := by
  have answer : (world.mediators.entry own).allocate bytes bytes =
      .ok (0, world.mediators.entry own) := by
    rw [allocate_of_enforces ⟨held, rfl⟩ ⟨Nat.le_trans within size, size⟩
      (Nat.le_refl bytes), Quota.room, ration, if_neg (Nat.not_le.mpr more),
      Option.getD_none, Nat.add_zero, held]
    rfl
  refine grant_rule (fun empty => ?empty)
    (fun _ => ends_allocate answer) ?enough ?short ?nothing
  case empty => omega
  case enough =>
    rintro _ later ⟨rfl, -⟩ enough
    omega
  case short =>
    rintro _ later ⟨rfl, -⟩ - positive
    exact absurd positive (Nat.lt_irrefl 0)
  case nothing =>
    -- The account is put back as it was, and what the quota notes is its own.
    rintro later ⟨-, came⟩ -
    refine ⟨rfl, .around came fun middle same => ?_⟩
    have kept :
        middle.setMediator own (world.mediators.entry own) = middle := by
      rw [World.setMediator, same.mediators, Table.set_entry]
    rw [World.grant, kept]
    exact .hidden middle (by simp [Event.apart])

theorem Mediated.refuses_allocate
    {world : World}
    (held : world.mediators.entry own = .capped amount used)
    (within : used ≤ amount)
    (size : amount ≤ Size.limit)
    (more : amount - used < requested) :
    Ends (allocate own below requested requested) world (fun result later =>
      result = none ∧ World.SameApart own amount world later)
      (fun _ _ => False) := by
  refine allocate_rule
    (fun _ _ _ => False) (Mediation.denies_grant held within size more)
    (fun _ denied => ⟨rfl, denied.2⟩) ?called nofun nofun nofun
  case called =>
    rintro granted later ⟨impossible, -⟩
    exact nomatch impossible

theorem Mediated.refuses_resize
    {bench : Workbench}
    (held : bench.world.mediators.entry own = .capped amount used)
    (within : used ≤ amount)
    (size : amount ≤ Size.limit)
    (larger : bench.contents.size < requested)
    (more : amount - used < requested - bench.contents.size) :
    Ends (resize own below requested requested) bench (fun met later =>
      met = false ∧ World.SameApart own amount bench.world later.world ∧
        later.contents = bench.contents)
      (fun _ _ => False) := by
  refine resize_rule
    (fun notLarger => absurd larger (Nat.not_lt.mpr notLarger)) fun _ => ?_
  refine grow_rule
    (fun _ _ _ => False) larger (Mediation.denies_grant held within size more)
    (fun _ denied => ⟨rfl, denied.2, rfl⟩) ?beyond ?called nofun nofun nofun
  case beyond =>
    rintro granted later ⟨impossible, -⟩
    exact nomatch impossible
  case called =>
    rintro granted later ⟨impossible, -⟩
    exact nomatch impossible

namespace Guaranteed

/-- What is left of the amount is read without a lock. -/
theorem run_readAvailable
    {world : World}
    (held : world.mediators.entry own = .capped amount used) :
    (readAvailable own amount).run world = .ok (amount - used) world := by
  have left : available own amount world = amount - used := by
    rw [available, Mediation.usage, held]
    rfl
  have lockless : Mediation.readLocks world own = [] := by
    rw [Mediation.readLocks, held]
    rfl
  show EStateM.Result.ok (available own amount world)
    (world.noteAll (Mediation.readLocks world own)) = _
  rw [left, lockless, World.noteAll_nil]

theorem run_allocate
    {world : World}
    (held : world.mediators.entry own = .capped amount used) :
    (allocate own amount below requested).run world =
      if amount - used < requested then .ok none world
      else (Mediated.allocate own below requested requested).run world := by
  rw [allocate, run_bind_of_ok (run_readAvailable held)]
  by_cases more : amount - used < requested
  · rw [if_pos more, if_pos more]
    rfl
  · rw [if_neg more, if_neg more]

theorem run_resize
    {bench : Workbench}
    (held : bench.world.mediators.entry own = .capped amount used) :
    (resize own amount below requested).run bench =
      if bench.contents.size < requested ∧
          amount - used < requested - bench.contents.size then
        .ok false bench
      else (Mediated.resize own below requested requested).run bench := by
  have read : (liftM (readAvailable own amount) : Resizing Nat).run bench =
      .ok (amount - used) bench := by
    rw [run_liftM, run_readAvailable held]
    rfl
  have sized : Resizing.size.run bench = .ok bench.contents.size bench := rfl
  rw [resize, run_bind_of_ok sized]
  by_cases larger : bench.contents.size < requested
  · rw [if_pos larger]
    refine (run_bind_of_ok read).trans ?_
    by_cases more : amount - used < requested - bench.contents.size
    · rw [if_pos more, if_pos ⟨larger, more⟩]
      rfl
    · rw [if_neg more, if_neg fun both => more both.2]
  · rw [if_neg larger, if_neg fun both => larger both.1]

end Guaranteed

end Refusing

/--
Requests to one source go together with requests to another, which may accept
another least: in two worlds that are related they end in the same way.
-/
structure Source.Twins
    (related : World → World → Prop)
    (least : Nat → Nat → Nat)
    (left right : Source) : Prop where
  allocate : ∀ {requested minimal}, minimal ≤ requested →
    EndAlike (fun _ => False) related Eq (left.allocate requested minimal)
      (right.allocate requested (least requested minimal))
  resize : ∀ {requested minimal}, minimal ≤ requested →
    EndAlike (fun _ => False) (Workbench.Related related) Eq
      (left.resize requested minimal)
      (right.resize requested (least requested minimal))
  free : ∀ size,
    EndAlike (fun _ => False) related Eq (left.free size) (right.free size)

theorem Source.Repeats.twins
    {related : World → World → Prop}
    {source : Source}
    (repeats : source.Repeats related) :
    Source.Twins related (fun _ minimal => minimal) source source where
  allocate := fun _ => repeats.allocate _ _
  resize := fun _ => repeats.resize _ _
  free := repeats.free

section Twins

variable {own amount : Nat}

open World

/-- A limit that is asked in full is a guarantee. -/
theorem Guaranteed.twins_source
    {below : Source}
    (repeats : below.Repeats (Level own amount))
    (size : amount ≤ Size.limit) :
    Source.Twins (Level own amount) max (source own amount below)
      (Mediated.source own below) where
  allocate := by
    intro requested minimal accepted left right level
    obtain ⟨used, within, held⟩ := level.capped
    rw [Nat.max_eq_left accepted]
    show EndedAlike _ _ _
      ((Guaranteed.allocate own amount below requested).run left)
      ((Mediated.allocate own below requested requested).run right)
    rw [run_allocate held]
    -- The quota denies just what the guarantee denies; all else goes the same
    -- way on both sides.
    split
    · rename_i more
      refine endedAlike_of_value (Mediated.refuses_allocate
        (level.same.mediators ▸ held) within size more) ?_
      rintro _ last ⟨rfl, went⟩
      exact ⟨rfl, level.shift (.refl left) went⟩
    · exact Mediated.repeats_allocate used_level repeats own requested
        requested _ _ level
  resize := by
    intro requested minimal accepted left right level
    obtain ⟨used, within, held⟩ := level.world.capped
    rw [Nat.max_eq_left accepted]
    show EndedAlike _ _ _
      ((Guaranteed.resize own amount below requested).run left)
      ((Mediated.resize own below requested requested).run right)
    rw [run_resize held]
    split
    · rename_i refused
      rw [level.contents] at refused
      refine endedAlike_of_value (Mediated.refuses_resize
        (level.world.same.mediators ▸ held) within size refused.1 refused.2) ?_
      rintro _ last ⟨rfl, went, same⟩
      exact ⟨rfl, level.world.shift (.refl left.world) went,
        level.contents.trans same.symm⟩
    · exact Mediated.repeats_resize used_level repeats own requested
        requested _ _ level
  free := Mediated.repeats_free used_level repeats own

/-- The calls on a guarantee and on a limit are themselves not apart. -/
theorem Operation.endAlike_called (call other : LayerCall) :
    EndAlike (fun _ => False) (Level own amount) Eq
      (note (.called (.layer (.guaranteed own amount)) call))
      (note (.called (.layer (.mediated own)) other)) :=
  endAlike_modify fun _ _ level => level.shift
    (.hidden _ (by simp [Event.apart])) (.hidden _ (by simp [Event.apart]))

theorem Source.Twins.noting
    {least : Nat → Nat → Nat}
    {left right : Source}
    (twins : Source.Twins (Level own amount) least left right) :
    Source.Twins (Level own amount) least
      (left.noting (.layer (.guaranteed own amount)))
      (right.noting (.layer (.mediated own))) where
  allocate := fun accepted => (twins.allocate accepted).bindEq fun _ =>
    (Operation.endAlike_called _ _).bindEq fun _ => endAlike_pure rfl
  resize := fun accepted => Resizing.repeats_size.bindEq fun _ =>
    (twins.resize accepted).bindEq fun _ => Resizing.repeats_size.bindEq
      fun _ => (Resizing.endAlike_liftM (Operation.endAlike_called _ _)).bindEq
      fun _ => endAlike_pure rfl
  free :=
    fun size => (Operation.endAlike_called _ _).bindEq fun _ => twins.free size

end Twins

namespace Allocator

variable {own amount : Nat}

/--
Whether an allocator has a guarantee of an amount on top, with its quota
under a number.
-/
def guarantees (own amount : Nat) (allocator : Allocator) : Bool :=
  allocator.layers.head? = some (.guaranteed own amount)

/--
An allocator with a limit in the place of the guarantee on top, if it
has one there.
-/
def limited (own amount : Nat) (allocator : Allocator) : Allocator :=
  if allocator.guarantees own amount then
    { allocator with layers := .mediated own :: allocator.layers.tail }
  else
    allocator

/-- The least that a request accepts: all of it, if it is put to a guarantee. -/
def least (own amount : Nat) (allocator : Allocator) (requested minimal : Nat) :
    Nat :=
  if allocator.guarantees own amount then max requested minimal else minimal

@[simp]
theorem limited_add (below : Allocator) :
    (below.add (.guaranteed own amount)).limited own amount =
      below.add (.mediated own) := by
  simp [limited, guarantees, add]

@[simp]
theorem least_add (below : Allocator) :
    (below.add (.guaranteed own amount)).least own amount = max := by
  funext requested minimal
  simp [least, guarantees, add]

theorem eq_add_of_guarantees
    {allocator : Allocator}
    (guarantees : allocator.guarantees own amount = true) :
    ∃ below : Allocator, allocator = below.add (.guaranteed own amount) := by
  obtain ⟨layers, heap⟩ := allocator
  have top : layers.head? = some (.guaranteed own amount) :=
    of_decide_eq_true guarantees
  obtain ⟨below, rfl⟩ := List.head?_eq_some_iff.mp top
  exact ⟨⟨below, heap⟩, rfl⟩

theorem least_le
    (allocator : Allocator)
    {requested minimal : Nat}
    (accepted : minimal ≤ requested) :
    allocator.least own amount requested minimal ≤ requested := by
  unfold least
  split
  · exact Nat.max_le.mpr ⟨Nat.le_refl requested, accepted⟩
  · exact accepted

theorem least_of_lt
    (allocator : Allocator)
    {requested minimal : Nat}
    (wrong : requested < minimal) :
    allocator.least own amount requested minimal = minimal := by
  unfold least
  split
  · exact Nat.max_eq_right (Nat.le_of_lt wrong)
  · rfl

@[simp]
theorem least_self (allocator : Allocator) (requested : Nat) :
    allocator.least own amount requested requested = requested := by
  simp [least]

/-- A call on an allocator is a call on the limit in its place, in full. -/
theorem twins_source (size : amount ≤ Size.limit) (allocator : Allocator) :
    Source.Twins (World.Level own amount) (allocator.least own amount)
      allocator.source (allocator.limited own amount).source := by
  have used := @World.used_level own amount
  by_cases guarantees : allocator.guarantees own amount = true
  · obtain ⟨below, rfl⟩ := eq_add_of_guarantees guarantees
    rw [least_add, limited_add]
    exact (Guaranteed.twins_source (below.repeats_source used) size).noting
  · have least : allocator.least own amount = fun _ minimal => minimal := by
      funext requested minimal
      exact if_neg guarantees
    rw [least, limited, if_neg guarantees]
    exact (allocator.repeats_source used).twins

end Allocator

/-- A buffer that goes back to the limit in the place of its guarantee. -/
def Buffer.limited (own amount : Nat) (buffer : Buffer) : Buffer :=
  { buffer with originator := buffer.originator.limited own amount }

namespace Allocator

variable {own amount : Nat} (size : amount ≤ Size.limit) (allocator : Allocator)

open World

theorem endAlike_emit (diagnostics others : List Diagnostic) :
    EndAlike (fun _ => False) (Level own amount) Eq (Operation.emit diagnostics)
      (Operation.emit others) :=
  endAlike_modify fun _ _ level =>
    level.shift (.told _ diagnostics) (.told _ others)

include size

theorem twins_allocate (requested minimal : Nat) :
    EndAlike (fun _ => False) (Level own amount)
      (fun result other => other = result.map (Buffer.limited own amount))
      (allocator.allocate requested minimal)
      ((allocator.limited own amount).allocate requested
        (allocator.least own amount requested minimal)) := by
  rw [allocate, allocate, checkRequest, checkRequest]
  by_cases wrong : requested < minimal
  · rw [allocator.least_of_lt wrong, if_pos wrong]
    exact endAlike_throw _
  · have accepted := Nat.not_lt.mp wrong
    rw [if_neg wrong, if_neg (Nat.not_lt.mpr (allocator.least_le accepted))]
    refine (endAlike_ofExcept _).bindEq fun _ => ?_
    refine ((allocator.twins_source size).allocate accepted).bindEq
      fun result => ?_
    refine (endAlike_emit _ _).bindEq fun _ => endAlike_pure ?_
    cases result with
    | none => rfl
    | some contents => rfl

theorem twins_resize (requested minimal : Nat) :
    EndAlike (fun _ => False) (Workbench.Related (Level own amount)) Eq
      (allocator.resize requested minimal)
      ((allocator.limited own amount).resize requested
        (allocator.least own amount requested minimal)) := by
  rw [resize, resize, checkRequest, checkRequest]
  by_cases wrong : requested < minimal
  · rw [allocator.least_of_lt wrong, if_pos wrong]
    exact endAlike_throw _
  · have accepted := Nat.not_lt.mp wrong
    rw [if_neg wrong, if_neg (Nat.not_lt.mpr (allocator.least_le accepted))]
    refine (Resizing.repeats_ofExcept _).bindEq fun _ => ?_
    refine ((allocator.twins_source size).resize accepted).bindEq fun met => ?_
    refine Resizing.repeats_size.bindEq fun _ => ?_
    exact (Resizing.endAlike_liftM (endAlike_emit _ _)).bindEq fun _ =>
      endAlike_pure rfl

theorem twins_tryResize (requested : Nat) :
    EndAlike (fun _ => False) (Workbench.Related (Level own amount)) Eq
      (allocator.tryResize requested)
      ((allocator.limited own amount).tryResize requested) := by
  have resized := @twins_resize own amount size allocator requested requested
  rw [allocator.least_self] at resized
  refine resized.bindEq fun met => EndAlike.ite (endAlike_pure rfl) ?_
  exact Resizing.repeats_size.bindEq fun _ => endAlike_pure rfl

end Allocator

end BufferBudget
