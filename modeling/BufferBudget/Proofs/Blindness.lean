import BufferBudget.Proofs.Change
import BufferBudget.Proofs.Companions

/-!
# What does not enforce does not see

A tracked layer that does not enforce charges its tracker in one of two ways,
depending on what the limits admit, and goes on as before in either case.  So
nothing that an allocator answers can tell which of the two it was: limits,
ancestors and consumption of the trackers that its layers charge make no
difference to sizes, bytes, budgets or tallies.

This is a statement about two runs.  The worlds of the two agree beside their
trackers, and one layer of the one may charge other trackers than its companion
does; in between, trackers may be charged past all allocators on either side.
The one thing that a tracker can do to a run is to stop it, where a counter
leaves its range, and there the comparison ends.
-/

namespace BufferBudget

/--
Two worlds are the same, but for their trackers and for what has been noted.
-/
structure World.SameBesideTrackers (left right : World) : Prop where
  mediators : left.mediators = right.mediators
  tallies : left.tallies = right.tallies
  probes : left.probes = right.probes

/-- Two layers are the same, or both charge trackers without enforcing. -/
inductive Layer.SameBesideTrackers : Layer → Layer → Prop where
  | same
      {layer : Layer}
      (untracked : ∀ lineage enforcing, layer ≠ .tracked lineage enforcing) :
      SameBesideTrackers layer layer
  | tracked (lineage other : Lineage) :
      SameBesideTrackers (.tracked lineage false) (.tracked other false)

/--
Two allocators are the same, but for the trackers that their layers charge
without enforcing.
-/
structure Allocator.SameBesideTrackers (left right : Allocator) : Prop where
  heap : left.heap = right.heap
  layers : List.Forall₂ Layer.SameBesideTrackers left.layers right.layers

namespace World.SameBesideTrackers

variable {left right later last middle : World}

theorem refl (world : World) : world.SameBesideTrackers world :=
  ⟨rfl, rfl, rfl⟩

theorem symm (same : left.SameBesideTrackers right) :
    right.SameBesideTrackers left :=
  ⟨same.mediators.symm, same.tallies.symm, same.probes.symm⟩

theorem trans
    (same : left.SameBesideTrackers middle)
    (further : middle.SameBesideTrackers right) :
    left.SameBesideTrackers right :=
  ⟨same.mediators.trans further.mediators, same.tallies.trans further.tallies,
    same.probes.trans further.probes⟩

/-- What is noted on either side makes no difference. -/
theorem note (same : left.SameBesideTrackers right) (event other : Event) :
    (left.note event).SameBesideTrackers (right.note other) :=
  ⟨same.mediators, same.tallies, same.probes⟩

theorem noteAll
    (same : left.SameBesideTrackers right)
    (events others : List Event) :
    (left.noteAll events).SameBesideTrackers (right.noteAll others) :=
  ⟨same.mediators, same.tallies, same.probes⟩

/-- An access to a mediator that books the same on both sides. -/
theorem around
    (same : left.SameBesideTrackers right)
    {change : World → World}
    (booked : ∀ {middle other : World}, middle.SameBesideTrackers other →
      (change middle).SameBesideTrackers (change other))
    (came : left.Around change later)
    (went : right.Around change last) :
    later.SameBesideTrackers last := by
  obtain ⟨before, after, -, -, rfl⟩ := came
  obtain ⟨earlier, others, -, -, rfl⟩ := went
  exact (booked (same.noteAll before earlier)).noteAll after others

theorem setMediator
    (same : left.SameBesideTrackers right)
    (key : Nat)
    (mediator : Mediator) :
    (left.setMediator key mediator).SameBesideTrackers
      (right.setMediator key mediator) :=
  ⟨congrArg (·.set key mediator) same.mediators, same.tallies, same.probes⟩

/-- Whatever is done to trackers is beside the point. -/
theorem of_tracks
    {trackers : List Nat}
    (reached : Relation.ReflTransGen (World.TrackerStep trackers) left later) :
    left.SameBesideTrackers later := by
  induction reached with
  | refl => exact refl left
  | tail _ step ih => cases step <;> exact ⟨ih.mediators, ih.tallies, ih.probes⟩

end World.SameBesideTrackers

/--
Worlds are alike if they are the same beside their trackers.  Nothing is
compared once a counter of a tracker has left its range.
-/
def Likeness.besideTrackers : Likeness where
  Worlds := World.SameBesideTrackers
  Exact := True
  Excused := Fault.OfAmount
  note := fun _ same => same.note _ _

namespace Likeness

theorem mediates_besideTrackers (mediator : Nat) :
    besideTrackers.Mediates mediator where
  available :=
    fun same => by rw [Mediation.available, Mediation.available, same.mediators]
  usage := fun same => by rw [Mediation.usage, Mediation.usage, same.mediators]
  readLocks := fun _ still => still.noteAll _ _
  allocate := by
    intro requested minimal left right same
    have entry : right.mediators.entry mediator =
        left.mediators.entry mediator := by
      rw [same.mediators]
    cases answer :
      (left.mediators.entry mediator).allocate requested minimal with
    | ok booked =>
        obtain ⟨granted, next⟩ := booked
        refine endedAlike_of_values (Mediation.ends_allocate answer)
          (Mediation.ends_allocate (entry.symm ▸ answer)) ?_
        rintro _ later _ last ⟨rfl, came⟩ ⟨rfl, went⟩
        refine ⟨rfl, same.around (fun booked => ?_) came went⟩
        exact (booked.setMediator mediator next).note _ _
    | error fault =>
        refine endedAlike_of_faults (Mediation.ends_allocate_error answer)
          (Mediation.ends_allocate_error (entry.symm ▸ answer)) ?_
        rintro _ later _ last ⟨rfl, came⟩ ⟨rfl, went⟩
        exact ⟨rfl, same.around (fun booked => booked) came went⟩
  free := by
    intro amount left right same
    refine endedAlike_of_values (Mediation.ends_free mediator amount left)
      (Mediation.ends_free mediator amount right) ?_
    intro _ later _ last came went
    refine ⟨rfl, same.around (fun {middle other} booked => ?_) came went⟩
    have entry : middle.mediators.entry mediator =
        other.mediators.entry mediator := by
      rw [booked.mediators]
    rw [World.repay, World.repay, entry]
    exact (booked.setMediator mediator _).note _ _

theorem tallies_besideTrackers (tally : Nat) :
    besideTrackers.Tallies tally := by
  intro report
  refine endAlike_modify fun left right same =>
    ⟨same.mediators, ?_, same.probes⟩
  show left.tallies.set tally _ = right.tallies.set tally _
  rw [same.tallies]

theorem probes_besideTrackers (probe : Nat) : besideTrackers.Probes probe := by
  intro screen
  refine endAlike_get.bind fun left right same => ?_
  refine EndAlike.bindEq (endAlike_modify fun later last still => ?_) fun _ =>
    endAlike_pure ?_
  · refine ⟨still.mediators, still.tallies, ?_⟩
    show later.probes.set probe _ = last.probes.set probe _
    rw [still.probes]
  · rw [same.probes]

/-- A ceiling is moved on both sides alike. -/
theorem operations_setCeiling (mediator ceiling : Nat) :
    besideTrackers.Operations Eq (Mediation.setCeiling mediator ceiling)
      (Mediation.setCeiling mediator ceiling) := by
  intro left right same
  refine endedAlike_of_values (Mediation.ends_setCeiling mediator ceiling left)
    (Mediation.ends_setCeiling mediator ceiling right) ?_
  intro _ later _ last came went
  refine ⟨rfl, same.around (fun {middle other} booked => ?_) came went⟩
  rw [World.setCeiling, World.setCeiling, booked.mediators]
  exact booked.setMediator mediator _

end Likeness

namespace Tracked

/-- A charge that is not enforced always lets an attempt go on. -/
theorem charge_goes_on (lineage : Lineage) (size : Nat) (world : World) :
    Ends (charge lineage false size) world
      (fun admitted later => admitted = true ∧ world.SameBesideTrackers later)
      (fun fault _ => fault.OfAmount) := by
  have tried :=
    (Charging.tracks_tryConsume lineage (Amount.ofSize size) world).mono
      (fun _ _ reached => World.SameBesideTrackers.of_tracks reached)
      fun _ _ stopped => stopped.2
  refine charge_rule tried (fun _ same => ⟨rfl, same⟩)
    (fun _ _ enforced => nomatch enforced) ?_
  intro later same _
  exact (Charging.tracks_consume lineage _ later).mono
    (fun _ _ reached => ⟨rfl, same.trans (.of_tracks reached)⟩)
    fun _ _ stopped => stopped.2

/-- Two layers that do not enforce are alike, whatever trackers they charge. -/
theorem alike_besideTrackers (lineage other : Lineage) :
    Alike .besideTrackers lineage false other false where
  available := fun _ => rfl
  charge := by
    intro size left right same
    refine endedAlike_of_ends (charge_goes_on lineage size left)
      (charge_goes_on other size right) ?_
    rintro _ later _ last ⟨rfl, came⟩ ⟨rfl, went⟩
    exact ⟨rfl, came.symm.trans (same.trans went)⟩
  discharge := by
    intro size left right same
    refine endedAlike_of_ends
      ((tracks_discharge lineage size left).mono (fun _ _ reached => reached)
        fun _ _ stopped => stopped.2)
      ((tracks_discharge other size right).mono (fun _ _ reached => reached)
        fun _ _ stopped => stopped.2) ?_
    intro _ later _ last came went
    exact ⟨rfl, (World.SameBesideTrackers.of_tracks came).symm.trans
      (same.trans (.of_tracks went))⟩

end Tracked

theorem Layer.SameBesideTrackers.alike_over
    {layer other : Layer}
    {left right : Source}
    (same : layer.SameBesideTrackers other)
    (alike : left.Alike .besideTrackers right) :
    (layer.over left).Alike .besideTrackers (other.over right) := by
  cases same with
  | same untracked =>
      exact Layer.alike_over untracked Likeness.mediates_besideTrackers
        Likeness.tallies_besideTrackers Likeness.probes_besideTrackers alike
  | tracked lineage other =>
      exact Tracked.alike_source
        (Tracked.alike_besideTrackers lineage other) alike

/--
Allocators that differ in the trackers alone that they charge without
enforcing are alike.
-/
theorem Allocator.SameBesideTrackers.alike_source
    {left right : Allocator}
    (same : left.SameBesideTrackers right) :
    left.source.Alike .besideTrackers right.source := by
  obtain ⟨layers, heap⟩ := left
  obtain ⟨others, other⟩ := right
  obtain ⟨rfl, together⟩ := same
  dsimp only at together
  induction together with
  | nil => exact (Heap.alike_source heap).noting .heap .heap
  | cons first _ ih => exact (first.alike_over ih).noting (.layer _) (.layer _)

/-- Whether a call is made on a tracker past all allocators. -/
def Call.onTracker : Call → Bool
  | .tryConsume _ _ | .consume _ _ | .release _ _ => true
  | _ => false

theorem Likeness.shares_besideTrackers
    {call : Call}
    (apart : call.onTracker = false) :
    besideTrackers.Shares call := by
  cases call with
  | setCeiling mediator ceiling => exact operations_setCeiling mediator ceiling
  | mediatorAllocate mediator requested minimal =>
      exact (mediates_besideTrackers mediator).allocate requested minimal
  | mediatorFree mediator amount =>
      exact (mediates_besideTrackers mediator).free amount
  | tryConsume => exact nomatch apart
  | consume => exact nomatch apart
  | release => exact nomatch apart
  | _ => exact trivial

namespace Session

/-- Two sessions are the same, but for the trackers. -/
abbrev SameBesideTrackers (left right : Session) : Prop :=
  left.Alike .besideTrackers Allocator.SameBesideTrackers right

/--
No call of a run stops because a counter of a tracker would leave its range.
-/
def StaysInRange (session : Session) (calls : List Call) : Prop :=
  ∀ entry ∈ session.transcript calls, ∀ fault,
    entry.2.fault? = some fault → ¬fault.OfAmount

variable {left right : Session}

theorem sameBesideTrackers_start
    {world other : World}
    (same : world.SameBesideTrackers other) :
    (start world).SameBesideTrackers (start other) :=
  ⟨same, fun _ => .none⟩

theorem run_tracks
    {α : Type}
    {trackers : List Nat}
    {operation : Operation α}
    (tracks : Operation.Tracks trackers operation)
    (session : Session) :
    session.world.SameBesideTrackers (session.run operation).2.world ∧
      (session.run operation).2.shelf = session.shelf :=
  run_rule (fun _ later => session.world.SameBesideTrackers later.world ∧
      later.shelf = session.shelf)
    ((tracks session.world).mono (fun _ _ reached => ⟨.of_tracks reached, rfl⟩)
      fun _ _ reached => ⟨.of_tracks reached.1, rfl⟩)

/-- A call on a tracker leaves a session the same beside its trackers. -/
theorem perform_onTracker
    {call : Call}
    (own : call.onTracker = true)
    (session : Session) :
    session.world.SameBesideTrackers (session.perform call).2.world ∧
      (session.perform call).2.shelf = session.shelf := by
  cases call with
  | tryConsume lineage bytes =>
      exact run_tracks (Charging.tracks_tryConsume lineage bytes) session
  | consume lineage bytes =>
      exact run_tracks (Charging.tracks_consume lineage bytes) session
  | release lineage bytes =>
      exact run_tracks (Charging.tracks_release lineage bytes) session
  | _ => exact nomatch own

theorem SameBesideTrackers.aside
    {call : Call}
    (own : call.onTracker = true)
    (same : left.SameBesideTrackers right) :
    (left.perform call).2.SameBesideTrackers right ∧
      left.SameBesideTrackers (right.perform call).2 := by
  obtain ⟨came, kept⟩ := perform_onTracker own left
  obtain ⟨went, keptToo⟩ := perform_onTracker own right
  exact ⟨⟨came.symm.trans same.world, kept ▸ same.shelf⟩,
    ⟨World.SameBesideTrackers.trans same.world went, keptToo ▸ same.shelf⟩⟩

theorem SameBesideTrackers.perform
    {call other : Call}
    (same : left.SameBesideTrackers right)
    (calls : call.SameBut Allocator.SameBesideTrackers other)
    (apart : call.onTracker = false) :
    AnswersAlike .besideTrackers Allocator.SameBesideTrackers
      (left.perform call) (right.perform other) :=
  Alike.perform (fun together => together.alike_source) same calls
    (Likeness.shares_besideTrackers apart) fun _ _ _ _ => trivial

/--
In two runs that go side by side, from sessions that are the same but for the
trackers, and on allocators that charge their trackers without enforcing,
nothing differs but the trackers: limits, ancestors and earlier consumption may
differ, and trackers may be charged past all allocators at any point of either
run.  As long as no counter leaves its range, all other calls are answered the
same, with the same bytes.  Afterwards the same handles hold the same bytes, and
mediators, tallies and probes are the same, and any two allocators that go
together report the same to have left.
-/
theorem non_enforcing_is_blind
    (same : left.SameBesideTrackers right)
    {calls others : List Call}
    (abreast : Call.Abreast (Call.SameBut Allocator.SameBesideTrackers)
      Call.onTracker calls others)
    (inRange : left.StaysInRange calls)
    (inRangeToo : right.StaysInRange others) :
    let later := left.performAll calls
    let last := right.performAll others
    left.answersBut Call.onTracker calls =
        right.answersBut Call.onTracker others ∧
      (∀ handle, (later.shelf.find? handle).map (·.contents) =
        (last.shelf.find? handle).map (·.contents)) ∧
      later.world.mediators = last.world.mediators ∧
      later.world.tallies = last.world.tallies ∧
      later.world.probes = last.world.probes ∧
      ∀ allocator other : Allocator, allocator.SameBesideTrackers other →
        allocator.available later.world = other.available last.world := by
  intro later last
  obtain ⟨answers, still⟩ := Alike.performAll SameBesideTrackers.perform
    SameBesideTrackers.aside same abreast inRange inRangeToo
  refine ⟨?_, still.contents_eq trivial, still.world.mediators,
    still.world.tallies, still.world.probes, ?_⟩
  · exact List.forall₂_eq_eq_eq ▸ answers.imp fun _ _ alike => alike.eq trivial
  · intro allocator other together
    exact together.alike_source.available still.world

/--
The heap refuses the first size that is tried, and the trackers of one run, with
limits that are past already, are charged besides: the answers are those of a
run on an unlimited tracker, although far more is counted.
-/
theorem non_enforcing_is_blind_past_limits :
    let heap : Heap := { serves := fun size => size < 24 }
    let allocator : Allocator :=
      { layers := [.tallied 0, .tracked ⟨0, [1]⟩ false, .mediated 0], heap }
    let other : Allocator :=
      { layers := [.tallied 0, .tracked ⟨0, []⟩ false, .mediated 0], heap }
    let quota : Mediator := .ofQuota (.ofCeiling 40 true false)
    let left := start
      (.start [quota] [.fresh "query" (some 10), .fresh "server" (some 5)])
    let right := start (.start [quota] [.fresh "query" none])
    let calls : List Call :=
      [.consume ⟨1, []⟩ 7, .allocate 0 allocator 30 20, .tryConsume ⟨0, [1]⟩ 3,
        .resize 0 none 23 21, .tryAllocate 1 allocator 50 18]
    let others : List Call :=
      [.allocate 0 other 30 20, .resize 0 none 23 21, .release ⟨0, []⟩ 9,
        .tryAllocate 1 other 50 18]
    left.answersBut Call.onTracker calls =
        right.answersBut Call.onTracker others ∧
      ((left.performAll calls).world.trackers.entry 0).consumption = 23 ∧
      ((right.performAll others).world.trackers.entry 0).consumption = 14 := by
  intro heap allocator other quota left right calls others
  have together : allocator.SameBesideTrackers other :=
    ⟨rfl, .cons (.same nofun) (.cons (.tracked _ _) (.cons (.same nofun) .nil))⟩
  have same : left.SameBesideTrackers right :=
    sameBesideTrackers_start ⟨rfl, rfl, rfl⟩
  have abreast : Call.Abreast (Call.SameBut Allocator.SameBesideTrackers)
      Call.onTracker calls others :=
    .left rfl (.both (.allocate 0 30 20 together) ⟨rfl, rfl⟩ (.left rfl
      (.both (.resize 0 23 21 .none) ⟨rfl, rfl⟩ (.right rfl
        (.both (.tryAllocate 1 50 18 together) ⟨rfl, rfl⟩ .nil)))))
  have ended : ∀ entry ∈ left.transcript calls,
      entry.2.fault? = none := by decide +kernel
  have endedToo : ∀ entry ∈ right.transcript others,
      entry.2.fault? = none := by decide +kernel
  refine ⟨(non_enforcing_is_blind same abreast ?_ ?_).1,
    by decide +kernel, by decide +kernel⟩
  · exact fun entry member fault stopped =>
      nomatch (ended entry member).symm.trans stopped
  · exact fun entry member fault stopped =>
      nomatch (endedToo entry member).symm.trans stopped

end Session

end BufferBudget
