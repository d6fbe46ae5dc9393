import BufferBudget.Proofs.Atomicity
import BufferBudget.Proofs.Course
import BufferBudget.Proofs.Run

/-!
# Refusals leave no trace

The contract of sources about refusals, carried up to the calls of a session.  A
call that is refused leaves every buffer as it was and the world where it stood,
unless a charge has overrun a tracker on the way.

What an allocator over quotas reports to have left can be read off the standing
of the world, so it is as it was too.
-/

namespace BufferBudget

/-- A mediator is a quota. -/
def World.IsQuota (world : World) (mediator : Nat) : Prop :=
  ∃ quota, world.mediators.entry mediator = .ofQuota quota

/-- Every mediator that an allocator charges is a quota. -/
def Allocator.OnQuotas (allocator : Allocator) (world : World) : Prop :=
  ∀ layer ∈ allocator.layers, ∀ mediator, layer.charges mediator = true →
    world.IsQuota mediator

section Readings

variable {world later : World}

/-- A quota is its standing. -/
theorem World.IsQuota.entry_of_standing
    {mediator : Nat}
    (isQuota : world.IsQuota mediator)
    (same : later.standing = world.standing) :
    later.mediators.entry mediator = world.mediators.entry mediator := by
  obtain ⟨quota, held⟩ := isQuota
  have stands := congrFun (congrArg Standing.mediators same) mediator
  rw [held]
  refine Mediator.eq_ofQuota_of_standing (stands.trans ?_)
  exact congrArg Mediator.standing held

theorem Charging.spare_of_standing
    (same : later.standing = world.standing)
    (lineage : Lineage) :
    spare later lineage = spare world lineage := by
  have headrooms : ∀ tracker, headroom (later.trackers.entry tracker) =
      headroom (world.trackers.entry tracker) := by
    intro tracker
    have limit : (later.trackers.entry tracker).limit =
        (world.trackers.entry tracker).limit :=
      congrFun (congrArg Standing.limits same) tracker
    have consumption : (later.trackers.entry tracker).consumption =
        (world.trackers.entry tracker).consumption :=
      congrFun (congrArg Standing.consumption same) tracker
    rw [headroom, headroom, limit, consumption]
  rw [spare, spare]
  induction lineage.members with
  | nil => rfl
  | cons tracker rest ih => rw [spareOf, spareOf, headrooms, ih]

theorem Mediated.available_of_entry
    {below : Source}
    {mediator : Nat}
    (entry : later.mediators.entry mediator = world.mediators.entry mediator)
    (sameBelow : below.available later = below.available world) :
    available mediator below later = available mediator below world := by
  rw [available, available, Mediation.available, Mediation.available,
    entry, sameBelow]

/--
A layer reads nothing but the standing of its own accounts and the source below.
-/
theorem Layer.available_over_of_standing
    (layer : Layer)
    {below : Source}
    (same : later.standing = world.standing)
    (quotas : ∀ mediator, layer.charges mediator = true →
      world.IsQuota mediator)
    (sameBelow : below.available later = below.available world) :
    (layer.over below).available later =
      (layer.over below).available world := by
  have entry : ∀ mediator, layer.charges mediator = true →
      later.mediators.entry mediator = world.mediators.entry mediator :=
    fun mediator charged => (quotas mediator charged).entry_of_standing same
  cases layer with
  | mediated mediator =>
      exact Mediated.available_of_entry
        (entry mediator (decide_eq_true rfl)) sameBelow
  | bypass mediator amount =>
      have own := entry mediator (decide_eq_true rfl)
      have usage : Mediation.usage later mediator =
          Mediation.usage world mediator :=
        congrArg Mediator.usage own
      have rest := Mediated.available_of_entry own sameBelow
      show Bypass.available mediator amount below later = _
      rw [Bypass.available, usage, rest]
      rfl
  | guaranteed mediator amount =>
      have own := entry mediator (decide_eq_true rfl)
      have usage : Mediation.usage later mediator =
          Mediation.usage world mediator :=
        congrArg Mediator.usage own
      show Except.ok (Guaranteed.available mediator amount later) = _
      rw [Guaranteed.available, usage]
      rfl
  | tracked lineage enforcing =>
      show Tracked.available lineage enforcing later = _
      rw [Tracked.available, Charging.spare_of_standing same]
      rfl
  | clearing => exact sameBelow
  | tallied tally => exact sameBelow
  | locked lock => exact sameBelow
  | relay => exact sameBelow
  | probe number screen => rfl

/--
What an allocator over quotas has left can be read off where the world stands.
-/
theorem Allocator.available_of_standing
    {allocator : Allocator}
    (onQuotas : allocator.OnQuotas world)
    (same : later.standing = world.standing) :
    allocator.available later = allocator.available world := by
  obtain ⟨layers, heap⟩ := allocator
  induction layers with
  | nil => rfl
  | cons layer layers ih =>
      refine layer.available_over_of_standing same
        (onQuotas layer List.mem_cons_self) ?_
      exact ih fun other member =>
        onQuotas other (List.mem_cons_of_mem layer member)

end Readings

namespace World.Changes

variable {world later : World}

/-- What has happened stays on the trail. -/
theorem trail (changes : world.Changes later) :
    ∃ events, later.trail = events ++ world.trail := by
  induction changes with
  | refl => exact ⟨[], rfl⟩
  | tail _ step ih =>
      obtain ⟨events, earlier⟩ := ih
      have noted : ∀ event : Event, ∃ more, event :: _ = more ++ world.trail :=
        fun event => ⟨event :: events, congrArg (event :: ·) earlier⟩
      cases step with
      | onTracker step =>
          cases step with
          | note event aside => exact noted event
          | store member consumption => exact ⟨events, earlier⟩
          | reach member consumption => exact ⟨events, earlier⟩
      | call site call => exact noted (.called site call)
      | grant mediator requested minimal granted next answer =>
          exact noted
            (.mediated mediator (.allocated requested minimal granted))
      | repay mediator amount =>
          exact noted (.mediated mediator (.freed amount))
      | report tally account => exact ⟨events, earlier⟩
      | count probe => exact ⟨events, earlier⟩

theorem measured (changes : world.Changes later) (measured : world.Measured) :
    later.Measured := by
  induction changes with
  | refl => exact measured
  | tail _ step ih =>
      cases step with
      | onTracker step =>
          cases step with
          | note event aside => exact ih
          | store member consumption => exact ih.store _ consumption
          | reach member consumption => exact ih.reach _ consumption
      | call site call => exact ih
      | grant mediator requested minimal granted next answer => exact ih
      | repay mediator amount => exact ih
      | report tally account => exact ih
      | count probe => exact ih

/-- A quota stays one. -/
theorem isQuota
    (changes : world.Changes later)
    {mediator : Nat}
    (isQuota : world.IsQuota mediator) :
    later.IsQuota mediator := by
  induction changes with
  | refl => exact isQuota
  | tail _ step ih =>
      obtain ⟨quota, held⟩ := ih
      rcases step.mediator_cases mediator with same |
        ⟨requested, minimal, granted, answer⟩ | ⟨amount, paid⟩
      · exact ⟨quota, same.trans held⟩
      · rcases Mediator.allocate_cases answer with
          ⟨_, _, _, booked⟩ | ⟨_, other, _⟩
        · exact ⟨_, booked⟩
        · exact nomatch held.symm.trans other
      · rw [held] at paid
        exact ⟨quota.free amount, paid⟩

/-- Where nothing that is watched for has happened since, none of it has. -/
theorem clear
    (changes : world.Changes later)
    {kind : Event → Bool}
    (none : ∀ event ∈ later.since world.age, kind event = false) :
    (world.watch kind).Clear later := by
  obtain ⟨events, trail⟩ := changes.trail
  have since : later.since world.age = events.reverse := by
    simp [World.since, World.age, trail]
  have count : events.countP kind = 0 := by
    refine List.countP_eq_zero.mpr fun event member => ?_
    exact Bool.not_eq_true _ ▸ none event (since ▸ List.mem_reverse.mpr member)
  have same : later.trail.countP kind = world.trail.countP kind := by
    rw [trail, List.countP_append, count, Nat.zero_add]
  exact Nat.le_of_eq same

end World.Changes

/-- Watches for a tracker to be overrun from now on. -/
def World.overrunWatch (world : World) : Watch :=
  world.watch fun event => event.Overruns

theorem World.Fresh.measured {world : World} (fresh : world.Fresh) :
    world.Measured := by
  intro key
  rw [fresh.trackers key]
  decide

namespace Allocator

variable {watch : Watch} {standing : Standing}

theorem atomic_allocate
    (allocator : Allocator)
    {world : World}
    (requested minimal : Nat)
    (rests : RestsAt watch standing world) :
    Ends (allocator.allocate requested minimal) world
      (fun result later => result = none → RestsAt watch standing later)
      (fun _ _ => True) := by
  refine allocate_rule (ReturnsTo watch standing) (fun _ => trivial)
    (fun _ => allocator.atomic_source.allocate requested minimal rests) ?_
  exact fun _ _ returns diagnostics refused =>
    (returns (Option.map_eq_none_iff.mp refused)).noteAll _

theorem atomic_tryAllocate
    (allocator : Allocator)
    {world : World}
    (requested minimal : Nat)
    (rests : RestsAt watch standing world) :
    Ends (allocator.tryAllocate requested minimal) world (fun result later =>
      ∀ refusal, result = .error refusal → RestsAt watch standing later)
      (fun _ _ => True) := by
  refine tryAllocate_rule (allocator.atomic_allocate requested minimal rests)
    (fun _ _ _ => nofun) ?_
  intro later refused
  exact Source.readAvailable_rule (fun _ _ _ _ => (refused rfl).noteAll _)
    fun _ _ => trivial

theorem atomic_resize
    (allocator : Allocator)
    {bench : Workbench}
    (requested minimal : Nat)
    (rests : RestsAt watch standing bench.world) :
    Ends (allocator.resize requested minimal) bench
      (ResizingReturnsTo watch standing bench.contents) (fun _ _ => True) := by
  refine resize_rule (ResizingReturnsTo watch standing bench.contents)
    (fun _ => trivial) (fun _ =>
      allocator.atomic_source.resize requested minimal rests) ?_
  exact fun _ _ returns diagnostics refused =>
    ⟨(returns refused).1.noteAll _, (returns refused).2⟩

theorem atomic_tryResize
    (allocator : Allocator)
    {bench : Workbench}
    (requested : Nat)
    (rests : RestsAt watch standing bench.world) :
    Ends (allocator.tryResize requested) bench (fun refusal later =>
        ResizingReturnsTo watch standing bench.contents refusal.isNone later)
      (fun _ _ => True) :=
  tryResize_rule (ResizingReturnsTo watch standing bench.contents)
    (allocator.atomic_resize requested requested rests)
    (fun _ _ => resizingReturnsTo_true) (fun _ returns => returns)

end Allocator

/-- Putting back what is held changes nothing. -/
theorem Shelf.insert_of_find?
    {α : Type}
    {shelf : Shelf α}
    {key : Nat}
    {value : α}
    (held : shelf.find? key = some value) :
    shelf.insert key value = shelf := by
  apply Shelf.ext
  intro other
  rw [Shelf.find?_insert]
  split
  · rename_i same
    exact same ▸ held.symm
  · rfl

namespace Session

/--
The session in which a call puts its request.  What is held under the handle of
a request for a new buffer has been given back by then.
-/
def vacatedFor (session : Session) : Call → Session
  | .allocate handle _ _ _ => (session.release handle).2
  | .tryAllocate handle _ _ _ => (session.release handle).2
  | _ => session

/--
A call was not refused, or it has left all buffers as they were in a session and
the world where it stood.
-/
def LeavesNoTrace (session : Session) (outcome : Answer × Session) : Prop :=
  outcome.1.refuses = true →
    RestsAt session.world.overrunWatch session.world.standing outcome.2.world ∧
      outcome.2.shelf = session.shelf

variable {session : Session}

theorem rests_self (measured : session.world.Measured) :
    RestsAt session.world.overrunWatch session.world.standing session.world :=
  .now measured fun _ _ _ _ _ beyond => decide_eq_true beyond

theorem leavesNoTrace_of_not_refuses
    {outcome : Answer × Session}
    (notRefused : outcome.1.refuses = false) :
    session.LeavesNoTrace outcome :=
  fun refused => absurd (notRefused.symm.trans refused) nofun

theorem leavesNoTrace_allocateInto
    (measured : session.world.Measured)
    (handle : Nat)
    (allocator : Allocator)
    (requested minimal : Nat) :
    let (result, later) :=
      session.allocateInto handle allocator requested minimal
    session.LeavesNoTrace (.allocated result, later) ∧
      session.LeavesNoTrace (.resized (result.map Option.isSome)
        (result.toOption.bind id), later) := by
  refine allocateInto_rule
    (fun result later => session.LeavesNoTrace (.allocated result, later) ∧
      session.LeavesNoTrace (.resized (result.map Option.isSome)
        (result.toOption.bind id), later)) ?_
  refine (allocator.atomic_allocate requested minimal
    (rests_self measured)).mono ?_ ?_
  · intro result later returns
    refine ⟨fun refused => ?_, fun buffer _ => ⟨nofun, nofun⟩⟩
    exact ⟨fun _ => ⟨returns refused, rfl⟩, fun _ => ⟨returns refused, rfl⟩⟩
  · exact fun _ _ _ => ⟨nofun, nofun⟩

theorem leavesNoTrace_tryAllocateInto
    (measured : session.world.Measured)
    (handle : Nat)
    (allocator : Allocator)
    (requested minimal : Nat) :
    let (result, later) :=
      session.tryAllocateInto handle allocator requested minimal
    session.LeavesNoTrace (.tried result, later) := by
  refine tryAllocateInto_rule
    (fun result later => session.LeavesNoTrace (.tried result, later)) ?_
  refine (allocator.atomic_tryAllocate requested minimal
    (rests_self measured)).mono ?_ ?_
  · exact fun _ later returns => ⟨fun refusal refused _ =>
      ⟨returns refusal refused, rfl⟩, fun _ _ => nofun⟩
  · exact fun _ _ _ => nofun

/-- A resizing under a handle is refused in place. -/
theorem leavesNoTrace_resizeHeld
    {α : Type}
    {handle : Nat}
    {buffer : Buffer}
    (held : session.shelf.find? handle = some buffer)
    {resizing : Resizing α}
    (answer : Except Fault α → Contents → Answer)
    (met : α → Bool)
    (stops : ∀ fault contents, (answer (.error fault) contents).refuses = false)
    (refuses : ∀ value contents,
      (answer (.ok value) contents).refuses = !met value)
    (atomic : Ends resizing
      { world := session.world, contents := buffer.contents } (fun value =>
        ResizingReturnsTo session.world.overrunWatch session.world.standing
        buffer.contents (met value)) (fun _ _ => True)) :
    let (result, contents, later) := session.resizeHeld handle buffer resizing
    session.LeavesNoTrace (answer result contents, later) := by
  refine resizeHeld_rule (fun result contents later =>
    session.LeavesNoTrace (answer result contents, later)) ?_
  refine atomic.mono ?_ fun fault later _ =>
    leavesNoTrace_of_not_refuses (stops fault _)
  intro value later returns refused
  rw [refuses, Bool.not_eq_true'] at refused
  obtain ⟨rests, same⟩ := returns refused
  exact ⟨rests, same ▸ Shelf.insert_of_find? held⟩

theorem leavesNoTrace_resize
    (measured : session.world.Measured)
    {handle : Nat}
    {buffer : Buffer}
    (held : session.shelf.find? handle = some buffer)
    (allocator : Allocator)
    (requested minimal : Nat) :
    let (result, contents, later) :=
      session.resizeHeld handle buffer (allocator.resize requested minimal)
    session.LeavesNoTrace (.resized result (some contents), later) := by
  refine leavesNoTrace_resizeHeld held
    (fun result contents => .resized result (some contents))
    id (fun _ _ => rfl) ?_ ?_
  · intro met contents
    cases met with
    | true => rfl
    | false => rfl
  · exact @Allocator.atomic_resize _ _ allocator
      { world := session.world, contents := buffer.contents } requested minimal
      (rests_self measured)

theorem leavesNoTrace_tryResize
    (measured : session.world.Measured)
    {handle : Nat}
    {buffer : Buffer}
    (held : session.shelf.find? handle = some buffer)
    (allocator : Allocator)
    (requested : Nat) :
    let (result, contents, later) :=
      session.resizeHeld handle buffer (allocator.tryResize requested)
    session.LeavesNoTrace (.triedResize result contents, later) := by
  refine leavesNoTrace_resizeHeld held .triedResize Option.isNone
    (fun _ _ => rfl) ?_ ?_
  · intro refusal contents
    cases refusal with
    | none => rfl
    | some refusal => rfl
  · exact @Allocator.atomic_tryResize _ _ allocator
      { world := session.world, contents := buffer.contents } requested
      (rests_self measured)

theorem leavesNoTrace_performNew
    (measured : session.world.Measured)
    (handle : Nat)
    {next : Session → Answer × Session}
    {stopped : Fault → Answer}
    (stops : ∀ fault, (stopped fault).refuses = false)
    (onwards : ∀ later : Session, later.world.Measured →
      later.LeavesNoTrace (next later)) :
    (session.release handle).2.LeavesNoTrace
      (session.performNew handle next stopped) := by
  have vacated := (@changes_release session handle).measured measured
  refine performNew_rule (session.release handle).2.LeavesNoTrace
    (fun fault _ _ => leavesNoTrace_of_not_refuses (stops fault))
    (fun _ later released => ?_)
  rw [released] at vacated ⊢
  exact onwards later vacated

theorem leavesNoTrace_performHeld
    (handle : Nat)
    {next : Buffer → Answer × Session}
    (onwards : ∀ buffer, session.shelf.find? handle = some buffer →
      session.LeavesNoTrace (next buffer)) :
    session.LeavesNoTrace (session.performHeld handle next) :=
  performHeld_rule session.LeavesNoTrace
    (fun _ => leavesNoTrace_of_not_refuses rfl) onwards

theorem leavesNoTrace_perform
    (measured : session.world.Measured)
    (call : Call) :
    (session.vacatedFor call).LeavesNoTrace (session.perform call) := by
  cases call with
  | allocate handle allocator requested minimal =>
      refine leavesNoTrace_performNew measured handle (fun _ => rfl)
        fun later measuredLater => ?_
      exact (leavesNoTrace_allocateInto measuredLater handle allocator
        requested minimal).1
  | tryAllocate handle allocator requested minimal =>
      refine leavesNoTrace_performNew measured handle (fun _ => rfl)
        fun later measuredLater => ?_
      exact leavesNoTrace_tryAllocateInto measuredLater handle allocator
        requested minimal
  | resizeSlot handle allocator requested minimal =>
      show session.LeavesNoTrace (session.perform _)
      rw [perform]
      cases held : session.shelf.find? handle with
      | none =>
          exact (leavesNoTrace_allocateInto measured handle allocator
            requested minimal).2
      | some buffer =>
          exact leavesNoTrace_resize measured held allocator requested minimal
  | resize handle through requested minimal =>
      exact leavesNoTrace_performHeld handle fun buffer held =>
        leavesNoTrace_resize measured held
          (through.getD buffer.originator) requested minimal
  | tryResize handle through requested =>
      exact leavesNoTrace_performHeld handle fun buffer held =>
        leavesNoTrace_tryResize measured held
          (through.getD buffer.originator) requested
  | free handle => exact leavesNoTrace_of_not_refuses rfl
  | fill handle byte =>
      exact leavesNoTrace_performHeld handle fun _ _ =>
        leavesNoTrace_of_not_refuses rfl
  | write handle offset bytes =>
      exact leavesNoTrace_performHeld handle fun _ _ =>
        leavesNoTrace_of_not_refuses rfl
  | read handle =>
      exact leavesNoTrace_performHeld handle fun _ _ =>
        leavesNoTrace_of_not_refuses rfl
  | originAvailable handle =>
      exact leavesNoTrace_performHeld handle fun _ _ =>
        leavesNoTrace_of_not_refuses rfl
  | describe handle address =>
      exact leavesNoTrace_performHeld handle fun _ _ =>
        leavesNoTrace_of_not_refuses rfl
  | setCeiling mediator ceiling => exact leavesNoTrace_of_not_refuses rfl
  | mediatorAllocate mediator requested minimal =>
      exact leavesNoTrace_of_not_refuses rfl
  | mediatorFree mediator amount => exact leavesNoTrace_of_not_refuses rfl
  | tryConsume lineage bytes => exact leavesNoTrace_of_not_refuses rfl
  | consume lineage bytes => exact leavesNoTrace_of_not_refuses rfl
  | release lineage bytes => exact leavesNoTrace_of_not_refuses rfl

/-- Whatever is done, trackers count amounts. -/
theorem measured_performAll
    {world : World}
    (measured : world.Measured)
    (calls : List Call) :
    ((start world).performAll calls).world.Measured := by
  refine world_performAll World.Measured
    (fun _ _ changes => changes.measured) ?_ measured calls
  rintro before _ mediator ceiling ⟨_, _, -, -, rfl⟩ holds
  exact holds

/-- Whatever is done, a quota stays one. -/
theorem isQuota_performAll
    {world : World}
    {mediator : Nat}
    (isQuota : world.IsQuota mediator)
    (calls : List Call) :
    ((start world).performAll calls).world.IsQuota mediator := by
  refine world_performAll (fun current => current.IsQuota mediator)
    (fun _ _ changes => changes.isQuota) ?_ isQuota calls
  rintro before _ own ceiling ⟨_, _, -, -, rfl⟩ ⟨quota, held⟩
  by_cases same : mediator = own
  · subst same
    refine ⟨quota.setCeiling ceiling, (if_pos rfl).trans ?_⟩
    exact congrArg (fun account => account.setCeiling ceiling) held
  · exact ⟨quota, (if_neg same).trans held⟩

/-- What is held under a handle is given back by steps. -/
theorem changes_vacatedFor (call : Call) :
    session.world.Changes (session.vacatedFor call).world := by
  cases call with
  | allocate handle allocator requested minimal => exact changes_release handle
  | tryAllocate handle allocator requested minimal =>
      exact changes_release handle
  | _ => exact .refl

/-- A call that may be refused goes by steps from where it puts its request. -/
theorem changes_of_refuses
    {call : Call}
    (refused : (session.perform call).1.refuses = true) :
    (session.vacatedFor call).world.Changes (session.perform call).2.world := by
  cases call with
  | allocate handle allocator requested minimal =>
      exact changes_performNew_of_release handle fun _ =>
        changes_allocateInto handle allocator requested minimal
  | tryAllocate handle allocator requested minimal =>
      exact changes_performNew_of_release handle fun _ =>
        changes_tryAllocateInto handle allocator requested minimal
  | setCeiling mediator ceiling => exact nomatch refused
  | _ => exact changes_perform nofun

/--
In a session that has come about by any calls, from any accounts that are fresh,
a request that is refused leaves every buffer, the standing of the world, and
what every allocator over quotas has left as they were when it was put, as long
as it overruns no tracker.
-/
theorem refusal_leaves_no_trace
    {world : World}
    (fresh : world.Fresh)
    (calls : List Call)
    (call : Call) :
    let current := (start world).performAll calls
    let session := current.vacatedFor call
    let later := (current.perform call).2
    (current.perform call).1.refuses = true →
    (∀ event ∈ later.world.since session.world.age, ¬event.Overruns) →
      later.shelf = session.shelf ∧
        later.world.standing = session.world.standing ∧
        ∀ allocator : Allocator, allocator.OnQuotas world →
          allocator.available later.world =
            allocator.available session.world := by
  intro current session later refused overrunsNone
  have measured := measured_performAll fresh.measured calls
  obtain ⟨rests, shelf⟩ := leavesNoTrace_perform measured call refused
  have standing :=
    rests.standing ((changes_of_refuses refused).clear fun event member =>
      decide_eq_false (overrunsNone event member))
  refine ⟨shelf, standing, fun allocator onQuotas => ?_⟩
  refine Allocator.available_of_standing
    (fun layer member mediator charged => ?_) standing
  have isQuota :=
    isQuota_performAll (onQuotas layer member mediator charged) calls
  exact (changes_vacatedFor call).isQuota isQuota

/--
A resize that a probe refuses at the bottom of a stack has been charged to two
trackers and to a quota before, twice for the bypass and each time for two
sizes.  A peak is all that is left of it.
-/
theorem refusal_leaves_no_trace_of_resize :
    let allocator : Allocator :=
      { layers := [.bypass 1 10, .tallied 0, .tracked ⟨0, [1]⟩ true,
        .mediated 0, .probe 0 ⟨[1, 2, 3, 4], none⟩], heap := .standard }
    let session := (start (.start [.ofQuota (.ofCeiling 100 true false)]
      [.fresh "" (some 50), .fresh "" none])).performAll
      [.allocate 0 allocator 8 8]
    let later := (session.perform (.resize 0 none 24 12)).2
    (session.perform (.resize 0 none 24 12)).1.refuses = true ∧
      (session.world.trackers.entry 1).peak = 8 ∧
        (later.world.trackers.entry 1).peak = 24 ∧
        later.shelf = session.shelf ∧
          later.world.standing = session.world.standing ∧
          allocator.available later.world =
            allocator.available session.world := by
  intro allocator session later
  have fresh : (World.start [.ofQuota (.ofCeiling 100 true false)]
      [.fresh "" (some 50), .fresh "" none]).Fresh :=
    .start_quotas [.ofCeiling 100 true false] (by decide) (by decide)
  have onQuotas :
      allocator.OnQuotas (World.start [.ofQuota (.ofCeiling 100 true false)]
        [.fresh "" (some 50), .fresh "" none]) := by
    intro layer _ mediator _
    cases mediator with
    | zero => exact ⟨_, rfl⟩
    | succ other => exact ⟨_, rfl⟩
  have vacated : ∀ current : Session,
      current.vacatedFor (.resize 0 none 24 12) = current :=
    fun _ => rfl
  have refused : (session.perform (.resize 0 none 24 12)).1.refuses =
      true := by decide +kernel
  have kept := refusal_leaves_no_trace fresh [.allocate 0 allocator 8 8]
    (.resize 0 none 24 12) refused (by decide +kernel)
  rw [vacated] at kept
  dsimp only [later, session]
  refine ⟨refused, ?_, ?_, kept.1, kept.2.1, kept.2.2 allocator onQuotas⟩
  · decide +kernel
  · decide +kernel

end Session

end BufferBudget
