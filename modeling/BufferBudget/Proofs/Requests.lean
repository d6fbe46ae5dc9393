import BufferBudget.Proofs.Range
import BufferBudget.Proofs.Run

/-!
# Requests are met within their bounds

The contract of sources about sizes, carried up to the calls of a session.  In
a session that has come about by whatever calls, a request which accepts no more
than it asks for is met with a size between the two, or refused, or stopped by
the arithmetic of a tracker.  In between, every call on a layer or a mediator is
again a request of that kind.
-/

namespace BufferBudget

namespace World.Fresh

theorem orderly {world : World} (fresh : world.Fresh) : world.Orderly where
  mediators := by
    intro key
    have freshMediator := fresh.mediators key
    cases account : world.mediators.entry key with
    | ofQuota quota =>
        rw [account] at freshMediator
        exact ⟨freshMediator.1 ▸ Nat.zero_le _, freshMediator.2⟩
    | ofArbiter arbiter =>
        rw [account] at freshMediator
        exact freshMediator.2
  trail := fun event member => (fresh.trail event member).aside.proper

end World.Fresh

theorem World.Orderly.told
    {world : World}
    (orderly : world.Orderly)
    (diagnostics : List Diagnostic) :
    (world.noteAll (diagnostics.map .emitted)).Orderly := by
  refine orderly.noteAll fun event member => ?_
  obtain ⟨diagnostic, -, rfl⟩ := List.mem_map.mp member
  exact trivial

/--
The figures of a call are sizes, and a request that it puts to a mediator
directly accepts no more than it asks for.
-/
def Call.Sized : Call → Prop
  | .allocate _ _ requested _ => requested ≤ Size.limit
  | .tryAllocate _ _ requested _ => requested ≤ Size.limit
  | .resizeSlot _ _ requested _ => requested ≤ Size.limit
  | .resize _ _ requested _ => requested ≤ Size.limit
  | .tryResize _ _ requested => requested ≤ Size.limit
  | .setCeiling _ ceiling => ceiling ≤ Size.limit
  | .mediatorAllocate _ requested minimal => minimal ≤ requested
  | _ => True

theorem Call.sized_of_request
    {call : Call}
    {requested minimal : Nat}
    (request : call.request? = some (requested, minimal))
    (size : requested ≤ Size.limit) :
    call.Sized := by
  unfold request? at request
  split at request <;> cases request <;> exact size

theorem Call.Sized.size
    {call : Call}
    (sized : call.Sized)
    {requested minimal : Nat}
    (request : call.request? = some (requested, minimal)) :
    requested ≤ Size.limit := by
  unfold request? at request
  split at request <;> cases request <;> exact sized

namespace Allocator

variable {allocator : Allocator} {requested minimal : Nat}

theorem ranged_allocate
    {world : World}
    (orderly : world.Orderly)
    (size : requested ≤ Size.limit) :
    Ends (allocator.allocate requested minimal) world
      (fun result later => later.Orderly ∧
        ∀ buffer, result = some buffer → Within minimal requested buffer.size)
      (fun fault later => later.Orderly ∧
        (minimal ≤ requested → fault.OfAmount)) := by
  refine allocate_rule (Served minimal requested) ?inverted ?called ?told
  case inverted =>
    exact fun wrong =>
      ⟨orderly, fun accepted => absurd wrong (Nat.not_lt.mpr accepted)⟩
  case called =>
    intro accepted
    exact (allocator.ranged_source.allocate orderly accepted size).mono
      (fun _ _ served => served)
      (fun _ _ stopped => ⟨stopped.1, fun _ => stopped.2⟩)
  case told =>
    rintro result later ⟨ordered, within⟩ diagnostics
    refine ⟨ordered.told diagnostics, fun buffer made => ?_⟩
    obtain ⟨contents, given, rfl⟩ := Option.map_eq_some_iff.mp made
    exact within contents given

theorem ranged_readAvailable {world : World} (orderly : world.Orderly) :
    Ends allocator.source.readAvailable world
      (fun _ later => later.Orderly) Stopped := by
  have read := orderly.noteAll fun event member =>
    (allocator.stepwise_source.readLocks world event member).aside.proper
  exact Source.readAvailable_rule (fun _ _ => read) fun _ failed =>
    ⟨read, allocator.ranged_source.available failed⟩

theorem ranged_tryAllocate
    {world : World}
    (orderly : world.Orderly)
    (size : requested ≤ Size.limit) :
    Ends (allocator.tryAllocate requested minimal) world
      (fun result later => later.Orderly ∧
        ∀ buffer, result = .ok buffer → Within minimal requested buffer.size)
      (fun fault later => later.Orderly ∧
        (minimal ≤ requested → fault.OfAmount)) := by
  refine tryAllocate_rule (allocator.ranged_allocate orderly size) ?given ?read
  case given =>
    rintro buffer later ⟨ordered, within⟩
    refine ⟨ordered, ?_⟩
    rintro _ ⟨⟩
    exact within buffer rfl
  case read =>
    rintro later ⟨ordered, -⟩
    exact (allocator.ranged_readAvailable ordered).mono
      (fun _ _ read => ⟨read, nofun⟩) (fun _ _ stopped =>
        ⟨stopped.1, fun _ => stopped.2⟩)

theorem ranged_resize
    {bench : Workbench}
    (orderly : bench.world.Orderly)
    (size : requested ≤ Size.limit) :
    Ends (allocator.resize requested minimal) bench
      (fun met later => later.world.Orderly ∧
        (met = true → Within minimal requested later.contents.size))
      (fun fault later => later.world.Orderly ∧
        (minimal ≤ requested → fault.OfAmount)) := by
  refine resize_rule (Resized bench.contents minimal requested)
    ?inverted ?called ?told
  case inverted =>
    exact fun wrong =>
      ⟨orderly, fun accepted => absurd wrong (Nat.not_lt.mpr accepted)⟩
  case called =>
    intro accepted
    exact (allocator.ranged_source.resize orderly accepted size).mono
      (fun _ _ resized => resized)
      (fun _ _ stopped => ⟨stopped.1.1, fun _ => stopped.1.2⟩)
  case told =>
    rintro met later resized diagnostics
    refine ⟨resized.1.told diagnostics, ?_⟩
    rintro rfl
    exact resized.within

theorem ranged_tryResize
    {bench : Workbench}
    (orderly : bench.world.Orderly)
    (size : requested ≤ Size.limit) :
    Ends (allocator.tryResize requested) bench
      (fun result later => later.world.Orderly ∧
        (result = none → Within requested requested later.contents.size))
      (fun fault later => later.world.Orderly ∧ fault.OfAmount) := by
  refine tryResize_rule (fun met later => later.world.Orderly ∧
    (met = true → Within requested requested later.contents.size))
      ?resized ?met ?refused
  case resized =>
    exact (allocator.ranged_resize orderly size).mono
      (fun _ _ resized => resized)
      (fun _ _ stopped => ⟨stopped.1, stopped.2 (Nat.le_refl requested)⟩)
  case met => exact fun _ resized => ⟨resized.1, fun _ => resized.2 rfl⟩
  case refused => exact fun _ resized => ⟨resized.1, nofun⟩

end Allocator

/--
An answer keeps to a request: it is met within the bounds of the request, and it
stopped at no fault but one of a tracker.
-/
def Answer.KeepsTo (answer : Answer) (requested minimal : Nat) : Prop :=
  (∀ size, answer.met? = some size → Within minimal requested size) ∧
    ∀ fault, answer.fault? = some fault → fault.OfAmount

namespace Answer

variable {answer : Answer} {requested minimal : Nat}

theorem keepsTo_of_met
    {size : Nat}
    (met : answer.met? = some size)
    (ended : answer.fault? = none)
    (within : Within minimal requested size) :
    answer.KeepsTo requested minimal := by
  refine ⟨fun other same => ?_, fun fault stopped =>
    absurd (ended.symm.trans stopped) nofun⟩
  obtain rfl := Option.some.inj (met.symm.trans same)
  exact within

theorem keepsTo_of_fault
    {fault : Fault}
    (stopped : answer.fault? = some fault)
    (unmet : answer.met? = none)
    (ofAmount : fault.OfAmount) :
    answer.KeepsTo requested minimal := by
  refine ⟨fun size met => absurd (unmet.symm.trans met) nofun,
    fun other same => ?_⟩
  obtain rfl := Option.some.inj (stopped.symm.trans same)
  exact ofAmount

theorem keepsTo_of_unmet
    (unmet : answer.met? = none)
    (ended : answer.fault? = none) :
    answer.KeepsTo requested minimal :=
  ⟨fun _ met => absurd (unmet.symm.trans met) nofun,
    fun _ stopped => absurd (ended.symm.trans stopped) nofun⟩

end Answer

namespace Session

variable {session : Session}

theorem orderly_release (orderly : session.world.Orderly) (handle : Nat) :
    (session.release handle).2.world.Orderly ∧
      ∀ fault, (session.release handle).1 = .error fault → fault.OfAmount := by
  refine release_rule (fun result later =>
    later.world.Orderly ∧ ∀ fault, result = .error fault → fault.OfAmount)
    (fun _ => ⟨orderly, nofun⟩) (fun buffer _ => ?_)
  refine (buffer.originator.ranged_source.free buffer.size orderly).mono
    (fun _ _ ordered => ⟨ordered, nofun⟩) (fun fault _ stopped =>
      ⟨stopped.1, ?_⟩)
  rintro _ ⟨⟩
  exact stopped.2

/-- A request through an allocator for a buffer under a handle. -/
theorem ranged_allocateInto
    (orderly : session.world.Orderly)
    (handle : Nat)
    (allocator : Allocator)
    {requested : Nat}
    (minimal : Nat)
    (size : requested ≤ Size.limit) :
    let (result, later) :=
      session.allocateInto handle allocator requested minimal
    later.world.Orderly ∧ (minimal ≤ requested →
      (Answer.allocated result).KeepsTo requested minimal ∧
        (Answer.resized (result.map Option.isSome)
          (result.toOption.bind id)).KeepsTo requested minimal) := by
  refine allocateInto_rule
    (fun result later => later.world.Orderly ∧ (minimal ≤ requested →
      (Answer.allocated result).KeepsTo requested minimal ∧
        (Answer.resized (result.map Option.isSome)
          (result.toOption.bind id)).KeepsTo requested minimal)) ?_
  refine (allocator.ranged_allocate orderly size).mono ?_ ?_
  · rintro result later ⟨ordered, within⟩
    refine ⟨fun _ => ⟨ordered, fun _ => ?refused⟩,
      fun buffer made => ⟨ordered, fun _ => ?given⟩⟩
    case refused =>
      exact ⟨Answer.keepsTo_of_unmet rfl rfl, Answer.keepsTo_of_unmet rfl rfl⟩
    case given =>
      exact ⟨Answer.keepsTo_of_met rfl rfl (within buffer made),
        Answer.keepsTo_of_met rfl rfl (within buffer made)⟩
  · rintro fault later ⟨ordered, ofAmount⟩
    exact ⟨ordered, fun accepted =>
      ⟨Answer.keepsTo_of_fault rfl rfl (ofAmount accepted),
        Answer.keepsTo_of_fault rfl rfl (ofAmount accepted)⟩⟩

theorem ranged_tryAllocateInto
    (orderly : session.world.Orderly)
    (handle : Nat)
    (allocator : Allocator)
    {requested : Nat}
    (minimal : Nat)
    (size : requested ≤ Size.limit) :
    let (result, later) :=
      session.tryAllocateInto handle allocator requested minimal
    later.world.Orderly ∧
      (minimal ≤ requested →
        (Answer.tried result).KeepsTo requested minimal) := by
  refine tryAllocateInto_rule
    (fun result later => later.world.Orderly ∧
      (minimal ≤ requested → (Answer.tried result).KeepsTo requested minimal))
        ?_
  refine (allocator.ranged_tryAllocate orderly size).mono ?_ ?_
  · rintro result later ⟨ordered, within⟩
    exact ⟨fun _ _ => ⟨ordered, fun _ => Answer.keepsTo_of_unmet rfl rfl⟩,
      fun buffer made =>
      ⟨ordered, fun _ => Answer.keepsTo_of_met rfl rfl (within buffer made)⟩⟩
  · rintro fault later ⟨ordered, ofAmount⟩
    exact ⟨ordered, fun accepted =>
      Answer.keepsTo_of_fault rfl rfl (ofAmount accepted)⟩

theorem ranged_resizeHeld
    (orderly : session.world.Orderly)
    (handle : Nat)
    (buffer : Buffer)
    (allocator : Allocator)
    {requested : Nat}
    (minimal : Nat)
    (size : requested ≤ Size.limit) :
    let (result, contents, later) :=
      session.resizeHeld handle buffer (allocator.resize requested minimal)
    later.world.Orderly ∧ (minimal ≤ requested →
      (Answer.resized result (some contents)).KeepsTo requested minimal) := by
  refine resizeHeld_rule
    (fun result contents later => later.world.Orderly ∧ (minimal ≤ requested →
      (Answer.resized result (some contents)).KeepsTo requested minimal)) ?_
  have begins :
      (Workbench.mk session.world buffer.contents).world.Orderly := orderly
  refine (allocator.ranged_resize begins size).mono ?_ ?_
  · rintro met later ⟨ordered, within⟩
    refine ⟨ordered, fun _ => ?_⟩
    cases met with
    | false => exact Answer.keepsTo_of_unmet rfl rfl
    | true => exact Answer.keepsTo_of_met rfl rfl (within rfl)
  · rintro fault later ⟨ordered, ofAmount⟩
    exact ⟨ordered, fun accepted =>
      Answer.keepsTo_of_fault rfl rfl (ofAmount accepted)⟩

theorem ranged_tryResizeHeld
    (orderly : session.world.Orderly)
    (handle : Nat)
    (buffer : Buffer)
    (allocator : Allocator)
    {requested : Nat}
    (size : requested ≤ Size.limit) :
    let (result, contents, later) :=
      session.resizeHeld handle buffer (allocator.tryResize requested)
    later.world.Orderly ∧
      (Answer.triedResize result contents).KeepsTo requested requested := by
  refine resizeHeld_rule
    (fun result contents later => later.world.Orderly ∧
      (Answer.triedResize result contents).KeepsTo requested requested) ?_
  have begins :
      (Workbench.mk session.world buffer.contents).world.Orderly := orderly
  refine (allocator.ranged_tryResize begins size).mono ?_ ?_
  · rintro refusal later ⟨ordered, within⟩
    refine ⟨ordered, ?_⟩
    cases refusal with
    | some refusal => exact Answer.keepsTo_of_unmet rfl rfl
    | none => exact Answer.keepsTo_of_met rfl rfl (within rfl)
  · rintro fault later ⟨ordered, ofAmount⟩
    exact ⟨ordered, Answer.keepsTo_of_fault rfl rfl ofAmount⟩

/--
A call leaves a session in order, and its answer keeps to the
request that it is.
-/
def Serves (call : Call) (outcome : Answer × Session) : Prop :=
  outcome.2.world.Orderly ∧ ∀ requested minimal,
    call.request? = some (requested, minimal) →
    minimal ≤ requested → outcome.1.KeepsTo requested minimal

theorem serves_performNew
    {call : Call}
    {next : Session → Answer × Session}
    {stopped : Fault → Answer}
    (orderly : session.world.Orderly)
    (handle : Nat)
    (onwards : ∀ later : Session, later.world.Orderly →
      Serves call (next later))
    (keeps : ∀ fault requested minimal, fault.OfAmount →
      (stopped fault).KeepsTo requested minimal) :
    Serves call (session.performNew handle next stopped) := by
  obtain ⟨ordered, stops⟩ := session.orderly_release orderly handle
  refine performNew_rule (Serves call) (fun fault later released => ?_)
    (fun _ later released => ?_)
  · rw [released] at ordered stops
    exact ⟨ordered, fun requested minimal _ _ =>
      keeps fault requested minimal (stops fault rfl)⟩
  · rw [released] at ordered
    exact onwards later ordered

theorem serves_performHeld
    {call : Call}
    {next : Buffer → Answer × Session}
    (orderly : session.world.Orderly)
    (handle : Nat)
    (onwards : ∀ buffer, Serves call (next buffer)) :
    Serves call (session.performHeld handle next) :=
  performHeld_rule (Serves call)
    (fun _ => ⟨orderly, fun _ _ _ _ => Answer.keepsTo_of_unmet rfl rfl⟩)
    fun buffer _ => onwards buffer

/-- A call that is no request serves as long as it ends in order. -/
theorem serves_of_no_request
    {call : Call}
    {outcome : Answer × Session}
    (noRequest : call.request? = none)
    (ordered : outcome.2.world.Orderly) :
    Serves call outcome :=
  ⟨ordered, fun _ _ request =>
    absurd (noRequest.symm.trans request) (Option.some_ne_none _).symm⟩

/--
A call that is a request serves if it ends in order and keeps to the request.
-/
theorem serves_of_request
    {call : Call}
    {outcome : Answer × Session}
    {requested minimal : Nat}
    (request : call.request? = some (requested, minimal))
    (ordered : outcome.2.world.Orderly)
    (keeps : minimal ≤ requested → outcome.1.KeepsTo requested minimal) :
    Serves call outcome := by
  refine ⟨ordered, fun asked least same accepted => ?_⟩
  obtain ⟨rfl, rfl⟩ := Prod.mk.inj (Option.some.inj (request.symm.trans same))
  exact keeps accepted

/-- A buffer is resized as a call on it requests. -/
theorem serves_resizeHeld
    {call : Call}
    (orderly : session.world.Orderly)
    (handle : Nat)
    (buffer : Buffer)
    (allocator : Allocator)
    {requested minimal : Nat}
    (size : requested ≤ Size.limit)
    (request : call.request? = some (requested, minimal)) :
    Serves call (let (result, contents, later) :=
        session.resizeHeld handle buffer (allocator.resize requested minimal)
      (.resized result (some contents), later)) := by
  have resized := ranged_resizeHeld orderly handle buffer allocator minimal size
  generalize session.resizeHeld handle buffer
      (allocator.resize requested minimal) = outcome at resized ⊢
  exact serves_of_request request resized.1 resized.2

theorem serves_run
    {α : Type}
    {call : Call}
    {answer : Except Fault α → Answer}
    {operation : Operation α}
    (noRequest : call.request? = none)
    (ended : Ends operation session.world (fun _ later => later.Orderly)
      (fun _ later => later.Orderly)) :
    Serves call
      (answer (session.run operation).1, (session.run operation).2) := by
  refine serves_of_no_request noRequest ?_
  exact run_rule (fun _ later => later.world.Orderly) ended

theorem serves_perform
    (orderly : session.world.Orderly)
    {call : Call}
    (sized : call.Sized) :
    Serves call (session.perform call) := by
  cases call with
  | allocate handle allocator requested minimal =>
      refine serves_performNew orderly handle (fun later ordered => ?_) ?_
      · have made := ranged_allocateInto ordered handle allocator minimal sized
        generalize later.allocateInto handle allocator requested minimal =
          outcome at made ⊢
        exact serves_of_request rfl made.1 fun accepted => (made.2 accepted).1
      · exact fun _ _ _ ofAmount => Answer.keepsTo_of_fault rfl rfl ofAmount
  | tryAllocate handle allocator requested minimal =>
      refine serves_performNew orderly handle (fun later ordered => ?_) ?_
      · have made :=
          ranged_tryAllocateInto ordered handle allocator minimal sized
        generalize later.tryAllocateInto handle allocator requested minimal =
          outcome at made ⊢
        exact serves_of_request rfl made.1 made.2
      · exact fun _ _ _ ofAmount => Answer.keepsTo_of_fault rfl rfl ofAmount
  | resizeSlot handle allocator requested minimal =>
      rw [perform]
      split
      · have made := ranged_allocateInto orderly handle allocator minimal sized
        generalize session.allocateInto handle allocator requested minimal =
          outcome at made ⊢
        exact serves_of_request rfl made.1 fun accepted => (made.2 accepted).2
      · rename_i buffer _
        exact serves_resizeHeld orderly handle buffer allocator sized rfl
  | resize handle through requested minimal =>
      exact serves_performHeld orderly handle fun buffer =>
        serves_resizeHeld orderly handle buffer
          (through.getD buffer.originator) sized rfl
  | tryResize handle through requested =>
      refine serves_performHeld orderly handle fun buffer => ?_
      dsimp only
      generalize through.getD buffer.originator = allocator
      have resized := ranged_tryResizeHeld orderly handle buffer allocator sized
      generalize session.resizeHeld handle buffer
          (allocator.tryResize requested) = outcome at resized ⊢
      exact serves_of_request rfl resized.1 fun _ => resized.2
  | free handle =>
      exact serves_of_no_request rfl (orderly_release orderly handle).1
  | fill handle byte =>
      exact serves_performHeld orderly handle fun _ =>
        serves_of_no_request rfl orderly
  | write handle offset bytes =>
      exact serves_performHeld orderly handle fun _ =>
        serves_of_no_request rfl orderly
  | read handle =>
      exact serves_performHeld orderly handle fun _ =>
        serves_of_no_request rfl orderly
  | originAvailable handle =>
      refine serves_performHeld orderly handle fun buffer => serves_run rfl ?_
      exact (buffer.originator.ranged_readAvailable orderly).mono
        (fun _ _ read => read) (fun _ _ stopped => stopped.1)
  | describe handle address =>
      exact serves_performHeld orderly handle fun _ =>
        serves_of_no_request rfl orderly
  | setCeiling mediator ceiling =>
      refine serves_run rfl ?_
      refine (Mediation.ends_setCeiling mediator ceiling session.world).sure ?_
      intro _ later came
      exact orderly.around came fun middle _ ordered =>
        ordered.setMediator ((ordered.mediators mediator).setCeiling sized)
  | mediatorAllocate mediator requested minimal =>
      refine serves_run rfl ?_
      exact (Mediation.orderly_allocate orderly mediator sized).sure
        (fun _ _ granted => granted.1)
  | mediatorFree mediator amount =>
      refine serves_run rfl ?_
      exact (Mediation.orderly_free orderly mediator amount).sure
        (fun _ _ ordered => ordered)
  | tryConsume lineage bytes =>
      refine serves_run rfl ?_
      exact ((Charging.tracks_tryConsume lineage bytes).orderly orderly).mono
        (fun _ _ ordered => ordered) (fun _ _ stopped => stopped.1)
  | consume lineage bytes =>
      refine serves_run rfl ?_
      exact ((Charging.tracks_consume lineage bytes).orderly orderly).mono
        (fun _ _ ordered => ordered) (fun _ _ stopped => stopped.1)
  | release lineage bytes =>
      refine serves_run rfl ?_
      exact ((Charging.tracks_release lineage bytes).orderly orderly).mono
        (fun _ _ ordered => ordered) (fun _ _ stopped => stopped.1)

/-- Sized calls keep a session in order. -/
theorem orderly_performAll
    {world : World}
    (fresh : world.Fresh)
    {calls : List Call}
    (sized : ∀ call ∈ calls, call.Sized) :
    ((start world).performAll calls).world.Orderly :=
  Follows.invariant (fun session => session.world.Orderly)
    (fun _ _ callSized orderly => (serves_perform orderly callSized).1)
    (follows_of_forall sized (start world)) fresh.orderly

/--
In a session that has come about by any calls, from any accounts that are fresh,
a request that accepts no more than it asks for is met with a size between the
two, and stops at no fault but one of a tracker.  Whatever is asked of a layer
or a mediator in the course of it accepts no more than it asks for and is
answered within that.
-/
theorem request_met_within_bounds
    {world : World}
    (fresh : world.Fresh)
    {calls : List Call}
    (sized : ∀ call ∈ calls, call.Sized)
    {call : Call}
    {requested minimal : Nat}
    (request : call.request? = some (requested, minimal))
    (accepted : minimal ≤ requested)
    (size : requested ≤ Size.limit) :
    let session := (start world).performAll calls
    let (answer, later) := session.perform call
    (∀ granted, answer.met? = some granted → Within minimal requested granted) ∧
      (∀ fault, answer.fault? = some fault → fault.OfAmount) ∧
        ∀ event ∈ later.world.since session.world.age, event.Proper := by
  intro session
  have serves := serves_perform (orderly_performAll fresh sized)
    (Call.sized_of_request request size)
  obtain ⟨within, stops⟩ := serves.2 requested minimal request accepted
  refine ⟨within, stops, fun event member => ?_⟩
  exact serves.1.trail event (List.mem_of_mem_take (List.mem_reverse.mp member))

/--
A quota of 100 bytes that is not enforced has 10 left for a request for 40, and
these are enough where 5 are accepted.
-/
theorem request_met_within_bounds_of_soft_quota :
    let allocator : Allocator :=
      { layers := [.tallied 0, .mediated 0], heap := .standard }
    let session :=
      (start (.start [.ofQuota (.ofCeiling 100 false false)] [])).performAll
        [.allocate 0 allocator 90 90]
    (session.perform (.allocate 1 allocator 40 5)).1.met? = some 10 ∧
      Within 5 40 10 := by
  intro allocator session
  have fresh : (World.start [.ofQuota (.ofCeiling 100 false false)] []).Fresh :=
    .start_quotas [.ofCeiling 100 false false] (by decide) (by decide)
  have sized : ∀ call ∈ [Call.allocate 0 allocator 90 90], call.Sized := by
    intro call member
    rw [List.mem_singleton.mp member, Call.Sized]
    decide
  have met :
      (session.perform (.allocate 1 allocator 40 5)).1.met? = some 10 := rfl
  have request : (Call.allocate 1 allocator 40 5).request? = some (40, 5) := rfl
  have bounds :=
    request_met_within_bounds fresh sized request (by decide) (by decide)
  exact ⟨met, bounds.1 10 met⟩

end Session

end BufferBudget
