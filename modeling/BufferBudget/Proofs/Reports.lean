import BufferBudget.Proofs.Bytes
import BufferBudget.Proofs.Cutting
import BufferBudget.Proofs.Ledger
import Mathlib.Algebra.GroupWithZero.Nat

/-!
# What tallies are told

A tallied layer reports every call that is made on it, and what it reports is a
function of the call as it stands on the trail: `LayerCall.reportTo`.  That no
call goes unreported is no matter of the layer alone.  It says nothing of a
resize that is refused for no more than the size of the buffer, so that it has
to be known of the whole stack below that no such resize is refused.

`Records` says of a world and a later one that the calls on tallied layers in
between have been reported to their tally, one for one, and that what they have
gained and lost takes the bytes which are held through these layers from one
amount to another.  It is the contract of sources as well, whatever layers above
ask twice, and however many layers of a stack report to the same tally.
-/

namespace BufferBudget

namespace LayerCall

/-- What a tally becomes when it is told of a call. -/
def reportTo (call : LayerCall) (tally : Tally) : Tally :=
  match call with
  | .allocated _ _ (some size) => tally.allocated size
  | .allocated _ minimal none => tally.refused minimal
  | .resized requested _ met old new =>
      if old < new then tally.allocated (new - old)
      else if new < old then tally.freed (old - new)
      else if met then tally
      else tally.refused (requested - new)
  | .freed size => tally.freed size

/-- The bytes that a call has gained. -/
def gained : LayerCall → Nat
  | .allocated _ _ (some size) => size
  | .resized _ _ _ old new => new - old
  | _ => 0

/-- The bytes that a call has lost. -/
def lost : LayerCall → Nat
  | .resized _ _ _ old new => old - new
  | .freed size => size
  | _ => 0

/-- A resize that was refused was for growth, and left the size alone. -/
def Fair : LayerCall → Prop
  | .resized requested _ met old new =>
      met = false → new = old ∧ old < requested
  | _ => True

end LayerCall

/-- A release is counted the same before other reports as after them. -/
theorem LayerCall.reportTo_freed
    (call : LayerCall)
    (tally : Tally)
    (size : Nat) :
    call.reportTo (tally.freed size) = (call.reportTo tally).freed size := by
  have freed : ∀ bytes, (tally.freed size).freed bytes =
      (tally.freed bytes).freed size := by
    intro bytes
    simp only [Tally.freed, Size.wrap_wrap_add,
      Nat.add_right_comm tally.freedBytes size bytes]
  cases call with
  | allocated requested minimal granted => cases granted <;> rfl
  | freed bytes => exact freed bytes
  | resized requested minimal met old new =>
      simp only [reportTo]
      split
      · rfl
      · split
        · exact freed _
        · split <;> rfl

theorem foldr_reportTo_freed
    (calls : List LayerCall)
    (tally : Tally)
    (size : Nat) :
    calls.foldr LayerCall.reportTo (tally.freed size) =
      (calls.foldr LayerCall.reportTo tally).freed size := by
  induction calls with
  | nil => rfl
  | cons call rest ih =>
      rw [List.foldr_cons, List.foldr_cons, ih, LayerCall.reportTo_freed]

/--
The call on a layer that reports to a tally that an event is, if it is one.
-/
def Event.reportedCall? (tally : Nat) : Event → Option LayerCall
  | .called (.layer (.tallied own)) call =>
      if own = tally then some call else none
  | _ => none

theorem Event.Aside.reportedCall?
    {event : Event}
    (aside : event.Aside)
    (tally : Nat) :
    event.reportedCall? tally = none := by
  cases event with
  | called site call => exact aside.elim
  | mediated own call => exact aside.elim
  | emitted diagnostic => rfl
  | acquired lock => rfl
  | released lock => rfl
  | tracked tracker call => rfl
  | weighed tracker total => rfl

theorem reportedCall?_of_ne
    {site : Site}
    {tally : Nat}
    (other : site ≠ .layer (.tallied tally))
    (call : LayerCall) :
    (Event.called site call).reportedCall? tally = none := by
  cases site with
  | heap => rfl
  | layer layer =>
      cases layer with
      | tallied own =>
          refine if_neg fun same => other ?_
          rw [same]
      | _ => rfl

namespace World

/-- The calls so far on layers that report to a tally, latest first. -/
def reportedCalls (world : World) (tally : Nat) : List LayerCall :=
  world.trail.filterMap (Event.reportedCall? tally)

/-- Nothing has been done that a tally is told of. -/
structure Silent (world : World) (tally : Nat) (later : World) : Prop where
  calls : later.reportedCalls tally = world.reportedCalls tally
  entry : later.tallies.entry tally = world.tallies.entry tally

/--
The calls between a world and a later one have been reported to a tally, and
what they have gained and lost takes one amount of bytes to another.
-/
structure Recorded
    (world : World)
    (tally : Nat)
    (calls : List LayerCall)
    (before after : Nat)
    (later : World) : Prop where
  noted : later.reportedCalls tally = calls ++ world.reportedCalls tally
  told : later.tallies.entry tally =
    calls.foldr LayerCall.reportTo (world.tallies.entry tally)
  balanced : (calls.map LayerCall.gained).sum + before =
    (calls.map LayerCall.lost).sum + after
  fair : ∀ call ∈ calls, call.Fair

/-- Some calls have been reported that take one amount of bytes to another. -/
def Records (world : World) (tally before after : Nat) (later : World) : Prop :=
  ∃ calls, world.Recorded tally calls before after later

variable {world middle later : World} {tally before between after : Nat}

namespace Silent

theorem refl (world : World) : world.Silent tally world :=
  ⟨rfl, rfl⟩

theorem trans
    (first : world.Silent tally middle)
    (second : middle.Silent tally later) :
    world.Silent tally later :=
  ⟨second.calls.trans first.calls, second.entry.trans first.entry⟩

theorem of_same
    (sameTallies : later.tallies = world.tallies)
    (sameTrail : later.trail = world.trail) :
    world.Silent tally later where
  calls := by rw [reportedCalls, reportedCalls, sameTrail]
  entry := by rw [sameTallies]

theorem note {event : Event} (other : event.reportedCall? tally = none) :
    world.Silent tally (world.note event) :=
  ⟨List.filterMap_cons_none other, rfl⟩

theorem noteAll {events : List Event} (aside : ∀ event ∈ events, event.Aside) :
    world.Silent tally (world.noteAll events) :=
  noteAll_preserves (fun event member _ silent =>
    silent.trans (note ((aside event member).reportedCall? tally))) (refl world)

theorem told (world : World) (diagnostics : List Diagnostic) :
    world.Silent tally (world.noteAll (diagnostics.map .emitted)) := by
  refine noteAll fun event member => ?_
  obtain ⟨diagnostic, -, rfl⟩ := List.mem_map.mp member
  exact trivial

theorem around
    {change : World → World}
    (came : world.Around change later)
    (moves : ∀ middle : World, middle.Silent tally (change middle)) :
    world.Silent tally later := by
  obtain ⟨first, last, quietFirst, quietLast, rfl⟩ := came
  have entered : world.Silent tally (world.noteAll first) :=
    noteAll fun event member => (quietFirst event member).aside
  exact (entered.trans (moves _)).trans
    (noteAll fun event member => (quietLast event member).aside)

theorem setMediator (mediator : Nat) (next : Mediator) :
    world.Silent tally (world.setMediator mediator next) :=
  of_same rfl rfl

theorem grant (mediator requested minimal granted : Nat) (next : Mediator) :
    world.Silent tally (world.grant mediator requested minimal granted next) :=
  (setMediator mediator next).trans ⟨rfl, rfl⟩

theorem repay (mediator amount : Nat) :
    world.Silent tally (world.repay mediator amount) :=
  (setMediator mediator ((world.mediators.entry mediator).free amount)).trans
    ⟨rfl, rfl⟩

theorem trackerSteps
    {trackers : List Nat}
    (steps : Relation.ReflTransGen (TrackerStep trackers) world later) :
    world.Silent tally later := by
  induction steps with
  | refl => exact .refl world
  | tail _ step ih =>
      cases step with
      | note event aside => exact ih.trans (.note (aside.reportedCall? tally))
      | store member consumption => exact ih.trans (.of_same rfl rfl)
      | reach member consumption => exact ih.trans (.of_same rfl rfl)

end Silent

namespace Records

theorem of_silent (silent : world.Silent tally later) :
    world.Records tally before before later :=
  ⟨[], silent.calls, silent.entry, rfl, nofun⟩

theorem trans
    (first : world.Records tally before between middle)
    (second : middle.Records tally between after later) :
    world.Records tally before after later := by
  obtain ⟨earlier, start⟩ := first
  obtain ⟨calls, onwards⟩ := second
  refine ⟨calls ++ earlier, ?_, ?_, ?_, ?_⟩
  · rw [onwards.noted, start.noted, List.append_assoc]
  · rw [onwards.told, start.told, List.foldr_append]
  · have left := start.balanced
    have right := onwards.balanced
    simp only [List.map_append, List.sum_append]
    omega
  · intro call member
    rcases List.mem_append.mp member with new | old
    · exact onwards.fair call new
    · exact start.fair call old

theorem silently
    (records : world.Records tally before after middle)
    (silent : middle.Silent tally later) :
    world.Records tally before after later :=
  records.trans (of_silent silent)

theorem after_silence
    (silent : world.Silent tally middle)
    (records : middle.Records tally before after later) :
    world.Records tally before after later :=
  (of_silent silent).trans records

/-- What is held besides makes no difference. -/
theorem beside (records : world.Records tally before after later) (more : Nat) :
    world.Records tally (before + more) (after + more) later := by
  obtain ⟨calls, recorded⟩ := records
  refine ⟨calls, recorded.noted, recorded.told, ?_, recorded.fair⟩
  have balanced := recorded.balanced
  omega

theorem congr
    {other last : Nat}
    (records : world.Records tally before after later)
    (sameBefore : before = other)
    (sameAfter : after = last) :
    world.Records tally other last later :=
  sameBefore ▸ sameAfter ▸ records

/-- A call that has been reported is noted. -/
theorem report
    (call : LayerCall)
    (last : World)
    (less more : Nat)
    (records : world.Records tally before after later)
    (same : last.reportedCalls tally = later.reportedCalls tally)
    (told : last.tallies.entry tally =
      call.reportTo (later.tallies.entry tally))
    (balanced : call.gained + less = call.lost + more)
    (fair : call.Fair) :
    world.Records tally (before + less) (after + more)
      (last.note (.called (.layer (.tallied tally)) call)) := by
  obtain ⟨calls, recorded⟩ := records
  have noted : (Event.called (.layer (.tallied tally)) call).reportedCall?
        tally = some call :=
    if_pos rfl
  refine ⟨call :: calls, ?_, ?_, ?_, ?_⟩
  · have first :
        (last.note (.called (.layer (.tallied tally)) call)).reportedCalls
            tally = call :: last.reportedCalls tally :=
      List.filterMap_cons_some noted
    rw [first, same, recorded.noted, List.cons_append]
  · exact told.trans (congrArg call.reportTo recorded.told)
  · have balance := recorded.balanced
    simp only [List.map_cons, List.sum_cons]
    omega
  · intro other member
    rcases List.mem_cons.mp member with rfl | old
    · exact fair
    · exact recorded.fair other old

/-- A resize that has been reported is noted. -/
theorem reportResized
    {times old new requested minimal : Nat}
    {met : Bool}
    (last : World)
    (records : world.Records tally (old * times) (new * times) later)
    (same : last.reportedCalls tally = later.reportedCalls tally)
    (told : last.tallies.entry tally =
      (LayerCall.resized requested minimal met old new).reportTo
      (later.tallies.entry tally))
    (fair : met = false → new = old ∧ old < requested) :
    world.Records tally (old * (times + 1)) (new * (times + 1))
      (last.note (.called (.layer (.tallied tally))
        (.resized requested minimal met old new))) := by
  refine (records.report _ last _ _ same told ?_ fair).congr
    (Nat.mul_succ old times).symm (Nat.mul_succ new times).symm
  simp only [LayerCall.gained, LayerCall.lost]
  omega

/-- A release is noted before the calls below it, and reported after them. -/
theorem reportFreed
    {times size : Nat}
    (account : Tally)
    (records :
      (world.note (.called (.layer (.tallied tally)) (.freed size))).Records
      tally (size * times) 0 later)
    (told : account =
      (LayerCall.freed size).reportTo (later.tallies.entry tally)) :
    world.Records tally (size * (times + 1)) 0
      (later.setTally tally account) := by
  obtain ⟨calls, recorded⟩ := records
  have noted : (world.note
      (.called (.layer (.tallied tally)) (.freed size))).reportedCalls
        tally = .freed size :: world.reportedCalls tally :=
    List.filterMap_cons_some (if_pos rfl)
  refine ⟨calls ++ [.freed size], ?_, ?_, ?_, ?_⟩
  · exact recorded.noted.trans
      (by rw [noted, List.append_assoc, List.singleton_append])
  · rw [World.entry_tallies_setTally, if_pos rfl, told,
      List.foldr_append, recorded.told]
    exact (foldr_reportTo_freed calls _ size).symm
  · have balanced := recorded.balanced
    simp only [List.map_append, List.sum_append, List.map_singleton,
      List.sum_singleton, LayerCall.gained, LayerCall.lost, Nat.mul_succ]
    omega
  · intro call member
    rcases List.mem_append.mp member with new | own
    · exact recorded.fair call new
    · rw [List.mem_singleton.mp own]
      exact trivial

end Records

end World

/-- An operation does nothing that a tally is told of, however it ends. -/
def Operation.Silent {α : Type} (tally : Nat) (operation : Operation α) :
    Prop :=
  ∀ world, Ends operation world (fun _ later => world.Silent tally later)
    (fun _ _ => True)

theorem Operation.Tracks.silent
    {α : Type}
    {operation : Operation α}
    {trackers : List Nat}
    (tracks : operation.Tracks trackers)
    (tally : Nat) :
    operation.Silent tally :=
  fun world => (tracks world).imp (fun _ _ steps => .trackerSteps steps)

/-- What is done after some calls without a word leaves them recorded. -/
theorem World.Records.quietly
    {α : Type}
    {operation : Operation α}
    {world middle : World}
    {tally before after : Nat}
    (records : world.Records tally before after middle)
    (silent : operation.Silent tally) :
    Ends operation middle
      (fun _ later => world.Records tally before after later)
      (fun _ _ => True) :=
  (silent middle).imp (fun _ _ still => records.silently still)

namespace Mediation

variable (tally : Nat)

theorem silent_allocate (mediator requested minimal : Nat) :
    Operation.Silent tally (allocate mediator requested minimal) := by
  intro world
  cases answer :
    (world.mediators.entry mediator).allocate requested minimal with
  | error fault =>
      exact (ends_allocate_error answer).imp
        (fun _ _ impossible => impossible.elim)
  | ok result =>
      obtain ⟨granted, next⟩ := result
      refine (ends_allocate answer).imp ?_
      rintro _ later ⟨-, came⟩
      exact .around came fun _ => .grant mediator requested minimal granted next

theorem silent_free (mediator amount : Nat) :
    Operation.Silent tally (free mediator amount) := fun world =>
  (ends_free mediator amount world).imp
    (fun _ _ came => .around came fun _ => .repay mediator amount)

theorem silent_setCeiling (mediator ceiling : Nat) :
    Operation.Silent tally (setCeiling mediator ceiling) := fun world =>
  (ends_setCeiling mediator ceiling world).imp
    (fun _ _ came => .around came fun _ => .setMediator mediator _)

theorem silent_grant (mediator requested minimal : Nat) :
    Operation.Silent tally (grant mediator requested minimal) := by
  intro world
  refine grant_rule (fun _ => .refl world)
    (fun _ => silent_allocate tally mediator requested minimal world)
    (fun _ _ silent _ => silent) ?short (fun _ silent _ => silent)
  case short =>
    intro granted later silent _ _
    exact (silent_free tally mediator granted later).imp
      (fun _ _ still => silent.trans still)

end Mediation

theorem Source.silent_readAvailable
    {source : Source}
    (stepwise : source.Stepwise)
    (tally : Nat) :
    Operation.Silent tally source.readAvailable := by
  intro world
  have read : world.Silent tally (world.noteAll (source.readLocks world)) :=
    .noteAll fun event member => (stepwise.readLocks world event member).aside
  exact readAvailable_rule (fun _ _ => read) (fun _ _ => trivial)

/--
The contract of a source about a tally, to which each call reports as
often as `times` layers of the source do.  Nothing is said of a call that
stops at a fault.
-/
structure Source.Records (source : Source) (tally times : Nat) : Prop where
  allocate : ∀ requested minimal world,
    Ends (source.allocate requested minimal) world (fun result later =>
      world.Records tally 0 (priceOf (· * times) result) later)
    (fun _ _ => True)
  resize : ∀ requested minimal bench,
    Ends (source.resize requested minimal) bench
    (fun _ later => bench.world.Records tally (bench.contents.size * times)
      (later.contents.size * times) later.world) (fun _ _ => True)
  free : ∀ size world, Ends (source.free size) world
    (fun _ later => world.Records tally (size * times) 0 later)
    (fun _ _ => True)

variable {tally times : Nat} {below : Source}

/--
Calls that are noted at a site where nothing is reported make no difference.
-/
theorem Source.Records.noting
    {source : Source}
    (records : source.Records tally times)
    {site : Site}
    (other : site ≠ .layer (.tallied tally)) :
    (source.noting site).Records tally times where
  allocate := fun requested minimal world => noting_allocate_rule
    ((records.allocate requested minimal world).imp (fun _ _ recorded =>
      recorded.silently (.note (reportedCall?_of_ne other _))))
  resize := fun requested minimal bench => noting_resize_rule
    ((records.resize requested minimal bench).imp (fun _ _ recorded =>
      recorded.silently (.note (reportedCall?_of_ne other _))))
  free := fun size _ =>
    noting_free_rule ((records.free size _).imp (fun _ _ recorded =>
      recorded.after_silence (.note (reportedCall?_of_ne other _))))

theorem Heap.records_source (heap : Heap) (tally : Nat) :
    heap.source.Records tally 0 where
  allocate := by
    intro requested minimal world
    have silent : world.Silent tally world := .refl world
    exact allocate_rule (fun _ => .of_silent silent)
      (fun _ => .of_silent silent)
  resize := by
    intro requested minimal bench
    have silent : bench.world.Silent tally bench.world := .refl bench.world
    exact resize_rule (fun _ _ => .of_silent silent)
      (fun _ _ => .of_silent silent)
      (fun _ => .of_silent silent) (fun _ => .of_silent silent)
  free := fun _ world => .of_silent (.refl world)

namespace Mediated

theorem records_allocate
    (records : below.Records tally times)
    (mediator requested minimal : Nat)
    (world : World) :
    Ends (allocate mediator below requested minimal) world (fun result later =>
      world.Records tally 0 (priceOf (· * times) result) later)
      (fun _ _ => True) := by
  refine allocate_rule (fun _ result later =>
    world.Records tally 0 (priceOf (· * times) result) later)
    (Mediation.silent_grant tally mediator requested minimal world)
    (fun _ silent => .of_silent silent) ?called (fun granted _ recorded =>
      recorded.quietly (Mediation.silent_free tally mediator granted))
    (fun _ _ _ recorded _ =>
      recorded.quietly (Mediation.silent_free tally mediator _))
    (fun _ _ _ recorded _ => recorded)
  case called =>
    intro granted later silent
    exact (records.allocate granted minimal later).imp
      (fun _ _ recorded => recorded.after_silence silent)

theorem records_resize
    (records : below.Records tally times)
    (mediator requested minimal : Nat)
    (bench : Workbench) :
    Ends (resize mediator below requested minimal) bench
      (fun _ later => bench.world.Records tally (bench.contents.size * times)
        (later.contents.size * times) later.world)
      (fun _ _ => True) := by
  -- what is given back after the call below is given back without a word
  have settled : ∀ (later : Workbench) (amount : Nat),
      bench.world.Records tally (bench.contents.size * times)
        (later.contents.size * times) later.world →
      Ends (Mediation.free mediator amount) later.world
        (fun _ last => bench.world.Records tally (bench.contents.size * times)
          (later.contents.size * times) last)
        (fun _ _ => True) :=
    fun _ amount recorded =>
      recorded.quietly (Mediation.silent_free tally mediator amount)
  refine resize_rule (fun _ => ?shrunk) (fun larger => ?grown)
  case shrunk =>
    exact shrink_rule (records.resize requested minimal bench)
      (fun _ recorded => recorded)
      (fun _ _ _ => trivial) (fun later recorded _ => settled later _ recorded)
  case grown =>
    refine grow_rule (fun _ _ later => bench.world.Records tally
      (bench.contents.size * times) (later.contents.size * times) later.world)
      larger (Mediation.silent_grant tally mediator _ _ bench.world)
      (fun _ silent => .of_silent silent) (fun _ _ _ _ => trivial) ?called
      (fun granted later recorded => settled later granted recorded)
      (fun _ _ _ _ => trivial) (fun _ later recorded _ =>
        settled later _ recorded)
    case called =>
      intro granted later silent _
      exact (records.resize (bench.contents.size + granted) minimal
        { bench with world := later }).imp
        (fun _ _ recorded => recorded.after_silence silent)

theorem records_free
    (records : below.Records tally times)
    (mediator size : Nat)
    (world : World) :
    Ends (free mediator below size) world
      (fun _ later => world.Records tally (size * times) 0 later)
      (fun _ _ => True) := by
  refine free_rule (Mediation.silent_free tally mediator size world)
    fun later silent => ?_
  exact (records.free size later).imp
    (fun _ _ recorded => recorded.after_silence silent)

theorem records_source (records : below.Records tally times) (mediator : Nat) :
    (source mediator below).Records tally times where
  allocate := records_allocate records mediator
  resize := records_resize records mediator
  free := records_free records mediator

end Mediated

theorem Clearing.records_source (records : below.Records tally times) :
    (source below).Records tally times where
  allocate := by
    intro requested minimal world
    refine allocate_rule ((records.allocate requested minimal world).imp ?_)
    intro result later recorded
    cases result with
    | none => exact recorded
    | some contents =>
        exact recorded.congr rfl
          (by simp only [Option.map, priceOf, Contents.size_fill])
  resize := by
    intro requested minimal bench
    refine resize_rule (records.resize requested minimal bench)
      (fun _ _ recorded _ => recorded) ?_
    exact fun later recorded _ =>
      recorded.congr rfl (by rw [Contents.size_zeroFrom])
  free := records.free

namespace Bypass

theorem silent_readAvailable
    (stepwise : below.Stepwise)
    (tally mediator amount : Nat) :
    Operation.Silent tally (readAvailable mediator amount below) := by
  intro world
  have read :
      world.Silent tally (world.noteAll (readLocks mediator below world)) :=
    .noteAll fun event member =>
      (quiet_readLocks stepwise mediator world event member).aside
  exact readAvailable_rule (fun _ _ => read) (fun _ _ => trivial)

theorem records_source
    (stepwise : below.Stepwise)
    (records : below.Records tally times)
    (mediator amount : Nat) :
    (source mediator amount below).Records tally times where
  allocate := by
    intro requested minimal world
    refine allocate_rule (fun result later =>
      world.Records tally 0 (priceOf (· * times) result) later)
      (silent_readAvailable stepwise tally mediator amount world) ?first
      (fun _ _ recorded => recorded) ?again
    case first =>
      intro rest later silent
      exact (Mediated.records_allocate records mediator _ _ later).imp
        (fun _ _ recorded => recorded.after_silence silent)
    case again =>
      intro later refused
      exact
        (Mediated.records_allocate records mediator requested minimal later).imp
        (fun _ _ recorded => refused.trans recorded)
  resize := by
    intro requested minimal bench
    refine resize_rule (fun _ later => bench.world.Silent tally later)
      (fun _ later => bench.world.Records tally (bench.contents.size * times)
        (later.contents.size * times) later.world)
      (silent_readAvailable stepwise tally mediator amount bench.world) ?first
      (fun _ recorded => recorded) ?again
    case first =>
      intro rest later silent
      exact (Mediated.records_resize records mediator _ _
        { bench with world := later }).imp
        (fun _ _ recorded => recorded.after_silence silent)
    case again =>
      intro later refused
      exact
        (Mediated.records_resize records mediator requested minimal later).imp
        (fun _ _ recorded => refused.trans recorded)
  free := Mediated.records_free records mediator

end Bypass

theorem Guaranteed.records_source
    (records : below.Records tally times)
    (mediator amount : Nat) :
    (source mediator amount below).Records tally times where
  allocate := by
    intro requested _ world
    have read : world.Silent tally
        (world.noteAll (Mediation.readLocks world mediator)) :=
      .noteAll fun _ member => (Mediation.quiet_of_mem_readLocks member).aside
    refine allocate_rule (fun _ => .of_silent read) fun _ => ?_
    exact (Mediated.records_allocate records mediator requested requested _).imp
      (fun _ _ recorded => recorded.after_silence read)
  resize := by
    intro requested _ bench
    have read : bench.world.Silent tally
        (bench.world.noteAll (Mediation.readLocks bench.world mediator)) :=
      .noteAll fun _ member => (Mediation.quiet_of_mem_readLocks member).aside
    refine resize_rule (fun _ _ => .of_silent read) (fun _ =>
      Mediated.records_resize records mediator requested requested bench)
      fun _ _ => ?_
    exact (Mediated.records_resize records mediator requested requested
      { bench with world := _ }).imp
      (fun _ _ recorded => recorded.after_silence read)
  free := Mediated.records_free records mediator

namespace Tallied

theorem silent_setTally
    {own : Nat}
    (other : tally ≠ own)
    (world : World)
    (account : Tally) :
    world.Silent tally (world.setTally own account) :=
  ⟨rfl, if_neg other⟩

/-- What is reported to another tally makes no difference. -/
theorem records_source_of_ne
    {own : Nat}
    (other : tally ≠ own)
    (records : below.Records tally times) :
    (source own below).Records tally times where
  allocate := fun requested minimal world =>
    allocate_rule (records.allocate requested minimal world)
      (fun _ later recorded =>
        recorded.silently (silent_setTally other later _))
      (fun later recorded => recorded.silently (silent_setTally other later _))
  resize := fun requested minimal bench =>
    resize_rule (records.resize requested minimal bench)
      (fun _ later recorded _ =>
        recorded.silently (silent_setTally other later.world _))
      (fun _ later recorded _ =>
        recorded.silently (silent_setTally other later.world _))
      (fun later recorded _ _ =>
        recorded.silently (silent_setTally other later.world _))
      (fun _ _ recorded _ _ => recorded)
  free := fun size world => free_rule ((records.free size world).imp
    (fun _ later recorded => recorded.silently (silent_setTally other later _)))

/--
A source that lets buffers be cut refuses a resize only if it is for growth, and
one that refits them leaves the size alone where it refuses.
-/
theorem fair_resize
    {byte : Nat → UInt8}
    {layers : List Layer}
    (fills : below.Fills byte)
    (shrinks : below.Shrinks layers)
    (requested minimal : Nat)
    (bench : Workbench) :
    Ends (below.resize requested minimal) bench (fun met later => met = false →
        later.contents.size = bench.contents.size ∧
          bench.contents.size < requested)
      (fun _ _ => True) := by
  by_cases smaller : requested ≤ bench.contents.size
  · refine (shrinks.resize minimal smaller).imp ?_
    intro met later cut refused
    exact absurd (cut.met.symm.trans refused) nofun
  · refine (fills.resize requested minimal bench).imp ?_
    rintro _ later refitted rfl
    exact ⟨congrArg Array.size refitted.same, Nat.not_le.mp smaller⟩

/-- A tallied layer tells its tally of each call that is noted of it. -/
theorem records_noting
    {byte : Nat → UInt8}
    {layers : List Layer}
    (fills : below.Fills byte)
    (shrinks : below.Shrinks layers)
    (records : below.Records tally times) :
    ((source tally below).noting (.layer (.tallied tally))).Records tally
      (times + 1) where
  allocate := by
    intro requested minimal world
    apply Source.noting_allocate_rule
    refine allocate_rule (records.allocate requested minimal world)
      ?granted ?refused
    case granted =>
      intro contents later recorded
      exact (recorded.report (.allocated requested minimal (some contents.size))
        (later.setTally tally _) 0 contents.size rfl (if_pos rfl)
        (Nat.add_comm _ _) trivial).congr
        rfl (Nat.mul_succ contents.size times).symm
    case refused =>
      intro later recorded
      exact recorded.report (.allocated requested minimal none)
        (later.setTally tally _) 0 0 rfl (if_pos rfl) rfl trivial
  resize := by
    intro requested minimal bench
    apply Source.noting_resize_rule
    refine resize_rule ((records.resize requested minimal bench).both
      (fair_resize fills shrinks requested minimal bench))
      ?grown ?cut ?missed ?kept
    case grown =>
      rintro met later ⟨recorded, fair⟩ larger
      refine recorded.reportResized (later.world.setTally tally _) rfl
        ((if_pos rfl).trans ?_) fair
      rw [LayerCall.reportTo, if_pos larger]
    case cut =>
      rintro met later ⟨recorded, fair⟩ less
      refine recorded.reportResized (later.world.setTally tally _) rfl
        ((if_pos rfl).trans ?_) fair
      rw [LayerCall.reportTo, if_neg (Nat.lt_asymm less), if_pos less]
    case missed =>
      rintro later ⟨recorded, fair⟩ same _
      refine recorded.reportResized (later.world.setTally tally _) rfl
        ((if_pos rfl).trans ?_) fair
      simp [LayerCall.reportTo, same]
    case kept =>
      rintro met later ⟨recorded, fair⟩ same notMissing
      refine recorded.reportResized later.world rfl ?_ fair
      cases met with
      | true => simp [LayerCall.reportTo, same]
      | false => exact absurd (fair rfl).2 (Nat.not_lt.mpr (notMissing rfl))
  free := by
    intro size world
    apply Source.noting_free_rule
    exact free_rule ((records.free size _).imp fun _ _ recorded =>
      recorded.reportFreed _ rfl)

end Tallied

namespace Tracked

variable {lineage : Lineage} {enforcing : Bool}

theorem silent_charge
    (tally : Nat)
    (lineage : Lineage)
    (enforcing : Bool)
    (size : Nat) :
    Operation.Silent tally (charge lineage enforcing size) :=
  (tracks_charge lineage enforcing size).silent tally

theorem silent_discharge (tally : Nat) (lineage : Lineage) (size : Nat) :
    Operation.Silent tally (discharge lineage size) :=
  (tracks_discharge lineage size).silent tally

theorem records_allocateFirst
    (records : below.Records tally times)
    (targets : List Nat)
    (world : World) :
    Ends (allocateFirst lineage enforcing below targets) world
      (fun result later =>
        world.Records tally 0 (priceOf (· * times) result) later)
      (fun _ _ => True) := by
  induction targets generalizing world with
  | nil => exact .of_silent (.refl world)
  | cons target rest ih =>
      have charged : Ends (charge lineage enforcing target) world
          (fun _ later => world.Records tally 0 0 later) (fun _ _ => True) :=
        (silent_charge tally lineage enforcing target world).imp
          (fun _ _ silent => .of_silent silent)
      refine allocateFirst_rule (fun result later =>
        world.Records tally 0 (priceOf (· * times) result) later)
        (fun later => world.Records tally 0 0 later)
        charged ?called (fun _ _ recorded => recorded) (fun _ refused =>
          refused.quietly (silent_discharge tally lineage target)) ?again
      case called =>
        intro later charged
        exact (records.allocate target target later).imp
          (fun _ _ recorded => charged.trans recorded)
      case again =>
        intro later tried
        have so_far : world.Records tally 0 0 later := tried.elim id id
        exact (ih later).imp (fun _ _ recorded => so_far.trans recorded)

theorem records_resizeTo
    (records : below.Records tally times)
    (old target : Nat)
    (bench : Workbench) :
    Ends (resizeTo lineage enforcing below old target) bench
      (fun _ later => bench.world.Records tally (bench.contents.size * times)
        (later.contents.size * times) later.world)
      (fun _ _ => True) := by
  have settled : ∀ (later : Workbench) (size : Nat),
      bench.world.Records tally (bench.contents.size * times)
        (later.contents.size * times) later.world →
      Ends (discharge lineage size) later.world
        (fun _ last => bench.world.Records tally (bench.contents.size * times)
          (later.contents.size * times) last)
        (fun _ _ => True) :=
    fun _ size recorded =>
      recorded.quietly (silent_discharge tally lineage size)
  refine Ends.ite (fun _ => ?shrunk) (fun notSmaller => ?grown)
  case shrunk =>
    exact shrinkTo_rule (records.resize target target bench)
      (fun _ recorded => recorded)
      (fun _ _ _ => trivial) (fun later recorded _ => settled later _ recorded)
  case grown =>
    refine growTo_rule (fun _ later => bench.world.Silent tally later)
      (fun _ later => bench.world.Records tally (bench.contents.size * times)
        (later.contents.size * times) later.world) (Nat.not_le.mp notSmaller)
      (silent_charge tally lineage enforcing _ bench.world)
      (fun _ silent => .of_silent silent) ?called (fun _ recorded => recorded)
      (fun later recorded => settled later _ recorded)
    case called =>
      intro later silent
      exact (records.resize target target { bench with world := later }).imp
        (fun _ _ recorded => recorded.after_silence silent)

theorem records_resizeFirst
    (records : below.Records tally times)
    (old : Nat)
    (targets : List Nat)
    (bench : Workbench) :
    Ends (resizeFirst lineage enforcing below old targets) bench
      (fun _ later => bench.world.Records tally (bench.contents.size * times)
        (later.contents.size * times) later.world)
      (fun _ _ => True) := by
  induction targets generalizing bench with
  | nil => exact .of_silent (.refl bench.world)
  | cons target rest ih =>
      refine resizeFirst_rule _ (records_resizeTo records old target bench)
        (fun _ recorded => recorded) fun later tried => ?_
      exact (ih later).imp (fun _ _ recorded => tried.trans recorded)

theorem records_source
    (records : below.Records tally times)
    (lineage : Lineage)
    (enforcing : Bool) :
    (source lineage enforcing below).Records tally times where
  allocate := fun requested minimal =>
    records_allocateFirst records (targets requested minimal)
  resize := fun requested minimal bench => (ends_bind Resizing.size _).mpr
    (records_resizeFirst records bench.contents.size
      (targets requested minimal) bench)
  free := fun size world =>
    free_rule (records.free size world) fun _ recorded =>
      recorded.quietly (silent_discharge tally lineage size)

end Tracked

theorem Locked.records_source
    (records : below.Records tally times)
    (lock : Nat) :
    (source lock below).Records tally times where
  allocate := fun requested minimal _ => (ends_holding _ _).mpr
    ((records.allocate requested minimal _).imp (fun _ _ recorded =>
      (recorded.after_silence (.note rfl)).silently (.note rfl)))
  resize := fun requested minimal bench => (ends_holdingResizing _ _).mpr
    ((records.resize requested minimal { bench with world := _ }).imp
      (fun _ _ recorded =>
        (recorded.after_silence (.note rfl)).silently (.note rfl)))
  free := fun size _ =>
    (ends_holding _ _).mpr ((records.free size _).imp (fun _ _ recorded =>
      (recorded.after_silence (.note rfl)).silently (.note rfl)))

/--
A genuine layer that reports to another tally, or to none, adds nothing to
what is recorded.
-/
theorem Layer.records_over
    {layer : Layer}
    (genuine : layer.Genuine)
    (other : layer ≠ .tallied tally)
    (stepwise : below.Stepwise)
    (records : below.Records tally times) :
    (layer.over below).Records tally times := by
  cases layer with
  | mediated mediator => exact Mediated.records_source records mediator
  | clearing => exact Clearing.records_source records
  | bypass mediator amount =>
      exact Bypass.records_source stepwise records mediator amount
  | tallied own =>
      refine Tallied.records_source_of_ne (fun same => other ?_) records
      rw [same]
  | tracked lineage enforcing =>
      exact Tracked.records_source records lineage enforcing
  | locked lock => exact Locked.records_source records lock
  | relay => exact records
  | guaranteed mediator amount =>
      exact Guaranteed.records_source records mediator amount
  | probe number screen => exact genuine.elim

/--
Every genuine allocator reports to a tally as often as it has layers that do.
-/
theorem Allocator.records_source
    {allocator : Allocator}
    (genuine : allocator.Genuine)
    (tally : Nat) :
    allocator.source.Records tally
      (allocator.countLayers (·.reports tally)) := by
  obtain ⟨layers, heap⟩ := allocator
  induction layers with
  | nil => exact (Heap.records_source heap tally).noting nofun
  | cons layer layers ih =>
      have others : Allocator.Genuine { layers, heap } :=
        fun other member => genuine other (List.mem_cons_of_mem layer member)
      show Source.Records _ tally ((layer :: layers).countP (·.reports tally))
      rw [List.countP_cons]
      by_cases own : layer = .tallied tally
      · subst own
        have reports : (Layer.tallied tally).reports tally = true :=
          decide_eq_true rfl
        rw [if_pos reports]
        exact Tallied.records_noting (fills_source { layers, heap })
          (shrinks_source others) (ih others)
      · have silent : ¬layer.reports tally = true := by
          intro reports
          cases layer with
          | tallied number =>
              refine own ?_
              rw [of_decide_eq_true reports]
          | _ => exact Bool.false_ne_true reports
        rw [if_neg silent]
        refine (Layer.records_over (genuine layer List.mem_cons_self) own
          (stepwise_source { layers, heap }) (ih others)).noting ?_
        exact fun same => own (Site.layer.inj same)

end BufferBudget
