import Mathlib.Algebra.BigOperators.Group.List.Basic
import BufferBudget.Proofs.Accounting
import BufferBudget.Proofs.Reports

/-!
# Tallies agree with the calls and with what is held

The counters of a tally, as sums over the calls that were reported to it, and
the contract of sources about reports, carried up to the calls of a session.

Counters keep the remainder past the largest size, so that they are first
computed as remainders of totals (`foldr_reportTo`); where the totals are sizes
(`LayerCall.Fit`) they are the totals themselves.  The bytes gained less the
bytes lost are those of the buffers that are held, as often as the allocator
which a buffer goes back to reports them.
-/

namespace BufferBudget

namespace LayerCall

/-- A request that was met. -/
def isGrant : LayerCall → Bool
  | .allocated _ _ (some _) => true
  | _ => false

/-- A resize after which the buffer is larger. -/
def isGrowth : LayerCall → Bool
  | .resized _ _ _ old new => old < new
  | _ => false

/-- A release. -/
def isRelease : LayerCall → Bool
  | .freed _ => true
  | _ => false

/-- A resize after which the buffer is smaller. -/
def isCut : LayerCall → Bool
  | .resized _ _ _ old new => new < old
  | _ => false

/-- A request or a resize that was refused. -/
def isRefusal : LayerCall → Bool
  | .allocated _ _ none => true
  | .resized _ _ met _ _ => !met
  | _ => false

/-- What some calls add up to is no more than a counter holds. -/
structure Fit (calls : List LayerCall) : Prop where
  gained : (calls.map gained).sum ≤ Size.limit
  lost : (calls.map lost).sum ≤ Size.limit
  allocations : calls.countP isGrant + calls.countP isGrowth ≤ Size.limit
  frees : calls.countP isRelease + calls.countP isCut ≤ Size.limit
  refusals : calls.countP isRefusal ≤ Size.limit

/--
A counter to which each call adds its share, or which it leaves alone if it has
none, is what the shares add up to.
-/
theorem foldr_reportTo
    (counter : Tally → Nat)
    (share : LayerCall → Nat)
    {calls : List LayerCall}
    (nothing : counter .zero = 0)
    (adds : ∀ call ∈ calls, ∀ tally,
      counter (call.reportTo tally) = Size.wrap (counter tally + share call) ∨
      counter (call.reportTo tally) = counter tally ∧ share call = 0) :
    counter (calls.foldr reportTo .zero) = Size.wrap (calls.map share).sum := by
  induction calls with
  | nil => exact nothing
  | cons call rest ih =>
      have earlier := ih fun other member =>
        adds other (List.mem_cons_of_mem call member)
      rw [List.foldr_cons, List.map_cons, List.sum_cons]
      rcases adds call List.mem_cons_self (rest.foldr reportTo .zero) with
        added | ⟨same, none⟩
      · rw [added, earlier, Size.wrap_wrap_add, Nat.add_comm]
      · rw [same, earlier, none, Nat.zero_add]

theorem sum_map_toNat (condition : LayerCall → Bool) (calls : List LayerCall) :
    (calls.map fun call => (condition call).toNat).sum =
      calls.countP condition := by
  induction calls with
  | nil => rfl
  | cons call rest ih =>
      rw [List.map_cons, List.sum_cons, ih, List.countP_cons, Nat.add_comm]
      cases condition call <;> rfl

section Counters

variable (calls : List LayerCall)

theorem allocatedBytes_told :
    (calls.foldr reportTo .zero).allocatedBytes =
      Size.wrap (calls.map gained).sum := by
  refine foldr_reportTo Tally.allocatedBytes gained rfl fun call _ tally => ?_
  cases call with
  | allocated requested minimal granted =>
      cases granted with
      | none => exact .inr ⟨rfl, rfl⟩
      | some size => exact .inl rfl
  | freed size => exact .inr ⟨rfl, rfl⟩
  | resized requested minimal met old new =>
      by_cases larger : old < new
      · exact .inl (by rw [reportTo, if_pos larger]; rfl)
      · refine .inr ⟨?_, Nat.sub_eq_zero_of_le (Nat.not_lt.mp larger)⟩
        rw [reportTo, if_neg larger]
        split
        · rfl
        · split <;> rfl

theorem freedBytes_told :
    (calls.foldr reportTo .zero).freedBytes =
      Size.wrap (calls.map lost).sum := by
  refine foldr_reportTo Tally.freedBytes lost rfl fun call _ tally => ?_
  cases call with
  | allocated requested minimal granted =>
      cases granted <;> exact .inr ⟨rfl, rfl⟩
  | freed size => exact .inl rfl
  | resized requested minimal met old new =>
      by_cases less : new < old
      · exact .inl
          (by rw [reportTo, if_neg (Nat.lt_asymm less), if_pos less]; rfl)
      · refine .inr ⟨?_, Nat.sub_eq_zero_of_le (Nat.not_lt.mp less)⟩
        rw [reportTo, if_neg less]
        split
        · rfl
        · split <;> rfl

theorem allocations_told :
    (calls.foldr reportTo .zero).allocations =
      Size.wrap (calls.countP isGrant + calls.countP isGrowth) := by
  rw [← sum_map_toNat, ← sum_map_toNat, ← List.sum_map_add]
  refine foldr_reportTo Tally.allocations _ rfl fun call _ tally => ?_
  cases call with
  | allocated requested minimal granted =>
      cases granted with
      | none => exact .inr ⟨rfl, rfl⟩
      | some size => exact .inl rfl
  | freed size => exact .inr ⟨rfl, rfl⟩
  | resized requested minimal met old new =>
      by_cases larger : old < new
      · exact .inl
          (by simp [reportTo, larger, Tally.allocated, isGrant, isGrowth])
      · refine .inr ⟨?_, by simp [isGrant, isGrowth, larger]⟩
        rw [reportTo, if_neg larger]
        split
        · rfl
        · split <;> rfl

theorem frees_told :
    (calls.foldr reportTo .zero).frees =
      Size.wrap (calls.countP isRelease + calls.countP isCut) := by
  rw [← sum_map_toNat, ← sum_map_toNat, ← List.sum_map_add]
  refine foldr_reportTo Tally.frees _ rfl fun call _ tally => ?_
  cases call with
  | allocated requested minimal granted =>
      cases granted <;> exact .inr ⟨rfl, rfl⟩
  | freed size => exact .inl rfl
  | resized requested minimal met old new =>
      by_cases less : new < old
      · exact .inl (by simp [reportTo, less, Nat.lt_asymm less, Tally.freed,
          isRelease, isCut])
      · refine .inr ⟨?_, by simp [isRelease, isCut, less]⟩
        rw [reportTo, if_neg less]
        split
        · rfl
        · split <;> rfl

/--
Refusals are counted in full only because a resize that is refused leaves the
size alone and was for growth.
-/
theorem refusals_told
    {calls : List LayerCall}
    (fair : ∀ call ∈ calls, call.Fair) :
    (calls.foldr reportTo .zero).refusals =
      Size.wrap (calls.countP isRefusal) := by
  rw [← sum_map_toNat]
  refine foldr_reportTo Tally.refusals _ rfl fun call member tally => ?_
  cases call with
  | allocated requested minimal granted =>
      cases granted with
      | none => exact .inl rfl
      | some size => exact .inr ⟨rfl, rfl⟩
  | freed size => exact .inr ⟨rfl, rfl⟩
  | resized requested minimal met old new =>
      cases met with
      | true =>
          refine .inr ⟨?_, rfl⟩
          rw [reportTo]
          split
          · rfl
          · split <;> rfl
      | false =>
          obtain ⟨rfl, -⟩ := fair _ member rfl
          exact .inl (by simp [reportTo, Tally.refused, isRefusal])

end Counters

end LayerCall

/--
The counters of a tally are what the calls so far that report to it add up to,
and these have gained as many bytes more than they have lost as are held.
-/
structure World.Agrees (world : World) (tally held : Nat) : Prop where
  told : world.tallies.entry tally =
    (world.reportedCalls tally).foldr LayerCall.reportTo .zero
  balanced : ((world.reportedCalls tally).map LayerCall.gained).sum =
    ((world.reportedCalls tally).map LayerCall.lost).sum + held
  fair : ∀ call ∈ world.reportedCalls tally, call.Fair

/--
A tally that nothing had been reported to agrees with what has been
recorded since.
-/
theorem World.Records.agrees
    {world later : World}
    {tally held : Nat}
    (records : world.Records tally 0 held later)
    (none : world.reportedCalls tally = [])
    (unused : world.tallies.entry tally = .zero) :
    later.Agrees tally held := by
  obtain ⟨made, recorded⟩ := records
  have all : later.reportedCalls tally = made := by
    rw [recorded.noted, none, List.append_nil]
  refine ⟨?_, ?_, ?_⟩
  · rw [all, ← unused]
    exact recorded.told
  · rw [all]
    exact recorded.balanced
  · rw [all]
    exact recorded.fair

namespace World.Agrees

variable {world : World} {tally held : Nat}

theorem allocatedBytes_eq
    (agrees : world.Agrees tally held)
    (fit : LayerCall.Fit (world.reportedCalls tally)) :
    (world.tallies.entry tally).allocatedBytes =
      (world.tallies.entry tally).freedBytes + held := by
  rw [agrees.told, LayerCall.allocatedBytes_told, LayerCall.freedBytes_told,
    Size.wrap_of_le fit.gained, Size.wrap_of_le fit.lost, agrees.balanced]

theorem outstanding_eq
    (agrees : world.Agrees tally held)
    (fit : LayerCall.Fit (world.reportedCalls tally)) :
    (world.tallies.entry tally).outstanding = held := by
  rw [Tally.outstanding, agrees.allocatedBytes_eq fit, Nat.add_sub_cancel_left]

end World.Agrees

/-- The bytes that a buffer stands for at a tally. -/
def Buffer.reported (buffer : Buffer) (tally : Nat) : Nat :=
  buffer.size * buffer.originator.countLayers (·.reports tally)

namespace Allocator

variable {allocator : Allocator} {tally : Nat}

theorem records_allocate
    (genuine : allocator.Genuine)
    (tally requested minimal : Nat)
    (world : World) :
    Ends (allocator.allocate requested minimal) world
      (fun result later => (result = none → world.Records tally 0 0 later) ∧
        ∀ buffer, result = some buffer →
          buffer.originator.Genuine ∧
            world.Records tally 0 (buffer.reported tally) later)
      (fun _ _ => True) := by
  refine allocate_rule _ (fun _ => trivial) (fun _ =>
    (allocator.records_source genuine tally).allocate requested minimal world)
    ?_
  intro result later recorded diagnostics
  have told := recorded.silently (.told _ diagnostics)
  refine ⟨?_, fun buffer made => ?_⟩
  · intro refused
    rw [Option.map_eq_none_iff.mp refused] at told
    exact told
  · obtain ⟨contents, rfl, rfl⟩ := Option.map_eq_some_iff.mp made
    exact ⟨genuine, told⟩

theorem records_tryAllocate
    (genuine : allocator.Genuine)
    (tally requested minimal : Nat)
    (world : World) :
    Ends (allocator.tryAllocate requested minimal) world (fun result later =>
      (∀ refusal, result = .error refusal → world.Records tally 0 0 later) ∧
        ∀ buffer, result = .ok buffer →
          buffer.originator.Genuine ∧
            world.Records tally 0 (buffer.reported tally) later)
      (fun _ _ => True) := by
  refine tryAllocate_rule
    (records_allocate genuine tally requested minimal world) ?given ?read
  case given =>
    rintro buffer later ⟨-, made⟩
    refine ⟨nofun, ?_⟩
    rintro _ ⟨⟩
    exact made buffer rfl
  case read =>
    rintro later ⟨refused, -⟩
    exact ((refused rfl).quietly
      (Source.silent_readAvailable allocator.stepwise_source tally)).imp
      (fun _ _ recorded => ⟨fun _ _ => recorded, nofun⟩)

theorem records_resize
    (genuine : allocator.Genuine)
    (tally requested minimal : Nat)
    (bench : Workbench) :
    Ends (allocator.resize requested minimal) bench
      (fun _ later => bench.world.Records tally
        (bench.contents.size * allocator.countLayers (·.reports tally))
        (later.contents.size * allocator.countLayers (·.reports tally))
        later.world) (fun _ _ => True) :=
  resize_rule _ (fun _ => trivial) (fun _ =>
    (allocator.records_source genuine tally).resize requested minimal bench)
    fun _ _ recorded diagnostics => recorded.silently (.told _ diagnostics)

theorem records_tryResize
    (genuine : allocator.Genuine)
    (tally requested : Nat)
    (bench : Workbench) :
    Ends (allocator.tryResize requested) bench
      (fun _ later => bench.world.Records tally
        (bench.contents.size * allocator.countLayers (·.reports tally))
        (later.contents.size * allocator.countLayers (·.reports tally))
        later.world) (fun _ _ => True) :=
  tryResize_rule _ (records_resize genuine tally requested requested bench)
    (fun _ recorded => recorded) (fun _ recorded => recorded)

end Allocator

namespace Session

/-- The bytes that the held buffers stand for at a tally. -/
def reported (session : Session) (tally : Nat) : Nat :=
  session.shelf.total (·.reported tally)

/-- What is held goes back to genuine allocators. -/
def OnGenuine (session : Session) : Prop :=
  ∀ handle buffer, session.shelf.find? handle = some buffer →
    buffer.originator.Genuine

/--
A call that has been given an answer has been reported to a tally, with the
bytes that the held buffers stand for there.
-/
def Reports (tally : Nat) (session : Session) (outcome : Answer × Session) :
    Prop :=
  outcome.1.fault? = none →
    session.world.Records tally (session.reported tally)
        (outcome.2.reported tally) outcome.2.world ∧ outcome.2.OnGenuine

/--
The calls that tallies agree with: they are made on genuine allocators, and a
buffer is resized through the allocator that it came from.
-/
def Reportable (session : Session) : Call → Prop
  | .allocate _ allocator _ _ => allocator.Genuine
  | .tryAllocate _ allocator _ _ => allocator.Genuine
  | .resizeSlot handle allocator _ _ =>
      allocator.Genuine ∧
        ∀ buffer, session.shelf.find? handle = some buffer →
          allocator = buffer.originator
  | .resize handle through _ _ =>
      ∀ buffer, session.shelf.find? handle = some buffer →
        through.getD buffer.originator = buffer.originator
  | .tryResize handle through _ =>
      ∀ buffer, session.shelf.find? handle = some buffer →
        through.getD buffer.originator = buffer.originator
  | _ => True

variable {session : Session} {tally handle : Nat}

theorem OnGenuine.insert
    (genuine : session.OnGenuine)
    (handle : Nat)
    (buffer : Buffer)
    (own : buffer.originator.Genuine)
    (world : World) :
    ({ world, shelf := session.shelf.insert handle buffer } :
      Session).OnGenuine := by
  intro key other held
  rw [Shelf.find?_insert] at held
  split at held
  · obtain rfl := Option.some.inj held
    exact own
  · exact genuine key other held

theorem OnGenuine.erase
    (genuine : session.OnGenuine)
    (handle : Nat)
    (world : World) :
    ({ world, shelf := session.shelf.erase handle } : Session).OnGenuine := by
  intro key other held
  rw [Shelf.find?_erase] at held
  split at held
  · exact nomatch held
  · exact genuine key other held

theorem reported_insert
    (session : Session)
    (handle : Nat)
    (buffer : Buffer)
    (world : World)
    (tally : Nat) :
    ({ world, shelf := session.shelf.insert handle buffer } : Session).reported
        tally + Shelf.weightOf (·.reported tally) (session.shelf.find? handle) =
      session.reported tally + buffer.reported tally :=
  session.shelf.total_insert handle buffer

theorem reported_erase
    (session : Session)
    (handle : Nat)
    (world : World)
    (tally : Nat) :
    ({ world, shelf := session.shelf.erase handle } : Session).reported tally +
        Shelf.weightOf (·.reported tally) (session.shelf.find? handle) =
      session.reported tally :=
  session.shelf.total_erase handle

theorem reports_of_fault
    {outcome : Answer × Session}
    {fault : Fault}
    (stopped : outcome.1.fault? = some fault) :
    Reports tally session outcome :=
  fun ended => nomatch stopped.symm.trans ended

theorem reports_of_silent
    (genuine : session.OnGenuine)
    {later : World}
    (silent : session.world.Silent tally later)
    (answer : Answer) :
    Reports tally session (answer, { session with world := later }) :=
  fun _ => ⟨.of_silent silent, genuine⟩

theorem reports_self (genuine : session.OnGenuine) (answer : Answer) :
    Reports tally session (answer, session) :=
  reports_of_silent genuine (.refl session.world) answer

theorem reports_release (genuine : session.OnGenuine) (handle : Nat) :
    Reports tally session
      (.freed (session.release handle).1, (session.release handle).2) := by
  refine release_rule
    (fun result later => Reports tally session (.freed result, later))
    (fun _ => reports_self genuine _) fun buffer held => ?_
  have own := genuine handle buffer held
  refine ((buffer.originator.records_source own tally).free buffer.size
    session.world).mono ?_ (fun _ _ _ => reports_of_fault rfl)
  intro _ later recorded _
  have fewer := session.reported_erase handle later tally
  rw [held] at fewer
  refine ⟨(recorded.beside _).congr ?_ (Nat.zero_add _),
    genuine.erase handle later⟩
  exact (Nat.add_comm _ _).trans fewer

/--
A buffer that is put under an empty handle stands for what has been
reported of it.
-/
theorem reports_insert
    (genuine : session.OnGenuine)
    (vacant : session.shelf.find? handle = none)
    {buffer : Buffer}
    {later : World}
    (own : buffer.originator.Genuine)
    (recorded : session.world.Records tally 0 (buffer.reported tally) later)
    (answer : Answer) :
    Reports tally session (answer,
      { world := later, shelf := session.shelf.insert handle buffer }) := by
  intro _
  have more := session.reported_insert handle buffer later tally
  rw [vacant] at more
  refine ⟨(recorded.beside (session.reported tally)).congr (Nat.zero_add _) ?_,
    genuine.insert handle buffer own later⟩
  exact (Nat.add_comm _ _).trans more.symm

theorem reports_allocateInto
    (genuine : session.OnGenuine)
    (vacant : session.shelf.find? handle = none)
    {allocator : Allocator}
    (own : allocator.Genuine)
    (requested minimal : Nat)
    (answer : Except Fault (Option Contents) → Answer)
    (reports : ∀ fault, (answer (.error fault)).fault? = some fault) :
    Reports tally session
      (answer (session.allocateInto handle allocator requested minimal).1,
        (session.allocateInto handle allocator requested minimal).2) := by
  refine allocateInto_rule
    (fun result later => Reports tally session (answer result, later)) ?_
  refine (Allocator.records_allocate own tally requested minimal
    session.world).mono ?_ (fun fault _ _ => reports_of_fault (reports fault))
  rintro result later ⟨refused, given⟩
  refine ⟨fun none _ =>
    ⟨((refused none).beside _).congr (Nat.zero_add _) (Nat.zero_add _),
      genuine⟩, fun buffer made => ?_⟩
  exact reports_insert genuine vacant (given buffer made).1
    (given buffer made).2 _

theorem reports_tryAllocateInto
    (genuine : session.OnGenuine)
    (vacant : session.shelf.find? handle = none)
    {allocator : Allocator}
    (own : allocator.Genuine)
    (requested minimal : Nat) :
    Reports tally session
      (.tried (session.tryAllocateInto handle allocator requested minimal).1,
        (session.tryAllocateInto handle allocator requested minimal).2) := by
  refine tryAllocateInto_rule
    (fun result later => Reports tally session (.tried result, later)) ?_
  refine (Allocator.records_tryAllocate own tally requested minimal
    session.world).mono ?_ (fun _ _ _ => reports_of_fault rfl)
  rintro result later ⟨refused, given⟩
  refine ⟨fun refusal same _ => ⟨((refused refusal same).beside _).congr
    (Nat.zero_add _) (Nat.zero_add _), genuine⟩, fun buffer made => ?_⟩
  exact reports_insert genuine vacant (given buffer made).1
    (given buffer made).2 _

/--
A buffer that is resized in its place stands for what has been reported
of its new size.
-/
theorem reports_resizeHeld
    {α : Type}
    {resizing : Resizing α}
    {buffer : Buffer}
    (genuine : session.OnGenuine)
    (held : session.shelf.find? handle = some buffer)
    (records :
      Ends resizing { world := session.world, contents := buffer.contents }
      (fun _ later => session.world.Records tally (buffer.reported tally)
        (Buffer.reported { buffer with contents := later.contents } tally)
        later.world) (fun _ _ => True))
    (answer : Except Fault α → Contents → Answer)
    (reports : ∀ fault contents,
      (answer (.error fault) contents).fault? = some fault) :
    Reports tally session (answer (session.resizeHeld handle buffer resizing).1
      (session.resizeHeld handle buffer resizing).2.1,
      (session.resizeHeld handle buffer resizing).2.2) := by
  refine resizeHeld_rule (fun result contents later =>
    Reports tally session (answer result contents, later)) ?_
  refine records.mono ?_ (fun fault _ _ => reports_of_fault (reports fault _))
  intro _ later recorded _
  have others := session.reported_erase handle session.world tally
  have more := session.reported_insert handle
    { buffer with contents := later.contents } later.world tally
  rw [held] at others more
  simp only [Shelf.weightOf] at others more
  refine ⟨(recorded.beside
    (session.reported tally - buffer.reported tally)).congr ?_ ?_,
    genuine.insert handle { buffer with contents := later.contents }
    (genuine handle buffer held) later.world⟩
  · omega
  · dsimp only
    omega

theorem reports_run
    {α : Type}
    {operation : Operation α}
    (genuine : session.OnGenuine)
    (silent : operation.Silent tally)
    (answer : Except Fault α → Answer)
    (reports : ∀ fault, (answer (.error fault)).fault? = some fault) :
    Reports tally session
      (answer (session.run operation).1, (session.run operation).2) :=
  run_rule (fun result later => Reports tally session (answer result, later))
    ((silent session.world).mono
      (fun _ _ still => reports_of_silent genuine still _)
      fun fault _ _ => reports_of_fault (reports fault))

theorem reports_performNew
    {next : Session → Answer × Session}
    {stopped : Fault → Answer}
    (genuine : session.OnGenuine)
    (handle : Nat)
    (onwards : ∀ later : Session, later.OnGenuine →
      later.shelf.find? handle = none → Reports tally later (next later))
    (reports : ∀ fault, (stopped fault).fault? = some fault) :
    Reports tally session (session.performNew handle next stopped) := by
  have freed := @reports_release session tally genuine handle
  have vacant := session.find?_release handle
  refine performNew_rule (Reports tally session) (fun fault later _ => ?_)
    (fun _ later released => ?_)
  · exact reports_of_fault (reports fault)
  · rw [released] at freed vacant
    obtain ⟨recorded, stillGenuine⟩ := freed rfl
    intro ended
    obtain ⟨further, last⟩ := onwards later stillGenuine vacant ended
    exact ⟨recorded.trans further, last⟩

theorem reports_performHeld
    {next : Buffer → Answer × Session}
    (genuine : session.OnGenuine)
    (handle : Nat)
    (onwards : ∀ buffer, session.shelf.find? handle = some buffer →
      Reports tally session (next buffer)) :
    Reports tally session (session.performHeld handle next) :=
  performHeld_rule (Reports tally session)
    (fun _ => reports_self genuine _) onwards

theorem reports_performWrite
    (genuine : session.OnGenuine)
    (handle : Nat)
    (edit : Contents → Contents)
    (sameSize : ∀ contents, (edit contents).size = contents.size) :
    Reports tally session (session.performWrite handle edit) := by
  refine reports_performHeld genuine handle fun buffer held _ => ?_
  have same := session.reported_insert handle
    { buffer with contents := edit buffer.contents } session.world tally
  rw [held] at same
  refine ⟨.congr (.of_silent (.refl session.world)) rfl ?_,
    genuine.insert handle { buffer with contents := edit buffer.contents }
      (genuine handle buffer held) session.world⟩
  simp only [Shelf.weightOf, Buffer.reported, Buffer.size, sameSize, hold]
      at same ⊢
  omega

/-- Every call that tallies agree with is reported to them. -/
theorem reports_perform
    (genuine : session.OnGenuine)
    {call : Call}
    (reportable : session.Reportable call) :
    Reports tally session (session.perform call) := by
  cases call with
  | allocate handle allocator requested minimal =>
      exact reports_performNew genuine handle (fun _ still vacant =>
        reports_allocateInto still vacant reportable requested minimal
        Answer.allocated fun _ => rfl) (fun _ => rfl)
  | tryAllocate handle allocator requested minimal =>
      exact reports_performNew genuine handle (fun _ still vacant =>
        reports_tryAllocateInto still vacant reportable requested minimal)
        (fun _ => rfl)
  | resizeSlot handle allocator requested minimal =>
      rw [perform]
      split
      · rename_i vacant
        exact reports_allocateInto genuine vacant reportable.1 requested minimal
          (fun result => .resized (result.map Option.isSome)
            (result.toOption.bind id)) fun _ => rfl
      · rename_i buffer held
        obtain rfl := reportable.2 buffer held
        exact reports_resizeHeld genuine held
          (Allocator.records_resize reportable.1 tally requested minimal _)
          (fun result contents => .resized result (some contents))
          fun _ _ => rfl
  | resize handle through requested minimal =>
      refine reports_performHeld genuine handle fun buffer held => ?_
      dsimp only
      rw [reportable buffer held]
      exact reports_resizeHeld genuine held (Allocator.records_resize
        (genuine handle buffer held) tally requested minimal _)
        (fun result contents => .resized result (some contents)) fun _ _ => rfl
  | tryResize handle through requested =>
      refine reports_performHeld genuine handle fun buffer held => ?_
      dsimp only
      rw [reportable buffer held]
      exact reports_resizeHeld genuine held (Allocator.records_tryResize
        (genuine handle buffer held) tally requested _)
        Answer.triedResize fun _ _ => rfl
  | free handle => exact reports_release genuine handle
  | fill handle byte =>
      exact reports_performWrite genuine handle
        (fun contents => contents.fill byte) fun contents =>
        contents.size_fill byte
  | write handle offset bytes =>
      exact reports_performWrite genuine handle
        (fun contents => contents.write offset bytes) fun contents =>
        contents.size_write offset bytes
  | read handle =>
      exact reports_performHeld genuine handle fun _ _ => reports_self genuine _
  | originAvailable handle =>
      exact reports_performHeld genuine handle fun buffer _ =>
        reports_run genuine
          (Source.silent_readAvailable buffer.originator.stepwise_source tally)
          Answer.available fun _ => rfl
  | describe handle address =>
      exact reports_performHeld genuine handle fun _ _ => reports_self genuine _
  | setCeiling mediator ceiling =>
      exact reports_run genuine
        (Mediation.silent_setCeiling tally mediator ceiling) Answer.done
        fun _ => rfl
  | mediatorAllocate mediator requested minimal =>
      exact reports_run genuine
        (Mediation.silent_allocate tally mediator requested minimal)
        Answer.granted fun _ => rfl
  | mediatorFree mediator amount =>
      exact reports_run genuine
        (Mediation.silent_free tally mediator amount) Answer.done fun _ => rfl
  | tryConsume lineage bytes =>
      exact reports_run genuine
        ((Charging.tracks_tryConsume lineage bytes).silent tally)
        Answer.admitted fun _ => rfl
  | consume lineage bytes =>
      exact reports_run genuine
        ((Charging.tracks_consume lineage bytes).silent tally)
        Answer.done fun _ => rfl
  | release lineage bytes =>
      exact reports_run genuine
        ((Charging.tracks_release lineage bytes).silent tally)
        Answer.done fun _ => rfl

/-- The calls that tallies agree with and that do not stop. -/
def ReportableEnding (session : Session) (call : Call) : Prop :=
  session.Reportable call ∧ (session.perform call).1.fault? = none

theorem records_performAll
    {world : World}
    {calls : List Call}
    (follows : (start world).Follows ReportableEnding calls)
    (tally : Nat) :
    world.Records tally 0 (((start world).performAll calls).reported tally)
      ((start world).performAll calls).world := by
  have begins : world.Records tally 0 ((start world).reported tally) world ∧
      (start world).OnGenuine :=
    ⟨.of_silent (.refl world), nofun⟩
  refine (follows.invariant (fun session => world.Records tally 0
      (session.reported tally) session.world ∧ session.OnGenuine) ?_ begins).1
  rintro session call ⟨reportable, ended⟩ ⟨recorded, genuine⟩
  obtain ⟨further, still⟩ := reports_perform genuine reportable ended
  exact ⟨recorded.trans further, still⟩

theorem agrees_performAll
    {world : World}
    (fresh : world.Fresh)
    {tally : Nat}
    (unused : world.tallies.entry tally = .zero)
    {calls : List Call}
    (follows : (start world).Follows ReportableEnding calls) :
    ((start world).performAll calls).world.Agrees tally
      (((start world).performAll calls).reported tally) := by
  refine (records_performAll follows tally).agrees ?_ unused
  refine List.filterMap_eq_nil_iff.mpr fun event member => ?_
  exact (fresh.trail event member).aside.reportedCall? tally

/--
After any run on genuine allocators that does not stop, from fresh accounts and
a tally that nothing has been reported to, where the totals are sizes: the bytes
gained less the bytes lost are what is outstanding, and are the sizes of the
held buffers, each as often as the allocator that it goes back to reports to the
tally; and each call on these layers has been counted, as a grant or growth, as
a release or cut, or as a refusal.
-/
theorem tally_counts_every_call
    {world : World}
    (fresh : world.Fresh)
    {tally : Nat}
    (unused : world.tallies.entry tally = .zero)
    {calls : List Call}
    (follows : (start world).Follows ReportableEnding calls)
    (fit : LayerCall.Fit
      (((start world).performAll calls).world.reportedCalls tally)) :
    let session := (start world).performAll calls
    let counters := session.world.tallies.entry tally
    let noted := session.world.reportedCalls tally
    counters.allocatedBytes = counters.freedBytes + session.reported tally ∧
      counters.outstanding = session.reported tally ∧
      counters.allocations =
          noted.countP LayerCall.isGrant + noted.countP LayerCall.isGrowth ∧
      counters.frees =
          noted.countP LayerCall.isRelease + noted.countP LayerCall.isCut ∧
      counters.refusals = noted.countP LayerCall.isRefusal := by
  intro session counters noted
  have agrees := agrees_performAll fresh unused follows
  refine ⟨agrees.allocatedBytes_eq fit, agrees.outstanding_eq fit, ?_, ?_, ?_⟩
  · exact (congrArg Tally.allocations agrees.told).trans
      ((LayerCall.allocations_told noted).trans
        (Size.wrap_of_le fit.allocations))
  · exact (congrArg Tally.frees agrees.told).trans
      ((LayerCall.frees_told noted).trans (Size.wrap_of_le fit.frees))
  · exact (congrArg Tally.refusals agrees.told).trans
      ((LayerCall.refusals_told agrees.fair).trans
        (Size.wrap_of_le fit.refusals))

/--
A tally above and below a layer that asks twice: a growth that is refused counts
three times, and the four bytes that are held in the end count eight.
-/
theorem tally_counts_every_call_of_tally_above_and_below :
    let allocator : Allocator :=
      { layers := [.tallied 0, .bypass 0 4, .tallied 0, .mediated 1],
        heap := .standard }
    let world :=
      World.start [.unlimited, .ofQuota (.ofCeiling 12 true false)] []
    let calls : List Call := [.allocate 0 allocator 9 6, .resize 0 none 30 14,
      .resize 0 none 4 4, .allocate 1 allocator 5 1, .free 1]
    (((start world).performAll calls).world.tallies.entry 0).refusals = 3 ∧
      (((start world).performAll calls).world.tallies.entry 0).outstanding = 8 ∧
        ((start world).performAll calls).reported 0 = 8 := by
  intro allocator world calls
  have fresh : world.Fresh :=
    .start_quotas [.ofCeiling Size.limit true false, .ofCeiling 12 true false]
      (by decide) (by decide)
  have genuine : allocator.Genuine := by
    simp [allocator, Allocator.Genuine, Layer.Genuine]
  have follows : (start world).Follows ReportableEnding calls := by
    refine ⟨⟨genuine, ?_⟩, ⟨fun _ _ => rfl, ?_⟩, ⟨fun _ _ => rfl, ?_⟩,
      ⟨genuine, ?_⟩, ⟨trivial, ?_⟩, trivial⟩
    all_goals decide +kernel
  have fit : LayerCall.Fit
      (((start world).performAll calls).world.reportedCalls 0) := by
    constructor <;> decide +kernel
  have refused : (((start world).performAll calls).world.reportedCalls 0).countP
      LayerCall.isRefusal = 3 := by
    decide +kernel
  have held : ((start world).performAll calls).reported 0 =
      8 := by decide +kernel
  obtain ⟨-, outstanding, -, -, refusals⟩ :=
    tally_counts_every_call fresh rfl follows fit
  exact ⟨refusals.trans refused, outstanding.trans held, held⟩

end Session

end BufferBudget
