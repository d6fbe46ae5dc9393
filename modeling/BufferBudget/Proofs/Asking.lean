import BufferBudget.Proofs.Deciding

/-!
# Requests put to an allocator

There are five calls by which a user puts a request to an allocator: three may
ask for a new buffer, and three for another size of one that is held.  `Puts`
says of a call which allocator it puts its request to, and which size there was.

All of them come to one call on the source of the allocator.  What is known of
that call, where no more has happened than is watched for, is known of the
answer: whether it is met, refused, or stopped at a fault (`Tells`).
-/

namespace BufferBudget

/--
An answer that is met is met with a good size, one that is refused was well
refused, and one that has stopped at a fault has stopped at a bad one, or when
it told why it was refused.
-/
structure Answer.Tells
    (answer : Answer)
    (good : Option Nat → Prop)
    (bad : Fault → Prop) : Prop where
  ends : (∃ size, answer.met? = some size) ∨ answer.refuses = true ∨
    ∃ fault, answer.fault? = some fault
  met : ∀ size, answer.met? = some size → good (some size)
  refused : answer.refuses = true → good none
  stopped : ∀ fault, answer.fault? = some fault → bad fault ∨ good none

namespace Answer

variable {answer : Answer} {good : Option Nat → Prop} {bad : Fault → Prop}

theorem tells_of_met
    {size : Nat}
    (met : answer.met? = some size)
    (notRefused : answer.refuses = false)
    (ended : answer.fault? = none)
    (holds : good (some size)) :
    answer.Tells good bad where
  ends := .inl ⟨size, met⟩
  met := fun _ same => Option.some.inj (met.symm.trans same) ▸ holds
  refused := fun refused => nomatch notRefused.symm.trans refused
  stopped := fun _ stopped => nomatch ended.symm.trans stopped

theorem tells_of_refused
    (unmet : answer.met? = none)
    (refused : answer.refuses = true)
    (ended : answer.fault? = none)
    (holds : good none) :
    answer.Tells good bad where
  ends := .inr (.inl refused)
  met := fun _ met => nomatch unmet.symm.trans met
  refused := fun _ => holds
  stopped := fun _ stopped => nomatch ended.symm.trans stopped

theorem tells_of_fault
    {fault : Fault}
    (unmet : answer.met? = none)
    (notRefused : answer.refuses = false)
    (stopped : answer.fault? = some fault)
    (holds : bad fault ∨ good none) :
    answer.Tells good bad where
  ends := .inr (.inr ⟨fault, stopped⟩)
  met := fun _ met => nomatch unmet.symm.trans met
  refused := fun refused => nomatch notRefused.symm.trans refused
  stopped := fun _ same => Option.some.inj (stopped.symm.trans same) ▸ holds

/-- Where no refusal is good and no fault is bad, an answer is met. -/
theorem Tells.exists_met
    (tells : answer.Tells good bad)
    (met : ¬good none)
    (ended : ∀ fault, ¬bad fault) :
    ∃ size, answer.met? = some size ∧ good (some size) := by
  rcases tells.ends with ⟨size, isMet⟩ | refused | ⟨fault, stopped⟩
  · exact ⟨size, isMet, tells.met size isMet⟩
  · exact absurd (tells.refused refused) met
  · exact ((tells.stopped fault stopped).elim (ended fault) met).elim

end Answer

/--
What a source has answered to a request for a new buffer is good, where no more
has happened than is watched for.
-/
def MadeWell
    (watch : Watch)
    (good : Option Nat → Prop)
    (result : Option Contents)
    (later : World) : Prop :=
  watch.Clear later → good (result.map (·.size))

/--
What a source has answered to a request about a buffer is good, where no more
has happened than is watched for.
-/
def ResizedWell
    (watch : Watch)
    (good : Option Nat → Prop)
    (met : Bool)
    (later : Workbench) : Prop :=
  watch.Clear later.world →
    good (if met then some later.contents.size else none)

/-- A fault is bad, unless more has happened than is watched for. -/
def StoppedFor
    (watch : Watch)
    (bad : Fault → Prop)
    (fault : Fault)
    (later : World) : Prop :=
  watch.Clear later → bad fault

namespace Allocator

variable
    {allocator : Allocator}
    {watch : Watch}
    {good : Option Nat → Prop}
    {bad : Fault → Prop}
    {requested minimal : Nat}

theorem madeWell_allocate
    {world : World}
    (accepted : minimal ≤ requested)
    (made : Ends (allocator.source.allocate requested minimal) world
      (MadeWell watch good) (StoppedFor watch bad)) :
    Ends (allocator.allocate requested minimal) world
      (fun result later => watch.Clear later → good (result.map Buffer.size))
      (StoppedFor watch bad) := by
  refine allocate_rule (MadeWell watch good)
    (fun wrong => absurd wrong (Nat.not_lt.mpr accepted)) (fun _ => made) ?_
  intro result later well diagnostics clear
  have before : watch.Clear later :=
    @Watch.Clear.of_append watch later _
      clear (diagnostics.map Event.emitted).reverse rfl
  have holds := well before
  cases result with
  | none => exact holds
  | some contents => exact holds

theorem resizedWell_resize
    {bench : Workbench}
    (accepted : minimal ≤ requested)
    (resized : Ends (allocator.source.resize requested minimal) bench
      (ResizedWell watch good)
      (fun fault later => StoppedFor watch bad fault later.world)) :
    Ends (allocator.resize requested minimal) bench (ResizedWell watch good)
      (fun fault later => StoppedFor watch bad fault later.world) := by
  refine resize_rule (ResizedWell watch good)
    (fun wrong => absurd wrong (Nat.not_lt.mpr accepted)) (fun _ => resized) ?_
  intro met later well diagnostics clear
  exact well (@Watch.Clear.of_append watch later.world _
    clear (diagnostics.map Event.emitted).reverse rfl)

end Allocator

namespace Session

/--
A call puts its request to an allocator: for a buffer under an empty handle, or
for another size of a buffer that is held, of which the size is given.
-/
inductive Puts (session : Session) (allocator : Allocator) :
    Call → Option Nat → Prop where
  | allocate
      {handle requested minimal : Nat}
      (vacant : session.shelf.find? handle = none) :
      Puts session allocator (.allocate handle allocator requested minimal) none
  | tryAllocate
      {handle requested minimal : Nat}
      (vacant : session.shelf.find? handle = none) :
      Puts session allocator
        (.tryAllocate handle allocator requested minimal) none
  | fillSlot
      {handle requested minimal : Nat}
      (vacant : session.shelf.find? handle = none) :
      Puts session allocator
        (.resizeSlot handle allocator requested minimal) none
  | resizeSlot
      {handle requested minimal : Nat}
      {buffer : Buffer}
      (held : session.shelf.find? handle = some buffer) :
      Puts session allocator (.resizeSlot handle allocator requested minimal)
        (some buffer.size)
  | resize
      {handle requested minimal : Nat}
      {through : Option Allocator}
      {buffer : Buffer}
      (held : session.shelf.find? handle = some buffer)
      (own : through.getD buffer.originator = allocator) :
      Puts session allocator (.resize handle through requested minimal)
        (some buffer.size)
  | tryResize
      {handle requested : Nat}
      {through : Option Allocator}
      {buffer : Buffer}
      (held : session.shelf.find? handle = some buffer)
      (own : through.getD buffer.originator = allocator) :
      Puts session allocator (.tryResize handle through requested)
        (some buffer.size)

variable
    {session : Session}
    {allocator : Allocator}
    {call : Call}
    {held : Option Nat}
    {watch : Watch}
    {good : Option Nat → Prop}
    {bad : Fault → Prop}
    {requested minimal : Nat}

/-- A request moves no ceiling. -/
theorem Puts.changes (puts : session.Puts allocator call held) :
    session.world.Changes (session.perform call).2.world := by
  cases puts <;> exact changes_perform nofun

/-- What is told of an answer where no more has happened than is watched for. -/
def Told
    (watch : Watch)
    (good : Option Nat → Prop)
    (bad : Fault → Prop)
    (outcome : Answer × Session) : Prop :=
  watch.Clear outcome.2.world → outcome.1.Tells good bad

theorem told_allocateInto
    (accepted : minimal ≤ requested)
    (handle : Nat)
    (made : Ends (allocator.source.allocate requested minimal) session.world
      (MadeWell watch good) (StoppedFor watch bad)) :
    let (result, later) :=
      session.allocateInto handle allocator requested minimal
    Told watch good bad (.allocated result, later) ∧
      Told watch good bad (.resized (result.map Option.isSome)
        (result.toOption.bind id), later) := by
  refine allocateInto_rule
    (fun result later => Told watch good bad (.allocated result, later) ∧
      Told watch good bad (.resized (result.map Option.isSome)
        (result.toOption.bind id), later)) ?_
  refine (Allocator.madeWell_allocate accepted made).mono ?_ ?_
  · intro result later well
    refine ⟨?refused, fun buffer given => ?given⟩
    case refused =>
      rintro rfl
      exact ⟨fun clear => Answer.tells_of_refused rfl rfl rfl (well clear),
        fun clear => Answer.tells_of_refused rfl rfl rfl (well clear)⟩
    case given =>
      subst given
      exact ⟨fun clear => Answer.tells_of_met rfl rfl rfl (well clear),
        fun clear => Answer.tells_of_met rfl rfl rfl (well clear)⟩
  · intro fault later stopped
    exact ⟨fun clear =>
      Answer.tells_of_fault rfl rfl rfl (.inl (stopped clear)),
      fun clear => Answer.tells_of_fault rfl rfl rfl (.inl (stopped clear))⟩

theorem told_tryAllocateInto
    (accepted : minimal ≤ requested)
    (handle : Nat)
    (made : Ends (allocator.source.allocate requested minimal) session.world
      (MadeWell watch good) (StoppedFor watch bad)) :
    let (result, later) :=
      session.tryAllocateInto handle allocator requested minimal
    Told watch good bad (.tried result, later) := by
  refine tryAllocateInto_rule
    (fun result later => Told watch good bad (.tried result, later)) ?_
  refine Allocator.tryAllocate_rule
    ((Allocator.madeWell_allocate accepted made).mono (fun _ _ well => well)
      fun fault later stopped clear => ?stopped) ?given ?read
  case stopped => exact Answer.tells_of_fault rfl rfl rfl (.inl (stopped clear))
  case given =>
    intro buffer later well
    refine ⟨nofun, ?_⟩
    rintro _ ⟨⟩ clear
    exact Answer.tells_of_met rfl rfl rfl (well clear)
  case read =>
    intro later well
    have reads := allocator.stepwise_source.readAvailable later
    refine reads.mono (fun available last changes => ?_)
      fun fault last changes clear => ?_
    · refine ⟨?_, nofun⟩
      rintro refusal - clear
      exact Answer.tells_of_refused rfl rfl rfl
        (well (clear.of_changes changes))
    · exact Answer.tells_of_fault rfl rfl rfl
        (.inr (well (clear.of_changes changes.1)))

theorem told_resizeHeld
    (accepted : minimal ≤ requested)
    (handle : Nat)
    {buffer : Buffer}
    (resized : Ends (allocator.source.resize requested minimal)
      { world := session.world, contents := buffer.contents }
      (ResizedWell watch good)
      (fun fault later => StoppedFor watch bad fault later.world)) :
    let (result, contents, later) :=
      session.resizeHeld handle buffer (allocator.resize requested minimal)
    Told watch good bad (.resized result (some contents), later) := by
  refine resizeHeld_rule (fun result contents later =>
    Told watch good bad (.resized result (some contents), later)) ?_
  refine (Allocator.resizedWell_resize accepted resized).mono ?_ ?_
  · intro met later well clear
    cases met with
    | true => exact Answer.tells_of_met rfl rfl rfl (well clear)
    | false => exact Answer.tells_of_refused rfl rfl rfl (well clear)
  · exact fun fault later stopped clear =>
      Answer.tells_of_fault rfl rfl rfl (.inl (stopped clear))

theorem told_tryResizeHeld
    (handle : Nat)
    {buffer : Buffer}
    (resized : Ends (allocator.source.resize requested requested)
      { world := session.world, contents := buffer.contents }
      (ResizedWell watch good)
      (fun fault later => StoppedFor watch bad fault later.world)) :
    let (result, contents, later) :=
      session.resizeHeld handle buffer (allocator.tryResize requested)
    Told watch good bad (.triedResize result contents, later) := by
  refine resizeHeld_rule (fun result contents later =>
    Told watch good bad (.triedResize result contents, later)) ?_
  refine Allocator.tryResize_rule (ResizedWell watch good)
    ((Allocator.resizedWell_resize (Nat.le_refl requested) resized).mono
      (fun _ _ well => well)
      fun fault later stopped clear => ?stopped) ?met ?refused
  case stopped => exact Answer.tells_of_fault rfl rfl rfl (.inl (stopped clear))
  case met =>
    exact fun later well clear => Answer.tells_of_met rfl rfl rfl (well clear)
  case refused =>
    exact fun later well clear =>
      Answer.tells_of_refused rfl rfl rfl (well clear)

/--
What is known of the calls on the source of an allocator is known of the answer
to a request that is put to it.
-/
theorem Puts.told
    (puts : session.Puts allocator call held)
    (request : call.request? = some (requested, minimal))
    (accepted : minimal ≤ requested)
    (made : held = none → Ends (allocator.source.allocate requested minimal)
      session.world (MadeWell watch good) (StoppedFor watch bad))
    (resized : ∀ contents : Contents, held = some contents.size →
      Ends (allocator.source.resize requested minimal)
      { world := session.world, contents } (ResizedWell watch good)
      (fun fault later => StoppedFor watch bad fault later.world)) :
    Told watch good bad (session.perform call) := by
  cases puts with
  | allocate vacant =>
      cases request
      rw [perform_allocate_of_vacant vacant]
      exact (told_allocateInto accepted _ (made rfl)).1
  | tryAllocate vacant =>
      cases request
      rw [perform, performNew, release, vacant]
      exact told_tryAllocateInto accepted _ (made rfl)
  | fillSlot vacant =>
      cases request
      rw [perform, vacant]
      exact (told_allocateInto accepted _ (made rfl)).2
  | resizeSlot found =>
      cases request
      rw [perform, found]
      exact told_resizeHeld accepted _ (resized _ rfl)
  | resize found own =>
      cases request
      rw [perform_resize_of_held found own]
      exact told_resizeHeld accepted _ (resized _ rfl)
  | tryResize found own =>
      cases request
      rw [perform, performHeld, found]
      simp only [own]
      exact told_tryResizeHeld _ (resized _ rfl)

end Session

end BufferBudget
