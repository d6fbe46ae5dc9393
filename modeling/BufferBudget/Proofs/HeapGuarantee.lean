import BufferBudget.Proofs.Blindness
import BufferBudget.Proofs.Course
import BufferBudget.Proofs.Holdings
import BufferBudget.Proofs.InFull

/-!
# A guarantee over the heap

Over the heap a guarantee has nobody to ask but its own quota and the heap, and
its quota counts the bytes of the buffers that are held.  So whether a request
is met can be told beforehand: the bytes that the buffer lacks have to be left
of the amount, and the heap has to serve the size.

The count is kept by every call, whether it is met, refused, or stopped because
it accepts no less than more than it asks for.
-/

namespace BufferBudget

namespace Heap

variable (heap : Heap) (left requested : Nat)

/--
A limit over a heap gives a new buffer in full if the size is left and the
heap serves it.
-/
theorem allots_self :
    heap.allots left requested requested =
      if requested ≤ left ∧ heap.serves requested = true then some requested
      else none := by
  unfold allots ration
  by_cases enough : requested ≤ left
  · rw [if_pos enough, Nat.min_eq_left enough, Option.filter_some]
    simp only [enough, true_and]
  · rw [if_neg enough, if_neg fun both => enough both.1]
    rfl

/--
A limit over a heap resizes a buffer in full if the growth is left and the heap
serves the size, which it has no need to do for a buffer that does not grow.
-/
theorem refits_self (size : Nat) :
    heap.refits left size requested requested =
      if requested - size ≤ left ∧
          (requested ≤ size ∨ heap.serves requested = true) then
        some requested
      else none := by
  by_cases smaller : requested < size
  · have nothing : requested - size ≤ left := by omega
    rw [refits_of_lt heap left requested smaller,
      if_pos ⟨nothing, .inl (Nat.le_of_lt smaller)⟩]
  · have larger := Nat.not_lt.mp smaller
    have becomes : size + (requested - size) = requested :=
      Nat.add_sub_cancel' larger
    have grows : heap.enlarges size (requested - size) = true ↔
        requested ≤ size ∨ heap.serves requested = true := by
      rw [enlarges, becomes, Bool.or_eq_true, decide_eq_true_eq,
        Nat.sub_eq_zero_iff_le]
    rw [refits_of_le heap left requested larger]
    unfold ration
    by_cases enough : requested - size ≤ left
    · rw [if_pos enough, Nat.min_eq_left enough, Option.filter_some]
      by_cases served : heap.enlarges size (requested - size) = true
      · rw [if_pos served, if_pos ⟨enough, grows.mp served⟩,
          Option.map_some, becomes]
      · rw [if_neg served, if_neg fun both => served (grows.mpr both.2)]
        rfl
    · rw [if_neg enough, if_neg fun both => enough both.1]
      rfl

end Heap

/-- A limit over a heap is one limit. -/
theorem Mediated.oneLimit_over_heap (heap : Heap) (own : Nat) :
    (source own (Allocator.onHeap heap).source).OneLimit
      (·.Limits [own]) heap Contents.marker [own] := by
  have rations := rations_source ((Heap.rations_source heap).noting .heap)
    (List.not_mem_nil (a := own))
  have fills := fills_source ((Heap.fills_source heap).noting .heap) own
  have repays := repays_source ((Heap.repays_source heap).noting .heap) own
  exact rations.rationsIn.oneLimit fills repays (by simp [Layer.charges])

namespace Guaranteed

/--
A new buffer of some size has been given, or none, and a quota that has been in
use counts it.
-/
def Gives
    (own amount used : Nat)
    (given : Option Nat)
    (made : Option Nat)
    (later : World) : Prop :=
  made = given ∧
    later.mediators.entry own = .capped amount (used + given.getD 0)

/--
A buffer has been brought to some size, or left alone, and a quota that has been
in use counts what it has gained or lost.
-/
def Brings
    (own amount used : Nat)
    (given : Option Nat)
    (bench : Workbench)
    (met : Bool)
    (later : Workbench) : Prop :=
  met = given.isSome ∧ later.contents.size = given.getD bench.contents.size ∧
    later.world.mediators.entry own = .capped amount
      (used + given.getD bench.contents.size - bench.contents.size)

variable {heap : Heap} {own amount used requested : Nat}

/--
A guarantee over a heap gives a new buffer in full if it is left and the
heap serves it.
-/
theorem gives_allocate
    {world : World}
    (held : world.mediators.entry own = .capped amount used)
    (within : used ≤ amount)
    (size : amount ≤ Size.limit) :
    Ends (allocate own amount (Allocator.onHeap heap).source requested) world
      (fun result later => Gives own amount used
        (heap.allots (amount - used) requested requested)
        (result.map (·.size)) later) (fun _ _ => False) := by
  unfold Ends
  rw [run_allocate held]
  by_cases more : amount - used < requested
  · rw [if_pos more, Heap.allots_self, if_neg fun both =>
      Nat.not_le.mpr more both.1]
    exact ⟨rfl, held⟩
  · rw [if_neg more]
    have fits : requested ≤ Size.limit := by omega
    have made := (Mediated.oneLimit_over_heap heap own).allocate
      (World.limits_of_capped held within size) (Nat.le_refl requested) fits
    rw [World.left_of_capped held size] at made
    refine made.mono (fun result later allotted => ?_)
      fun _ _ impossible => impossible
    obtain ⟨rfl, moves⟩ := allotted
    refine ⟨?_, moves.capped List.mem_cons_self held⟩
    simp [Function.comp_def, Contents.size_pattern]

/--
A guarantee over a heap resizes a buffer in full if the growth is left and the
heap serves it.
-/
theorem brings_resize
    {bench : Workbench}
    (held : bench.world.mediators.entry own = .capped amount used)
    (within : used ≤ amount)
    (size : amount ≤ Size.limit)
    (part : bench.contents.size ≤ used) :
    Ends (resize own amount (Allocator.onHeap heap).source requested) bench
      (Brings own amount used (heap.refits (amount - used) bench.contents.size
        requested requested) bench) (fun _ _ => False) := by
  unfold Ends
  rw [run_resize held]
  by_cases refused : bench.contents.size < requested ∧
    amount - used < requested - bench.contents.size
  · rw [if_pos refused, Heap.refits_self, if_neg fun both =>
      Nat.not_le.mpr refused.2 both.1]
    refine ⟨rfl, rfl, ?_⟩
    rw [Option.getD_none, Nat.add_sub_cancel]
    exact held
  · rw [if_neg refused]
    have fits : requested ≤ Size.limit := by omega
    have resized := @(Mediated.oneLimit_over_heap heap own).resize bench _ _
      (World.limits_of_capped held within size) (Nat.le_refl requested) fits
    rw [World.left_of_capped held size] at resized
    refine resized.mono (fun met later resettled => ?_)
      fun _ _ impossible => impossible
    obtain ⟨isMet, becomes, moves⟩ := resettled
    refine ⟨isMet, ?_, moves.capped List.mem_cons_self held⟩
    rw [becomes, Contents.size_refit]

end Guaranteed

/-- A guarantee of an amount over a heap, with its quota under a number. -/
abbrev Allocator.guaranteeOn (heap : Heap) (own amount : Nat) : Allocator :=
  (onHeap heap).add (.guaranteed own amount)

namespace Allocator

open Guaranteed (Gives Brings)

variable {heap : Heap} {own amount used requested minimal : Nat}

theorem gives_allocate
    {world : World}
    (held : world.mediators.entry own = .capped amount used)
    (within : used ≤ amount)
    (size : amount ≤ Size.limit) :
    Ends ((guaranteeOn heap own amount).allocate requested minimal) world
      (fun result later => Gives own amount used
        (heap.allots (amount - used) requested requested)
        (result.map (·.size)) later)
      (fun _ later => requested < minimal ∧ later = world) := by
  refine allocate_rule (fun result later => Gives own amount used
    (heap.allots (amount - used) requested requested)
    (result.map (·.size)) later) (fun wrong => ⟨wrong, rfl⟩) (fun _ => ?called)
    (fun result later gives diagnostics => ?told)
  case called =>
    apply Source.noting_allocate_rule
    exact (Guaranteed.gives_allocate held within size).sure
      (fun _ _ gives => gives)
  case told =>
    rw [Option.map_map]
    exact gives

theorem brings_resize
    {bench : Workbench}
    (held : bench.world.mediators.entry own = .capped amount used)
    (within : used ≤ amount)
    (size : amount ≤ Size.limit)
    (part : bench.contents.size ≤ used) :
    Ends ((guaranteeOn heap own amount).resize requested minimal) bench
      (Brings own amount used
        (heap.refits (amount - used) bench.contents.size requested requested)
        bench) (fun _ later => requested < minimal ∧ later = bench) := by
  refine resize_rule (Brings own amount used
    (heap.refits (amount - used) bench.contents.size requested requested) bench)
    (fun wrong => ⟨wrong, rfl⟩) (fun _ => ?called) (fun _ _ brings _ => brings)
  case called =>
    apply Source.noting_resize_rule
    exact (Guaranteed.brings_resize held within size part).sure
      (fun _ _ brings => brings)

theorem brings_tryResize
    {bench : Workbench}
    (held : bench.world.mediators.entry own = .capped amount used)
    (within : used ≤ amount)
    (size : amount ≤ Size.limit)
    (part : bench.contents.size ≤ used) :
    Ends ((guaranteeOn heap own amount).tryResize requested) bench
      (fun refusal later => Brings own amount used
        (heap.refits (amount - used) bench.contents.size requested requested)
        bench refusal.isNone later)
      (fun _ later => requested < requested ∧ later = bench) :=
  tryResize_rule _ (brings_resize held within size part)
    (fun _ brings => brings) (fun _ brings => brings)

end Allocator

/-- An access to one mediator leaves the others alone. -/
theorem World.Around.entry_eq
    {world later : World}
    {change : World → World}
    {own : Nat}
    (came : world.Around change later)
    (kept : ∀ middle : World, (change middle).mediators.entry own =
      middle.mediators.entry own) :
    later.mediators.entry own = world.mediators.entry own := by
  obtain ⟨before, after, -, -, rfl⟩ := came
  exact kept (world.noteAll before)

namespace Mediation

variable {own mediator : Nat} (other : own ≠ mediator)

include other

theorem spares_setCeiling (ceiling : Nat) (world : World) :
    Ends (setCeiling mediator ceiling) world
      (fun _ later => later.mediators.entry own = world.mediators.entry own)
      (fun _ later => later.mediators.entry own = world.mediators.entry own) :=
  (ends_setCeiling mediator ceiling world).sure fun _ _ came =>
    came.entry_eq fun _ => if_neg other

theorem spares_free (returned : Nat) (world : World) :
    Ends (free mediator returned) world
      (fun _ later => later.mediators.entry own = world.mediators.entry own)
      (fun _ later => later.mediators.entry own = world.mediators.entry own) :=
  (ends_free mediator returned world).sure fun _ _ came =>
    came.entry_eq fun _ => if_neg other

theorem spares_allocate (requested minimal : Nat) (world : World) :
    Ends (allocate mediator requested minimal) world
      (fun _ later => later.mediators.entry own = world.mediators.entry own)
      (fun _ later =>
        later.mediators.entry own = world.mediators.entry own) := by
  cases answer :
    (world.mediators.entry mediator).allocate requested minimal with
  | ok booked =>
      obtain ⟨granted, next⟩ := booked
      exact (ends_allocate answer).sure fun _ _ came =>
        came.2.entry_eq fun _ => if_neg other
  | error fault =>
      exact (ends_allocate_error answer).mono
        (fun _ _ impossible => impossible.elim) fun _ _ came =>
        came.2.entry_eq fun _ => rfl

end Mediation

namespace Session

/-- How many bytes are held. -/
def live (session : Session) : Nat :=
  session.shelf.total Buffer.size

/--
A session holds buffers of one guarantee over a heap, and the quota of the
guarantee counts their bytes, which are no more than the amount.
-/
structure Counts (heap : Heap) (own amount : Nat) (session : Session) :
    Prop where
  held : session.HoldsFrom (· = .guaranteeOn heap own amount)
  usage : session.world.mediators.entry own = .capped amount session.live
  within : session.live ≤ amount

variable {session : Session} {heap : Heap} {own amount handle : Nat}

theorem live_insert
    (session : Session)
    (handle : Nat)
    (buffer : Buffer)
    (world : World) :
    ({ world, shelf := session.shelf.insert handle buffer } : Session).live +
        Shelf.weightOf Buffer.size (session.shelf.find? handle) =
      session.live + buffer.size :=
  session.shelf.total_insert handle buffer

theorem live_erase (session : Session) (handle : Nat) (world : World) :
    ({ world, shelf := session.shelf.erase handle } : Session).live +
        Shelf.weightOf Buffer.size (session.shelf.find? handle) =
      session.live :=
  session.shelf.total_erase handle

/-- A held buffer is among the bytes that are held. -/
theorem size_le_live
    {buffer : Buffer}
    (held : session.shelf.find? handle = some buffer) :
    buffer.size ≤ session.live := by
  have less := session.live_erase handle session.world
  rw [held, Shelf.weightOf] at less
  omega

namespace Counts

variable (counts : session.Counts heap own amount)

include counts

/-- What leaves the quota alone keeps the count. -/
theorem moved
    {later : World}
    (same : later.mediators.entry own = session.world.mediators.entry own) :
    ({ session with world := later } : Session).Counts heap own amount :=
  ⟨counts.held, same.trans counts.usage, counts.within⟩

/--
A buffer of the guarantee that takes the place of another is
counted in its place.
-/
theorem insert
    {buffer : Buffer}
    {later : World}
    (genuine : buffer.originator = .guaranteeOn heap own amount)
    (usage : later.mediators.entry own = .capped amount
      (session.live + buffer.size -
        Shelf.weightOf Buffer.size (session.shelf.find? handle)))
    (fits : buffer.size ≤ Shelf.weightOf Buffer.size
        (session.shelf.find? handle) + (amount - session.live)) :
    ({ world := later, shelf := session.shelf.insert handle buffer } :
      Session).Counts heap own amount := by
  have more := session.live_insert handle buffer later
  have within := counts.within
  refine ⟨counts.held.insert later handle genuine, ?_, by omega⟩
  rw [usage, ← more, Nat.add_sub_cancel]

/-- A buffer of the same size takes the place of another. -/
theorem insertSame
    {buffer : Buffer}
    (held : session.shelf.find? handle = some buffer)
    {contents : Contents}
    (same : contents.size = buffer.size) :
    (session.hold handle { buffer with contents }).Counts heap own amount := by
  refine counts.insert (counts.held handle buffer held) ?_ ?_
  · rw [held, Shelf.weightOf, show ({ buffer with contents } : Buffer).size =
      buffer.size from same, Nat.add_sub_cancel]
    exact counts.usage
  · rw [held]
    exact Nat.le_trans (Nat.le_of_eq same) (Nat.le_add_right _ _)

theorem release (handle : Nat) :
    (∃ given, (session.release handle).1 = .ok given) ∧
      (session.release handle).2.Counts heap own amount := by
  refine release_rule (fun result later =>
    (∃ given, result = .ok given) ∧ later.Counts heap own amount)
    (fun _ => ⟨⟨false, rfl⟩, counts⟩) fun buffer held => ?_
  rw [Buffer.free, counts.held handle buffer held]
  apply Source.noting_free_rule
  refine ((Mediated.oneLimit_over_heap heap own).free buffer.size _).mono ?_
    fun _ _ impossible => impossible.elim
  intro _ later moves
  have fewer := session.live_erase handle later
  rw [held, Shelf.weightOf] at fewer
  have usage := moves.capped List.mem_cons_self counts.usage
  have remaining : session.live + 0 - buffer.size =
      ({ world := later, shelf := session.shelf.erase handle } :
        Session).live := by omega
  refine ⟨⟨true, rfl⟩, counts.held.erase later handle, remaining ▸ usage, ?_⟩
  exact Nat.le_trans (by omega) counts.within

/--
A request about a held buffer is met if the growth is left and the
heap serves it.
-/
theorem resizeHeld
    {α : Type}
    {buffer : Buffer}
    (held : session.shelf.find? handle = some buffer)
    {resizing : Resizing α}
    {requested minimal : Nat}
    (met : α → Bool)
    (resized : ∀ {bench : Workbench},
      bench.world.mediators.entry own = .capped amount session.live →
      bench.contents.size ≤ session.live → Ends resizing bench
      (fun value later => Guaranteed.Brings own amount session.live (heap.refits
        (amount - session.live) bench.contents.size requested requested) bench
        (met value) later) (fun _ later => requested < minimal ∧ later = bench))
    (answer : Except Fault α → Contents → Answer)
    (answers : ∀ value contents, (answer (.ok value) contents).met? =
      if met value then some contents.size else none) :
    let (result, contents, later) := session.resizeHeld handle buffer resizing
    later.Counts heap own amount ∧ (minimal ≤ requested →
      (answer result contents).met? = heap.refits
        (amount - session.live) buffer.size requested requested) := by
  refine resizeHeld_rule (fun result contents later =>
    later.Counts heap own amount ∧ (minimal ≤ requested →
      (answer result contents).met? =
        heap.refits (amount - session.live) buffer.size requested requested)) ?_
  have genuine := counts.held handle buffer held
  refine (@resized { world := session.world, contents := buffer.contents }
    counts.usage (size_le_live held)).mono ?_ ?_
  · intro value later brings
    -- A buffer gains no more than is left, so that the bytes held stay
    -- within the amount.
    have most := heap.getD_refits_le (amount - session.live) requested
      buffer.size requested
    have sizes : (Workbench.mk session.world buffer.contents).contents.size =
        buffer.size := rfl
    rw [Guaranteed.Brings, sizes] at brings
    generalize heap.refits
          (amount - session.live) buffer.size requested requested = given
      at brings most ⊢
    obtain ⟨isMet, becomes, usage⟩ := brings
    rw [← becomes] at usage most
    refine ⟨counts.insert genuine ?_ ?_, fun _ => ?_⟩
    · rw [held]
      exact usage
    · rw [held]
      exact most
    · rw [answers, isMet, becomes]
      cases given with
      | none => rfl
      | some now => rfl
  · rintro fault later ⟨wrong, rfl⟩
    exact ⟨counts.insertSame held rfl, fun accepted =>
      absurd wrong (Nat.not_lt.mpr accepted)⟩

/-- Giving back what a handle holds never stops a call. -/
theorem performNew_eq
    (handle : Nat)
    (next : Session → Answer × Session)
    (stopped : Fault → Answer) :
    session.performNew handle next stopped =
      next (session.release handle).2 := by
  obtain ⟨⟨given, released⟩, -⟩ := counts.release handle
  rw [performNew]
  generalize session.release handle = outcome at released ⊢
  obtain ⟨result, later⟩ := outcome
  subst released
  rfl

theorem performHeld
    (handle : Nat)
    {next : Buffer → Answer × Session}
    (rest : ∀ buffer, session.shelf.find? handle = some buffer →
      (next buffer).2.Counts heap own amount) :
    (session.performHeld handle next).2.Counts heap own amount :=
  performHeld_rule (·.2.Counts heap own amount) (fun _ => counts) rest

theorem performWrite
    (handle : Nat)
    (edit : Contents → Contents)
    (sameSize : ∀ contents, (edit contents).size = contents.size) :
    (session.performWrite handle edit).2.Counts heap own amount :=
  counts.performHeld handle fun buffer held =>
    counts.insertSame held (sameSize buffer.contents)

/-- An operation that leaves the quota alone. -/
theorem run
    {α : Type}
    {operation : Operation α}
    (ended : Ends operation session.world (fun _ later =>
      later.mediators.entry own = session.world.mediators.entry own)
      (fun _ later =>
        later.mediators.entry own = session.world.mediators.entry own)) :
    (session.run operation).2.Counts heap own amount :=
  run_rule (fun _ later => later.Counts heap own amount) (ended.mono
    (fun _ _ same => counts.moved same) fun _ _ same => counts.moved same)

variable (size : amount ≤ Size.limit)

include size

/--
A request for an empty handle is met if the size is left and the heap serves it.
-/
theorem allocateInto
    (vacant : session.shelf.find? handle = none)
    (requested minimal : Nat) :
    let (result, later) :=
      session.allocateInto handle
        (.guaranteeOn heap own amount) requested minimal
    later.Counts heap own amount ∧ (minimal ≤ requested →
      ∃ made, result = .ok made ∧
        made.map (·.size) =
          heap.allots (amount - session.live) requested requested) := by
  refine allocateInto_rule
    (fun result later => later.Counts heap own amount ∧ (minimal ≤ requested →
      ∃ made, result = .ok made ∧
        made.map (·.size) =
          heap.allots (amount - session.live) requested requested)) ?_
  refine ((Allocator.gives_allocate counts.usage counts.within size).and
    (Allocator.originates_allocate _ requested minimal session.world)).mono
    ?_ ?_
  · rintro result later ⟨⟨given, usage⟩, origin⟩
    rw [← given] at usage
    refine ⟨?_, ?_⟩
    · rintro rfl
      exact ⟨counts.moved (usage.trans counts.usage.symm), fun _ =>
        ⟨none, rfl, given⟩⟩
    · rintro buffer rfl
      have most :=
        heap.getD_allots_le (amount - session.live) requested requested
      rw [← given] at most
      refine ⟨counts.insert (origin buffer rfl) ?_ ?_, fun _ =>
        ⟨some buffer.contents, rfl, given⟩⟩
      · rw [vacant]
        exact usage
      · rw [vacant, Shelf.weightOf, Nat.zero_add]
        exact most
  · rintro fault later ⟨⟨wrong, rfl⟩, -⟩
    exact ⟨counts, fun accepted => absurd wrong (Nat.not_lt.mpr accepted)⟩

/-- An answer that shows what a new buffer is, or that there is none. -/
theorem answers_allocateInto
    (vacant : session.shelf.find? handle = none)
    (requested minimal : Nat)
    (answer : Except Fault (Option Contents) → Answer)
    (answers : ∀ made, (answer (.ok made)).met? = made.map (·.size)) :
    let (result, later) :=
      session.allocateInto handle
        (.guaranteeOn heap own amount) requested minimal
    later.Counts heap own amount ∧ (minimal ≤ requested →
      (answer result).met? =
        heap.allots (amount - session.live) requested requested) := by
  have made := counts.allocateInto size vacant requested minimal
  generalize session.allocateInto handle
      (.guaranteeOn heap own amount) requested minimal = outcome at made ⊢
  obtain ⟨result, later⟩ := outcome
  obtain ⟨counted, met⟩ := made
  refine ⟨counted, fun accepted => ?_⟩
  obtain ⟨made, rfl, given⟩ := met accepted
  exact (answers made).trans given

/-- The same for a request that gives figures where it is refused. -/
theorem tryAllocateInto
    (vacant : session.shelf.find? handle = none)
    (requested minimal : Nat) :
    let (result, later) :=
      session.tryAllocateInto handle
        (.guaranteeOn heap own amount) requested minimal
    later.Counts heap own amount ∧ (minimal ≤ requested →
      (Answer.tried result).met? =
        heap.allots (amount - session.live) requested requested) := by
  have made := counts.allocateInto size vacant requested minimal
  rw [tryAllocateInto_eq]
  generalize session.allocateInto handle
      (.guaranteeOn heap own amount) requested minimal = outcome at made ⊢
  obtain ⟨result, later⟩ := outcome
  obtain ⟨counted, met⟩ := made
  cases result with
  | error fault =>
      refine ⟨counted, fun accepted => ?_⟩
      obtain ⟨made, impossible, -⟩ := met accepted
      exact nomatch impossible
  | ok made =>
      have given : minimal ≤ requested →
          made.map (·.size) =
            heap.allots (amount - session.live) requested requested := by
        intro accepted
        obtain ⟨made, same, given⟩ := met accepted
        exact Except.ok.inj same ▸ given
      cases made with
      | some contents => exact ⟨counted, given⟩
      | none =>
          dsimp only
          rw [run_readAvailable]
          exact ⟨counted.moved rfl, given⟩

/--
A request for a new buffer is met if its size is left, once the handle is empty,
and the heap serves it.
-/
theorem perform_makes
    {call : Call}
    (makes : session.Makes handle (.guaranteeOn heap own amount) call)
    {requested minimal : Nat}
    (request : call.request? = some (requested, minimal)) :
    let outcome := session.perform call
    outcome.2.Counts heap own amount ∧ (minimal ≤ requested →
      outcome.1.met? = heap.allots (amount - (session.release handle).2.live)
        requested requested) := by
  have emptied := (counts.release handle).2
  have vacant := session.find?_release handle
  cases makes with
  | allocate =>
      cases request
      rw [perform, counts.performNew_eq]
      exact emptied.answers_allocateInto size vacant requested minimal
        .allocated Answer.met?_allocated
  | tryAllocate =>
      cases request
      rw [perform, counts.performNew_eq]
      exact emptied.tryAllocateInto size vacant requested minimal
  | resizeSlot _ _ free =>
      cases request
      have same : (session.release handle).2 = session := by
        rw [Session.release, free]
      rw [perform, free, same]
      exact counts.answers_allocateInto size free requested minimal
        (fun result =>
          .resized (result.map Option.isSome) (result.toOption.bind id))
        Answer.met?_slot

/--
A request to resize a held buffer is met if the growth is left and the
heap serves it.
-/
theorem perform_refits
    {call : Call}
    {buffer : Buffer}
    (refits : session.Refits handle (.guaranteeOn heap own amount) buffer call)
    {requested minimal : Nat}
    (request : call.request? = some (requested, minimal)) :
    let outcome := session.perform call
    outcome.2.Counts heap own amount ∧ (minimal ≤ requested →
      outcome.1.met? = heap.refits (amount - session.live) buffer.size requested
        requested) := by
  cases refits with
  | resizeSlot _ _ held =>
      cases request
      rw [perform, held]
      exact counts.resizeHeld held id (fun usage part =>
        Allocator.brings_resize usage counts.within size part)
        (fun result contents => .resized result (some contents))
        Answer.met?_resized
  | resize through _ _ held same =>
      cases request
      rw [perform, Session.performHeld, held]
      dsimp only
      rw [same]
      exact counts.resizeHeld held id (fun usage part =>
        Allocator.brings_resize usage counts.within size part)
        (fun result contents => .resized result (some contents))
        Answer.met?_resized
  | tryResize through _ held same =>
      cases request
      rw [perform, Session.performHeld, held]
      dsimp only
      rw [same]
      exact counts.resizeHeld held Option.isNone (fun usage part =>
        Allocator.brings_tryResize usage counts.within size part)
        .triedResize Answer.met?_triedResize

/--
Every call keeps the count that is on the guarantee, or past it on
other accounts.
-/
theorem perform
    {call : Call}
    (names : call.Names (· = .guaranteeOn heap own amount))
    (apart : call.mediator? ≠ some own) :
    (session.perform call).2.Counts heap own amount := by
  have other : ∀ {mediator : Nat}, call.mediator? = some mediator →
      own ≠ mediator := by
    rintro mediator named rfl
    exact apart named
  have tracked : ∀ {α : Type} {operation : Operation α} {trackers : List Nat},
      operation.Tracks trackers →
      (session.run operation).2.Counts heap own amount := by
    intro α operation trackers tracks
    have kept : ∀ {later : World},
        Relation.ReflTransGen (World.TrackerStep trackers) session.world later →
        later.mediators.entry own = session.world.mediators.entry own :=
      fun came => congrArg (·.entry own)
        (World.SameBesideTrackers.of_tracks came).mediators.symm
    exact counts.run ((tracks session.world).mono (fun _ _ came => kept came)
      fun _ _ stopped => kept stopped.1)
  cases call with
  | allocate handle allocator requested minimal =>
      obtain rfl : allocator = _ := names
      exact (counts.perform_makes size (.allocate requested minimal) rfl).1
  | tryAllocate handle allocator requested minimal =>
      obtain rfl : allocator = _ := names
      exact (counts.perform_makes size (.tryAllocate requested minimal) rfl).1
  | resizeSlot handle allocator requested minimal =>
      obtain rfl : allocator = _ := names
      cases held : session.shelf.find? handle with
      | none => exact (counts.perform_makes size
        (.resizeSlot requested minimal held) rfl).1
      | some buffer =>
          exact (counts.perform_refits size
            (.resizeSlot requested minimal held) rfl).1
  | resize handle through requested minimal =>
      cases held : session.shelf.find? handle with
      | none =>
          rw [Session.perform, Session.performHeld, held]
          exact counts
      | some buffer =>
          have same := property_through names (counts.held handle buffer held)
          exact (counts.perform_refits size
            (.resize through requested minimal held same) rfl).1
  | tryResize handle through requested =>
      cases held : session.shelf.find? handle with
      | none =>
          rw [Session.perform, Session.performHeld, held]
          exact counts
      | some buffer =>
          have same := property_through names (counts.held handle buffer held)
          exact (counts.perform_refits size
            (.tryResize through requested held same) rfl).1
  | free handle => exact (counts.release handle).2
  | fill handle byte =>
      exact counts.performWrite handle (·.fill byte) fun contents =>
        contents.size_fill byte
  | write handle offset bytes =>
      exact counts.performWrite handle (·.write offset bytes) fun contents =>
        contents.size_write offset bytes
  | read handle => exact counts.performHeld handle fun _ _ => counts
  | originAvailable handle =>
      refine counts.performHeld handle fun buffer _ => ?_
      rw [run_readAvailable]
      exact counts.moved rfl
  | describe handle address => exact counts.performHeld handle fun _ _ => counts
  | setCeiling mediator ceiling =>
      exact counts.run
        (Mediation.spares_setCeiling (other rfl) ceiling session.world)
  | mediatorAllocate mediator requested minimal =>
      exact counts.run
        (Mediation.spares_allocate (other rfl) requested minimal session.world)
  | mediatorFree mediator returned =>
      exact counts.run
        (Mediation.spares_free (other rfl) returned session.world)
  | tryConsume lineage bytes =>
      exact tracked (Charging.tracks_tryConsume lineage bytes)
  | consume lineage bytes =>
      exact tracked (Charging.tracks_consume lineage bytes)
  | release lineage bytes =>
      exact tracked (Charging.tracks_release lineage bytes)

theorem performAll
    {calls : List Call}
    (names : ∀ call ∈ calls, call.Names (· = .guaranteeOn heap own amount))
    (apart : ∀ call ∈ calls, call.mediator? ≠ some own) :
    (session.performAll calls).Counts heap own amount := by
  induction calls generalizing session with
  | nil => exact counts
  | cons call rest ih =>
      have step := counts.perform size (names call List.mem_cons_self)
        (apart call List.mem_cons_self)
      exact ih step
        (fun other member => names other (List.mem_cons_of_mem call member))
        fun other member => apart other (List.mem_cons_of_mem call member)

end Counts

/-- Nothing is held, and nothing is counted, before the first call. -/
theorem counts_start
    {world : World}
    (heap : Heap)
    (held : world.mediators.entry own = .capped amount 0) :
    (start world).Counts heap own amount :=
  ⟨holdsFrom_start world, held, Nat.zero_le amount⟩

end Session

end BufferBudget
