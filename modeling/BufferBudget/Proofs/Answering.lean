import BufferBudget.Proofs.Asking

/-!
# Requests that are answered as the source answers

A call on the source of an allocator that never stops, and that ends with a size
known beforehand, makes the answer to the request known: it is met with that
size, or refused where there is none, and it does not stop either.  Whatever
holds of the world after the call on the source, and is not touched by what is
noted, holds after the request.

A refusal that gives figures reads what the allocator has left, so that here
something has to be known of that too.
-/

namespace BufferBudget

/--
An answer gives a size, or refuses where there is none, and has not stopped.
-/
structure Answer.Gives (answer : Answer) (given : Option Nat) : Prop where
  met : answer.met? = given
  refused : answer.refuses = given.isNone
  ended : answer.fault? = none

/--
A source has made a buffer of a given size, or none where none is given, and has
left the world as wanted.
-/
def MadeAs
    (given : Option Nat)
    (wanted : World → Prop)
    (result : Option Contents)
    (later : World) : Prop :=
  result.map (·.size) = given ∧ wanted later

/--
A source has given a buffer another size, or has not where none is given, and
has left the world as wanted.
-/
def RemadeAs
    (given : Option Nat)
    (wanted : World → Prop)
    (met : Bool)
    (later : Workbench) : Prop :=
  (if met = true then some later.contents.size else none) = given ∧
    wanted later.world

/-- What is wanted of a world is not touched by what is noted. -/
def Lasting (wanted : World → Prop) : Prop :=
  ∀ world events, wanted world → wanted (world.noteAll events)

variable {given : Option Nat} {wanted : World → Prop} {requested minimal : Nat}

namespace Allocator

variable {allocator : Allocator} (lasting : Lasting wanted)

include lasting

theorem madeAs_allocate
    {world : World}
    (accepted : minimal ≤ requested)
    (made : Ends (allocator.source.allocate requested minimal) world
      (MadeAs given wanted) (fun _ _ => False)) :
    Ends (allocator.allocate requested minimal) world
      (fun result later => result.map Buffer.size = given ∧ wanted later)
      (fun _ _ => False) := by
  refine allocate_rule (MadeAs given wanted)
    (fun wrong => absurd wrong (Nat.not_lt.mpr accepted)) (fun _ => made) ?_
  rintro result later ⟨size, holds⟩ diagnostics
  refine ⟨?_, lasting later _ holds⟩
  rw [← size, Option.map_map]
  rfl

theorem remadeAs_resize
    {bench : Workbench}
    (accepted : minimal ≤ requested)
    (resized : Ends (allocator.source.resize requested minimal) bench
      (RemadeAs given wanted) (fun _ _ => False)) :
    Ends (allocator.resize requested minimal) bench (RemadeAs given wanted)
      (fun _ _ => False) := by
  refine resize_rule (RemadeAs given wanted)
    (fun wrong => absurd wrong (Nat.not_lt.mpr accepted)) (fun _ => resized) ?_
  rintro met later ⟨size, holds⟩ diagnostics
  exact ⟨size, lasting later.world _ holds⟩

end Allocator

namespace Session

variable
    {session : Session}
    {allocator : Allocator}
    {call : Call}
    {held : Option Nat}

/--
A request has been answered with a given size, and the world is as wanted.
-/
def Settled
    (given : Option Nat)
    (wanted : World → Prop)
    (outcome : Answer × Session) : Prop :=
  outcome.1.Gives given ∧ wanted outcome.2.world

section Requests

variable (lasting : Lasting wanted) (accepted : minimal ≤ requested)

include lasting accepted

theorem settled_allocateInto
    (handle : Nat)
    (made : Ends (allocator.source.allocate requested minimal) session.world
      (MadeAs given wanted) (fun _ _ => False)) :
    let (result, later) :=
      session.allocateInto handle allocator requested minimal
    Settled given wanted (.allocated result, later) ∧
      Settled given wanted (.resized (result.map Option.isSome)
        (result.toOption.bind id), later) := by
  refine allocateInto_rule
    (fun result later => Settled given wanted (.allocated result, later) ∧
      Settled given wanted (.resized (result.map Option.isSome)
        (result.toOption.bind id), later)) ?_
  refine (Allocator.madeAs_allocate lasting accepted made).sure ?_
  rintro result later ⟨rfl, holds⟩
  refine ⟨?refused, fun buffer made => ?made⟩
  case refused =>
    rintro rfl
    exact ⟨⟨⟨rfl, rfl, rfl⟩, holds⟩, ⟨rfl, rfl, rfl⟩, holds⟩
  case made =>
    subst made
    exact ⟨⟨⟨rfl, rfl, rfl⟩, holds⟩, ⟨rfl, rfl, rfl⟩, holds⟩

theorem settled_tryAllocateInto
    (handle : Nat)
    (made : Ends (allocator.source.allocate requested minimal) session.world
      (MadeAs given wanted) (fun _ _ => False))
    (reads : given = none → ∀ later, wanted later →
      ∃ rest, allocator.source.available later = .ok rest) :
    let (result, later) :=
      session.tryAllocateInto handle allocator requested minimal
    Settled given wanted (.tried result, later) := by
  refine tryAllocateInto_rule
    (fun result later => Settled given wanted (.tried result, later)) ?_
  refine Allocator.tryAllocate_rule
    ((Allocator.madeAs_allocate lasting accepted made).sure fun _ _ ended =>
      ended) ?given ?read
  case given =>
    rintro buffer later ⟨rfl, holds⟩
    refine ⟨nofun, ?_⟩
    rintro _ ⟨⟩
    exact ⟨⟨rfl, rfl, rfl⟩, holds⟩
  case read =>
    rintro later ⟨rfl, holds⟩
    obtain ⟨rest, readable⟩ := reads rfl later holds
    refine Source.readAvailable_rule (fun available _ => ?_)
      fun fault failed => ?_
    · refine ⟨?_, nofun⟩
      rintro refusal -
      exact ⟨⟨rfl, rfl, rfl⟩, lasting later _ holds⟩
    · exact nomatch readable.symm.trans failed

theorem settled_resizeHeld
    (handle : Nat)
    {buffer : Buffer}
    (resized : Ends (allocator.source.resize requested minimal)
      { world := session.world, contents := buffer.contents }
      (RemadeAs given wanted) (fun _ _ => False)) :
    let (result, contents, later) :=
      session.resizeHeld handle buffer (allocator.resize requested minimal)
    Settled given wanted (.resized result (some contents), later) := by
  refine resizeHeld_rule (fun result contents later =>
    Settled given wanted (.resized result (some contents), later)) ?_
  refine (Allocator.remadeAs_resize lasting accepted resized).sure ?_
  rintro met later ⟨rfl, holds⟩
  cases met with
  | true => exact ⟨⟨rfl, rfl, rfl⟩, holds⟩
  | false => exact ⟨⟨rfl, rfl, rfl⟩, holds⟩

end Requests

theorem settled_tryResizeHeld
    (lasting : Lasting wanted)
    (handle : Nat)
    {buffer : Buffer}
    (resized : Ends (allocator.source.resize requested requested)
      { world := session.world, contents := buffer.contents }
      (RemadeAs given wanted) (fun _ _ => False)) :
    let (result, contents, later) :=
      session.resizeHeld handle buffer (allocator.tryResize requested)
    Settled given wanted (.triedResize result contents, later) := by
  refine resizeHeld_rule (fun result contents later =>
    Settled given wanted (.triedResize result contents, later)) ?_
  refine Allocator.tryResize_rule (RemadeAs given wanted)
    ((Allocator.remadeAs_resize lasting (Nat.le_refl requested) resized).sure
      fun _ _ ended => ended) ?met ?refused
  case met =>
    rintro later ⟨rfl, holds⟩
    exact ⟨⟨rfl, rfl, rfl⟩, holds⟩
  case refused =>
    rintro later ⟨rfl, holds⟩
    exact ⟨⟨rfl, rfl, rfl⟩, holds⟩

/--
Whichever call puts a request to an allocator, it is answered as the
source answers.
-/
theorem Puts.settled
    (puts : session.Puts allocator call held)
    (request : call.request? = some (requested, minimal))
    (accepted : minimal ≤ requested)
    (lasting : Lasting wanted)
    (made : held = none → Ends (allocator.source.allocate requested minimal)
      session.world (MadeAs given wanted) (fun _ _ => False))
    (resized : ∀ contents : Contents, held = some contents.size →
      Ends (allocator.source.resize requested minimal)
      { world := session.world, contents }
      (RemadeAs given wanted) (fun _ _ => False))
    (reads : given = none → ∀ later, wanted later →
      ∃ rest, allocator.source.available later = .ok rest) :
    Settled given wanted (session.perform call) := by
  cases puts with
  | allocate vacant =>
      cases request
      rw [perform_allocate_of_vacant vacant]
      exact (settled_allocateInto lasting accepted _ (made rfl)).1
  | tryAllocate vacant =>
      cases request
      rw [perform, performNew, release, vacant]
      exact settled_tryAllocateInto lasting accepted _ (made rfl) reads
  | fillSlot vacant =>
      cases request
      rw [perform, vacant]
      exact (settled_allocateInto lasting accepted _ (made rfl)).2
  | resizeSlot found =>
      cases request
      rw [perform, found]
      exact settled_resizeHeld lasting accepted _ (resized _ rfl)
  | resize found own =>
      cases request
      rw [perform_resize_of_held found own]
      exact settled_resizeHeld lasting accepted _ (resized _ rfl)
  | tryResize found own =>
      cases request
      rw [perform, performHeld, found]
      simp only [own]
      exact settled_tryResizeHeld lasting _ (resized _ rfl)

end Session

end BufferBudget
