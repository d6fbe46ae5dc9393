import BufferBudget.Session
import BufferBudget.Proofs.Rules

/-!
# Rules for calls

Rules in the manner of those for layers, for the functions that users call: the
requests of an allocator, and the steps of a session that are made of them.  A
diagnostic that a request ends with is left open, since nothing depends on it.

An answer to a request is met with a size, or refused, or stopped at a fault;
`met?`, `refuses` and `fault?` say which.
-/

namespace BufferBudget

namespace Allocator

variable {allocator : Allocator} {requested minimal : Nat}

theorem allocate_rule
    {world : World}
    {onValue : Option Buffer → World → Prop}
    {onFault : Fault → World → Prop}
    (Below : Option Contents → World → Prop)
    (inverted : requested < minimal →
      onFault (.minimalAboveRequested minimal requested) world)
    (called : minimal ≤ requested →
      Ends (allocator.source.allocate requested minimal) world Below onFault)
    (told : ∀ result later, Below result later →
      ∀ diagnostics : List Diagnostic,
      onValue (result.map fun contents => { contents, originator := allocator })
      (later.noteAll (diagnostics.map .emitted))) :
    Ends (allocator.allocate requested minimal) world onValue onFault := by
  rw [allocate, checkRequest]
  by_cases wrong : requested < minimal
  · rw [if_pos wrong]
    exact inverted wrong
  · rw [if_neg wrong, ends_bind, ends_ofExcept_ok]
    exact (called (Nat.not_lt.mp wrong)).bind fun result later ended =>
      told result later ended _

theorem resize_rule
    {bench : Workbench}
    {onValue : Bool → Workbench → Prop}
    {onFault : Fault → Workbench → Prop}
    (Below : Bool → Workbench → Prop)
    (inverted : requested < minimal →
      onFault (.minimalAboveRequested minimal requested) bench)
    (called : minimal ≤ requested →
      Ends (allocator.source.resize requested minimal) bench Below onFault)
    (told : ∀ met later, Below met later →
      ∀ diagnostics : List Diagnostic, onValue met
      { later with world := later.world.noteAll (diagnostics.map .emitted) }) :
    Ends (allocator.resize requested minimal) bench onValue onFault := by
  rw [resize, checkRequest]
  by_cases wrong : requested < minimal
  · rw [if_pos wrong]
    exact inverted wrong
  · rw [if_neg wrong, ends_bind, ends_liftM, ends_ofExcept_ok]
    exact (called (Nat.not_lt.mp wrong)).bind fun met later ended =>
      told met later ended _

theorem tryAllocate_rule
    {world : World}
    {onValue : Except Refusal Buffer → World → Prop}
    {onFault : Fault → World → Prop}
    {Made : Option Buffer → World → Prop}
    (made : Ends (allocator.allocate requested minimal) world Made onFault)
    (given : ∀ buffer later, Made (some buffer) later →
      onValue (.ok buffer) later)
    (read : ∀ later, Made none later →
      Ends allocator.source.readAvailable later (fun available last =>
        onValue (.error (.allocation requested minimal available)) last)
      onFault) :
    Ends (allocator.tryAllocate requested minimal) world onValue onFault := by
  refine made.bind ?_
  intro result later ended
  cases result with
  | some buffer => exact given buffer later ended
  | none => exact (read later ended).bind fun _ _ refused => refused

theorem tryResize_rule
    {bench : Workbench}
    {onValue : Option Refusal → Workbench → Prop}
    {onFault : Fault → Workbench → Prop}
    (Resized : Bool → Workbench → Prop)
    (resized :
      Ends (allocator.resize requested requested) bench Resized onFault)
    (met : ∀ later, Resized true later → onValue none later)
    (refused : ∀ later, Resized false later → onValue
      (some (.reallocation later.contents.size requested requested)) later) :
    Ends (allocator.tryResize requested) bench onValue onFault := by
  refine resized.bind ?_
  intro result later ended
  cases result with
  | true => exact met later ended
  | false => exact refused later ended

end Allocator

namespace Session

variable {session : Session} {handle : Nat}

theorem run_rule
    {α : Type}
    {operation : Operation α}
    (post : Except Fault α → Session → Prop)
    (ended : Ends operation session.world
      (fun value later => post (.ok value) { session with world := later })
      (fun fault later =>
        post (.error fault) { session with world := later })) :
    post (session.run operation).1 (session.run operation).2 := by
  rw [ends_iff_perform] at ended
  rw [run]
  cases performed : operation.perform session.world with
  | mk result later =>
      rw [performed] at ended
      cases result with
      | ok value => exact ended
      | error fault => exact ended

theorem release_rule
    (post : Except Fault Bool → Session → Prop)
    (vacant : session.shelf.find? handle = none → post (.ok false) session)
    (freed : ∀ buffer, session.shelf.find? handle = some buffer →
      Ends buffer.free session.world (fun _ later =>
        post (.ok true) { world := later, shelf := session.shelf.erase handle })
      (fun fault later => post (.error fault)
        { world := later, shelf := session.shelf.erase handle })) :
    post (session.release handle).1 (session.release handle).2 := by
  rw [release]
  cases held : session.shelf.find? handle with
  | none => exact vacant held
  | some buffer =>
      have ended := freed buffer held
      rw [ends_iff_perform] at ended
      dsimp only
      cases performed : buffer.free.perform session.world with
      | mk result later =>
          rw [performed] at ended
          cases result with
          | ok value => exact ended
          | error fault => exact ended

theorem allocateInto_rule
    {allocator : Allocator}
    {requested minimal : Nat}
    (post : Except Fault (Option Contents) → Session → Prop)
    (ended : Ends (allocator.allocate requested minimal) session.world
      (fun result later =>
        (result = none → post (.ok none) { session with world := later }) ∧
        ∀ buffer, result = some buffer → post (.ok (some buffer.contents))
        { world := later, shelf := session.shelf.insert handle buffer })
      (fun fault later =>
        post (.error fault) { session with world := later })) :
    post (session.allocateInto handle allocator requested minimal).1
      (session.allocateInto handle allocator requested minimal).2 := by
  rw [ends_iff_perform] at ended
  rw [allocateInto, run]
  cases performed :
    (allocator.allocate requested minimal).perform session.world with
  | mk result later =>
      rw [performed] at ended
      cases result with
      | error fault => exact ended
      | ok made =>
          cases made with
          | none => exact ended.1 rfl
          | some buffer => exact ended.2 buffer rfl

theorem tryAllocateInto_rule
    {allocator : Allocator}
    {requested minimal : Nat}
    (post : Except Fault (Except Refusal Contents) → Session → Prop)
    (ended : Ends (allocator.tryAllocate requested minimal) session.world
      (fun result later => (∀ refusal, result = .error refusal →
        post (.ok (.error refusal)) { session with world := later }) ∧
        ∀ buffer, result = .ok buffer → post (.ok (.ok buffer.contents))
        { world := later, shelf := session.shelf.insert handle buffer })
      (fun fault later =>
        post (.error fault) { session with world := later })) :
    post (session.tryAllocateInto handle allocator requested minimal).1
      (session.tryAllocateInto handle allocator requested minimal).2 := by
  rw [ends_iff_perform] at ended
  rw [tryAllocateInto, run]
  cases performed :
    (allocator.tryAllocate requested minimal).perform session.world with
  | mk result later =>
      rw [performed] at ended
      cases result with
      | error fault => exact ended
      | ok made =>
          cases made with
          | error refusal => exact ended.1 refusal rfl
          | ok buffer => exact ended.2 buffer rfl

theorem resizeHeld_rule
    {α : Type}
    {buffer : Buffer}
    {resizing : Resizing α}
    (post : Except Fault α → Contents → Session → Prop)
    (ended :
      Ends resizing { world := session.world, contents := buffer.contents }
      (fun value later => post (.ok value) later.contents
        { world := later.world, shelf := session.shelf.insert handle
            { buffer with contents := later.contents } })
      (fun fault later => post (.error fault) later.contents
        { world := later.world, shelf := session.shelf.insert handle
            { buffer with contents := later.contents } })) :
    post (session.resizeHeld handle buffer resizing).1
      (session.resizeHeld handle buffer resizing).2.1
      (session.resizeHeld handle buffer resizing).2.2 := by
  unfold Ends at ended
  rw [resizeHeld, Resizing.perform]
  cases ran :
    resizing.run { world := session.world, contents := buffer.contents } with
  | ok value later =>
      rw [ran] at ended
      exact ended
  | error fault later =>
      rw [ran] at ended
      exact ended

theorem performNew_rule
    {next : Session → Answer × Session}
    {stopped : Fault → Answer}
    (post : Answer × Session → Prop)
    (stops : ∀ fault later, session.release handle = (.error fault, later) →
      post (stopped fault, later))
    (onwards : ∀ given later, session.release handle = (.ok given, later) →
      post (next later)) :
    post (session.performNew handle next stopped) := by
  rw [performNew]
  cases released : session.release handle with
  | mk result later =>
      cases result with
      | ok given => exact onwards given later released
      | error fault => exact stops fault later released

theorem performHeld_rule
    {next : Buffer → Answer × Session}
    (post : Answer × Session → Prop)
    (vacant : session.shelf.find? handle = none → post (.vacant, session))
    (onwards : ∀ buffer, session.shelf.find? handle = some buffer →
      post (next buffer)) :
    post (session.performHeld handle next) := by
  rw [performHeld]
  cases held : session.shelf.find? handle with
  | none => exact vacant held
  | some buffer => exact onwards buffer held

/-- What is left is found out with no effect but the use of locks. -/
theorem run_readAvailable (session : Session) (source : Source) :
    session.run source.readAvailable =
        (source.available session.world, { session with
          world :=
            session.world.noteAll (source.readLocks session.world) }) := by
  have ran : source.readAvailable.run session.world =
      (Operation.ofExcept (source.available session.world)).run
        (session.world.noteAll (source.readLocks session.world)) := rfl
  rw [run, Operation.perform, ran]
  cases source.available session.world with
  | ok rest => rfl
  | error fault => rfl

/--
A request that gives figures is one that does not, and what is left is found out
where it is refused.
-/
theorem tryAllocateInto_eq
    (session : Session)
    (handle : Nat)
    (allocator : Allocator)
    (requested minimal : Nat) :
    session.tryAllocateInto handle allocator requested minimal =
      match session.allocateInto handle allocator requested minimal with
      | (.error fault, later) => (.error fault, later)
      | (.ok (some contents), later) => (.ok (.ok contents), later)
      | (.ok none, later) =>
          match later.run allocator.source.readAvailable with
          | (.error fault, last) => (.error fault, last)
          | (.ok left, last) =>
              (.ok (.error (.allocation requested minimal left)), last) := by
  rw [tryAllocateInto, allocateInto, run, run, Allocator.tryAllocate,
    Operation.perform_bind]
  generalize (allocator.allocate requested minimal).perform session.world =
    outcome
  obtain ⟨result, later⟩ := outcome
  cases result with
  | error fault => rfl
  | ok made =>
      cases made with
      | some buffer => rfl
      | none =>
          dsimp only
          rw [Operation.perform_bind, run]
          generalize allocator.source.readAvailable.perform later = outcome
          obtain ⟨result, last⟩ := outcome
          cases result with
          | error fault => rfl
          | ok left => rfl

/-- A request for an empty handle frees nothing before. -/
theorem perform_allocate_of_vacant
    {allocator : Allocator}
    {requested minimal : Nat}
    (vacant : session.shelf.find? handle = none) :
    session.perform (.allocate handle allocator requested minimal) =
      (.allocated (session.allocateInto handle allocator requested minimal).1,
        (session.allocateInto handle allocator requested minimal).2) := by
  rw [perform, performNew, release, vacant]

/--
A request about a held buffer resizes it in its place, through the allocator
that it names.
-/
theorem perform_resize_of_held
    {through : Option Allocator}
    {buffer : Buffer}
    {allocator : Allocator}
    {requested minimal : Nat}
    (held : session.shelf.find? handle = some buffer)
    (same : through.getD buffer.originator = allocator) :
    session.perform (.resize handle through requested minimal) = (.resized
      (session.resizeHeld handle buffer (allocator.resize requested minimal)).1
      (some (session.resizeHeld handle buffer
        (allocator.resize requested minimal)).2.1), (session.resizeHeld handle
          buffer (allocator.resize requested minimal)).2.2) := by
  rw [perform, performHeld, held]
  simp only [same]

end Session

namespace Answer

/-- The fault that a call stopped at, if it did. -/
def fault? : Answer → Option Fault
  | .allocated (.error fault) => some fault
  | .tried (.error fault) => some fault
  | .resized (.error fault) _ => some fault
  | .triedResize (.error fault) _ => some fault
  | .freed (.error fault) => some fault
  | .available (.error fault) => some fault
  | .granted (.error fault) => some fault
  | .admitted (.error fault) => some fault
  | .done (.error fault) => some fault
  | _ => none

/-- The size of the buffer that a request was met with, if it was met. -/
def met? : Answer → Option Nat
  | .allocated (.ok (some contents)) => some contents.size
  | .tried (.ok (.ok contents)) => some contents.size
  | .resized (.ok true) (some contents) => some contents.size
  | .triedResize (.ok none) contents => some contents.size
  | _ => none

theorem met?_allocated (made : Option Contents) :
    (allocated (.ok made)).met? = made.map (·.size) := by
  cases made with
  | none => rfl
  | some contents => rfl

theorem met?_slot (made : Option Contents) :
    (resized ((Except.ok made : Except Fault _).map Option.isSome)
      ((Except.ok made : Except Fault _).toOption.bind id)).met? =
      made.map (·.size) := by
  cases made with
  | none => rfl
  | some contents => rfl

theorem met?_resized (met : Bool) (contents : Contents) :
    (resized (.ok met) (some contents)).met? =
      if met then some contents.size else none := by
  cases met with
  | true => rfl
  | false => rfl

theorem met?_triedResize (refusal : Option Refusal) (contents : Contents) :
    (triedResize (.ok refusal) contents).met? =
      if refusal.isNone then some contents.size else none := by
  cases refusal with
  | none => rfl
  | some refusal => rfl

/-- Whether a request was refused. -/
def refuses : Answer → Bool
  | .allocated (.ok none) => true
  | .tried (.ok (.error _)) => true
  | .resized (.ok false) _ => true
  | .triedResize (.ok (some _)) _ => true
  | _ => false

end Answer

/-- What a call requests and the least that it accepts, if it is a request. -/
def Call.request? : Call → Option (Nat × Nat)
  | .allocate _ _ requested minimal => some (requested, minimal)
  | .tryAllocate _ _ requested minimal => some (requested, minimal)
  | .resizeSlot _ _ requested minimal => some (requested, minimal)
  | .resize _ _ requested minimal => some (requested, minimal)
  | .tryResize _ _ requested => some (requested, requested)
  | _ => none

/--
The mediator that a call is made on past all allocators, if it is made on one.
-/
def Call.mediator? : Call → Option Nat
  | .setCeiling mediator _ => some mediator
  | .mediatorAllocate mediator _ _ => some mediator
  | .mediatorFree mediator _ => some mediator
  | _ => none

end BufferBudget
