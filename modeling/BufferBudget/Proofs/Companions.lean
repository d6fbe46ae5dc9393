import BufferBudget.Proofs.Calls
import BufferBudget.Proofs.Likeness
import Mathlib.Data.List.Forall2

/-!
# Sessions side by side

Two sessions go side by side if they make the same calls, each on allocators of
its own.  Where these allocators are alike as sources, whatever a call does to
one session it does to the other: the answers are alike, and the same handles
hold buffers that are alike.

A run need not make all of its calls in company.  Calls that no allocator takes
notice of may come on either side at any time (`Abreast`), and are left out of
what is compared.
-/

namespace BufferBudget

/-- Two outcomes agree: both are values that do, or both are the same error. -/
inductive ExceptRel {ε α β : Type} (agree : α → β → Prop) :
    Except ε α → Except ε β → Prop where
  | ok {value : α} {other : β} (agrees : agree value other) :
      ExceptRel agree (.ok value) (.ok other)
  | error (error : ε) : ExceptRel agree (.error error) (.error error)

theorem ExceptRel.eq
    {ε α : Type}
    {left right : Except ε α}
    (same : ExceptRel Eq left right) :
    left = right := by
  cases same with
  | ok agrees => rw [agrees]
  | error error => rfl

/--
Buffers are alike in what they hold, and come from allocators that go together.
-/
structure Buffer.Alike
    (likeness : Likeness)
    (nodes : Allocator → Allocator → Prop)
    (left right : Buffer) : Prop where
  contents : left.contents.Alike likeness.Exact right.contents
  originator : nodes left.originator right.originator

theorem Buffer.Alike.withContents
    {likeness : Likeness}
    {nodes : Allocator → Allocator → Prop}
    {left right : Buffer}
    (alike : Buffer.Alike likeness nodes left right)
    {contents other : Contents}
    (same : contents.Alike likeness.Exact other) :
    Buffer.Alike likeness nodes { left with contents }
      { right with contents := other } :=
  ⟨same, alike.originator⟩

theorem Buffer.Alike.isEmpty_eq
    {likeness : Likeness}
    {nodes : Allocator → Allocator → Prop}
    {left right : Buffer}
    (alike : Buffer.Alike likeness nodes left right) :
    left.isEmpty = right.isEmpty := by
  rw [isEmpty, isEmpty, Array.isEmpty, Array.isEmpty, alike.contents.size]

theorem Buffer.Alike.describe_eq
    {likeness : Likeness}
    {nodes : Allocator → Allocator → Prop}
    {left right : Buffer}
    (alike : Buffer.Alike likeness nodes left right)
    (address : String) :
    left.describe address = right.describe address := by
  have same : left.size = right.size := alike.contents.size
  unfold describe
  rw [same]

namespace Allocator

variable
    {likeness : Likeness}
    {asks : Nat → Nat → Prop}
    {nodes : Allocator → Allocator → Prop}
    {left right : Allocator}
    {requested minimal : Nat}

theorem outcomeDiagnostics_alike
    {result other : Option Contents}
    (agrees : likeness.Results result other) :
    outcomeDiagnostics requested minimal (result.map (·.size)) =
      outcomeDiagnostics requested minimal (other.map (·.size)) := by
  cases agrees with
  | none => rfl
  | some same => rw [Option.map_some, Option.map_some, same.size]

theorem alike_allocate
    (sources : Source.AlikeFor asks likeness left.source right.source)
    (together : nodes left right)
    (asked : minimal ≤ requested → asks requested minimal) :
    likeness.Operations (Option.Rel (Buffer.Alike likeness nodes))
      (left.allocate requested minimal) (right.allocate requested minimal) := by
  rw [allocate, allocate, checkRequest]
  by_cases wrong : requested < minimal
  · rw [if_pos wrong]
    exact endAlike_throw _
  · rw [if_neg wrong]
    refine (endAlike_ofExcept _).bindEq fun _ => ?_
    refine (sources.allocate requested minimal
      (asked (Nat.not_lt.mp wrong))).bind fun result other agrees => ?_
    rw [outcomeDiagnostics_alike agrees]
    refine (Likeness.operations_emit _).bindEq fun _ => endAlike_pure ?_
    cases agrees with
    | none => exact .none
    | some same => exact .some ⟨same, together⟩

theorem alike_resize
    (sources : Source.AlikeFor asks likeness left.source right.source)
    (asked : minimal ≤ requested → asks requested minimal) :
    likeness.Resizings Eq (left.resize requested minimal)
      (right.resize requested minimal) := by
  rw [resize, resize, checkRequest]
  by_cases wrong : requested < minimal
  · rw [if_pos wrong]
    exact endAlike_throw _
  · rw [if_neg wrong]
    refine (Likeness.resizings_liftM (endAlike_ofExcept _)).bindEq fun _ => ?_
    refine (sources.resize requested minimal
      (asked (Nat.not_lt.mp wrong))).bindEq fun met => ?_
    refine Likeness.resizings_size.bindEq fun size => ?_
    exact (Likeness.resizings_liftM (Likeness.operations_emit _)).bindEq
      fun _ => endAlike_pure rfl

theorem alike_tryAllocate
    (sources : Source.AlikeFor asks likeness left.source right.source)
    (together : nodes left right)
    (asked : minimal ≤ requested → asks requested minimal) :
    likeness.Operations (ExceptRel (Buffer.Alike likeness nodes))
      (left.tryAllocate requested minimal)
      (right.tryAllocate requested minimal) := by
  refine (alike_allocate sources together asked).bind
    fun result other agrees => ?_
  cases agrees with
  | some same => exact endAlike_pure (.ok same)
  | none => exact sources.readAvailable.bindEq fun _ => endAlike_pure (.error _)

theorem alike_tryResize
    (sources : Source.AlikeFor asks likeness left.source right.source)
    (asked : asks requested requested) :
    likeness.Resizings Eq (left.tryResize requested)
      (right.tryResize requested) := by
  refine (alike_resize sources fun _ => asked).bindEq fun met => ?_
  refine EndAlike.ite (endAlike_pure rfl) ?_
  exact Likeness.resizings_size.bindEq fun size => endAlike_pure rfl

end Allocator

/--
Two answers are alike: they differ in no more than the contents that they show,
and these are alike.
-/
inductive Answer.Alike (exact : Prop) : Answer → Answer → Prop where
  | allocated
      {result other : Except Fault (Option Contents)}
      (agrees : ExceptRel (Option.Rel (Contents.Alike exact)) result other) :
      Alike exact (.allocated result) (.allocated other)
  | tried
      {result other : Except Fault (Except Refusal Contents)}
      (agrees : ExceptRel (ExceptRel (Contents.Alike exact)) result other) :
      Alike exact (.tried result) (.tried other)
  | resized
      (result : Except Fault Bool)
      {contents other : Option Contents}
      (agrees : Option.Rel (Contents.Alike exact) contents other) :
      Alike exact (.resized result contents) (.resized result other)
  | triedResize
      (result : Except Fault (Option Refusal))
      {contents other : Contents}
      (agrees : contents.Alike exact other) :
      Alike exact (.triedResize result contents) (.triedResize result other)
  | written {contents other : Contents} (agrees : contents.Alike exact other) :
      Alike exact (.written contents) (.written other)
  | shown
      (isEmpty : Bool)
      {contents other : Contents}
      (agrees : contents.Alike exact other) :
      Alike exact (.shown isEmpty contents) (.shown isEmpty other)
  | same (answer : Answer) : Alike exact answer answer

/--
An answer about a handle that was empty shows the buffer that has been
made, if one has.
-/
theorem Answer.alike_slot
    {exact : Prop}
    {result other : Except Fault (Option Contents)}
    (agrees : ExceptRel (Option.Rel (Contents.Alike exact)) result other) :
    (Answer.resized (result.map Option.isSome) (result.toOption.bind id)).Alike
      exact (.resized (other.map Option.isSome) (other.toOption.bind id)) := by
  cases agrees with
  | error fault => exact .same _
  | ok made =>
      cases made with
      | none => exact .same _
      | some same => exact .resized _ (.some same)

/--
Two calls are the same but for the allocators that they name, and
these go together.
-/
inductive Call.SameBut (nodes : Allocator → Allocator → Prop) :
    Call → Call → Prop where
  | allocate
      (handle : Nat)
      {left right : Allocator}
      (requested minimal : Nat)
      (together : nodes left right) :
      SameBut nodes (.allocate handle left requested minimal)
        (.allocate handle right requested minimal)
  | tryAllocate
      (handle : Nat)
      {left right : Allocator}
      (requested minimal : Nat)
      (together : nodes left right) :
      SameBut nodes (.tryAllocate handle left requested minimal)
        (.tryAllocate handle right requested minimal)
  | resizeSlot
      (handle : Nat)
      {left right : Allocator}
      (requested minimal : Nat)
      (together : nodes left right) :
      SameBut nodes (.resizeSlot handle left requested minimal)
        (.resizeSlot handle right requested minimal)
  | resize
      (handle : Nat)
      {left right : Option Allocator}
      (requested minimal : Nat)
      (together : Option.Rel nodes left right) :
      SameBut nodes (.resize handle left requested minimal)
        (.resize handle right requested minimal)
  | tryResize
      (handle : Nat)
      {left right : Option Allocator}
      (requested : Nat)
      (together : Option.Rel nodes left right) :
      SameBut nodes (.tryResize handle left requested)
        (.tryResize handle right requested)
  | same {call : Call} (unasked : call.request? = none) :
      SameBut nodes call call

/--
What a call does to an account past all allocators ends alike in worlds
that are alike.
-/
def Likeness.Shares (likeness : Likeness) : Call → Prop
  | .setCeiling mediator ceiling =>
      likeness.Operations Eq (Mediation.setCeiling mediator ceiling)
        (Mediation.setCeiling mediator ceiling)
  | .mediatorAllocate mediator requested minimal =>
      likeness.Operations Eq (Mediation.allocate mediator requested minimal)
        (Mediation.allocate mediator requested minimal)
  | .mediatorFree mediator amount =>
      likeness.Operations Eq (Mediation.free mediator amount)
        (Mediation.free mediator amount)
  | .tryConsume lineage bytes =>
      likeness.Operations Eq (Charging.tryConsume lineage bytes)
        (Charging.tryConsume lineage bytes)
  | .consume lineage bytes =>
      likeness.Operations Eq (Charging.consume lineage bytes)
        (Charging.consume lineage bytes)
  | .release lineage bytes =>
      likeness.Operations Eq (Charging.release lineage bytes)
        (Charging.release lineage bytes)
  | _ => True

/-- Whether a call is made on an account past all allocators. -/
def Call.onAccount : Call → Bool
  | .setCeiling _ _ | .mediatorAllocate _ _ _ | .mediatorFree _ _ => true
  | .tryConsume _ _ | .consume _ _ | .release _ _ => true
  | _ => false

theorem Likeness.shares_of_not_onAccount
    (likeness : Likeness)
    {call : Call}
    (apart : call.onAccount = false) :
    likeness.Shares call := by
  cases call with
  | setCeiling => exact nomatch apart
  | mediatorAllocate => exact nomatch apart
  | mediatorFree => exact nomatch apart
  | tryConsume => exact nomatch apart
  | consume => exact nomatch apart
  | release => exact nomatch apart
  | _ => exact trivial

/--
Two lists of calls go side by side: call by call they go together, and calls
that are made aside may come on either side between the others.
-/
inductive Call.Abreast (together : Call → Call → Prop) (aside : Call → Bool) :
    List Call → List Call → Prop where
  | nil : Abreast together aside [] []
  | both
      {call other : Call}
      {rest others : List Call}
      (same : together call other)
      (shared : aside call = false ∧ aside other = false)
      (calls : Abreast together aside rest others) :
      Abreast together aside (call :: rest) (other :: others)
  | left
      {call : Call}
      {rest others : List Call}
      (alone : aside call = true)
      (calls : Abreast together aside rest others) :
      Abreast together aside (call :: rest) others
  | right
      {call : Call}
      {rest others : List Call}
      (alone : aside call = true)
      (calls : Abreast together aside rest others) :
      Abreast together aside rest (call :: others)

/-- Where no call is made aside, each has its companion. -/
theorem Call.abreast_of_forall₂
    {together : Call → Call → Prop}
    {calls others : List Call}
    (pairs : List.Forall₂ together calls others) :
    Call.Abreast together (fun _ => false) calls others := by
  induction pairs with
  | nil => exact .nil
  | cons same _ ih => exact .both same ⟨rfl, rfl⟩ ih

namespace Session

/--
Two sessions are alike: their worlds are, and the same handles hold
buffers that are.
-/
structure Alike
    (likeness : Likeness)
    (nodes : Allocator → Allocator → Prop)
    (left right : Session) : Prop where
  world : likeness.Worlds left.world right.world
  shelf : ∀ handle, Option.Rel (Buffer.Alike likeness nodes)
    (left.shelf.find? handle) (right.shelf.find? handle)

/-- Where bytes are compared, the same handles hold the same bytes. -/
theorem Alike.contents_eq
    {likeness : Likeness}
    {nodes : Allocator → Allocator → Prop}
    {left right : Session}
    (alike : Alike likeness nodes left right)
    (exactly : likeness.Exact)
    (handle : Nat) :
    (left.shelf.find? handle).map (·.contents) =
      (right.shelf.find? handle).map (·.contents) := by
  have held := alike.shelf handle
  generalize left.shelf.find? handle = buffer at held ⊢
  generalize right.shelf.find? handle = other at held ⊢
  cases held with
  | none => rfl
  | some same => exact congrArg some (same.contents.bytes exactly)

/-- The same handles hold buffers of the same sizes. -/
theorem Alike.size_eq
    {likeness : Likeness}
    {nodes : Allocator → Allocator → Prop}
    {left right : Session}
    (alike : Alike likeness nodes left right)
    (handle : Nat) :
    (left.shelf.find? handle).map (·.size) =
      (right.shelf.find? handle).map (·.size) := by
  have held := alike.shelf handle
  generalize left.shelf.find? handle = buffer at held ⊢
  generalize right.shelf.find? handle = other at held ⊢
  cases held with
  | none => rfl
  | some same => exact congrArg some same.contents.size

/--
Two results agree, with sessions after them that are alike, unless one of them
is a fault that is excused.
-/
inductive ReturnsAlike
    {α β : Type}
    (likeness : Likeness)
    (nodes : Allocator → Allocator → Prop)
    (agree : α → β → Prop) :
    Except Fault α × Session → Except Fault β × Session → Prop where
  | agree
      {result : Except Fault α}
      {other : Except Fault β}
      {later last : Session}
      (agrees : ExceptRel agree result other)
      (still : Alike likeness nodes later last) :
      ReturnsAlike likeness nodes agree (result, later) (other, last)
  | left
      {fault : Fault}
      {later : Session}
      {outcome : Except Fault β × Session}
      (excuses : likeness.Excused fault) :
      ReturnsAlike likeness nodes agree (.error fault, later) outcome
  | right
      {fault : Fault}
      {last : Session}
      {outcome : Except Fault α × Session}
      (excuses : likeness.Excused fault) :
      ReturnsAlike likeness nodes agree outcome (.error fault, last)

/--
Two calls have been answered alike, and left sessions that are alike, unless one
has stopped at a fault that is excused.
-/
inductive AnswersAlike
    (likeness : Likeness)
    (nodes : Allocator → Allocator → Prop) :
    Answer × Session → Answer × Session → Prop where
  | agree
      {answer other : Answer}
      {later last : Session}
      (agrees : answer.Alike likeness.Exact other)
      (still : Alike likeness nodes later last) :
      AnswersAlike likeness nodes (answer, later) (other, last)
  | left
      {fault : Fault}
      {outcome other : Answer × Session}
      (stopped : outcome.1.fault? = some fault)
      (excuses : likeness.Excused fault) :
      AnswersAlike likeness nodes outcome other
  | right
      {fault : Fault}
      {outcome other : Answer × Session}
      (stopped : other.1.fault? = some fault)
      (excuses : likeness.Excused fault) :
      AnswersAlike likeness nodes outcome other

variable
    {likeness : Likeness}
    {asks : Nat → Nat → Prop}
    {nodes : Allocator → Allocator → Prop}
    {left right : Session}
    {handle : Nat}

theorem Alike.insert
    (alike : Alike likeness nodes left right)
    {later last : World}
    (still : likeness.Worlds later last)
    {buffer other : Buffer}
    (same : Buffer.Alike likeness nodes buffer other)
    (handle : Nat) :
    Alike likeness nodes
      { world := later, shelf := left.shelf.insert handle buffer }
      { world := last, shelf := right.shelf.insert handle other } where
  world := still
  shelf := by
    intro place
    rw [Shelf.find?_insert, Shelf.find?_insert]
    split
    · exact .some same
    · exact alike.shelf place

theorem Alike.erase
    (alike : Alike likeness nodes left right)
    {later last : World}
    (still : likeness.Worlds later last)
    (handle : Nat) :
    Alike likeness nodes { world := later, shelf := left.shelf.erase handle }
      { world := last, shelf := right.shelf.erase handle } where
  world := still
  shelf := by
    intro place
    rw [Shelf.find?_erase, Shelf.find?_erase]
    split
    · exact .none
    · exact alike.shelf place

theorem Alike.run
    {α β : Type}
    {agree : α → β → Prop}
    (alike : Alike likeness nodes left right)
    {operation : Operation α}
    {other : Operation β}
    (pair : likeness.Operations agree operation other) :
    ReturnsAlike likeness nodes agree (left.run operation)
      (right.run other) := by
  have ended := pair _ _ alike.world
  rw [Session.run, Session.run, Operation.perform, Operation.perform]
  generalize operation.run left.world = result at ended ⊢
  generalize other.run right.world = given at ended ⊢
  cases ended with
  | values agrees still => exact .agree (.ok agrees) ⟨still, alike.shelf⟩
  | faults still => exact .agree (.error _) ⟨still, alike.shelf⟩
  | left excuses => exact .left excuses
  | right excuses => exact .right excuses

theorem Alike.release
    (sources : ∀ {left right}, nodes left right →
      Source.AlikeFor asks likeness left.source right.source)
    (alike : Alike likeness nodes left right)
    (handle : Nat) :
    ReturnsAlike likeness nodes Eq (left.release handle)
      (right.release handle) := by
  have held := alike.shelf handle
  rw [Session.release, Session.release]
  generalize left.shelf.find? handle = buffer at held ⊢
  generalize right.shelf.find? handle = other at held ⊢
  cases held with
  | none => exact .agree (.ok rfl) alike
  | @some buffer other same =>
      have ended := (sources same.originator).free buffer.size _ _ alike.world
      have size : other.size = buffer.size := same.contents.size.symm
      dsimp only
      rw [Buffer.free, Buffer.free, size, Operation.perform, Operation.perform]
      generalize (buffer.originator.source.free buffer.size).run left.world =
        result at ended ⊢
      generalize (other.originator.source.free buffer.size).run right.world =
        given at ended ⊢
      cases ended with
      | values agrees still => exact .agree (.ok rfl) (alike.erase still handle)
      | faults still => exact .agree (.error _) (alike.erase still handle)
      | left excuses => exact .left excuses
      | right excuses => exact .right excuses

theorem Alike.allocateInto
    {allocator other : Allocator}
    {requested minimal : Nat}
    (sources : Source.AlikeFor asks likeness allocator.source other.source)
    (together : nodes allocator other)
    (asked : minimal ≤ requested → asks requested minimal)
    (alike : Alike likeness nodes left right)
    (handle : Nat) :
    ReturnsAlike likeness nodes (Option.Rel (Contents.Alike likeness.Exact))
      (left.allocateInto handle allocator requested minimal)
      (right.allocateInto handle other requested minimal) := by
  have ran := alike.run (Allocator.alike_allocate sources together asked)
  rw [Session.allocateInto, Session.allocateInto]
  generalize left.run (allocator.allocate requested minimal) = outcome at ran ⊢
  generalize right.run (other.allocate requested minimal) = given at ran ⊢
  cases ran with
  | left excuses => exact .left excuses
  | right excuses => exact .right excuses
  | agree agrees still =>
      cases agrees with
      | error fault => exact .agree (.error fault) still
      | ok made =>
          cases made with
          | none => exact .agree (.ok .none) still
          | some same =>
              exact .agree (.ok (.some same.contents))
                (still.insert still.world same handle)

theorem Alike.tryAllocateInto
    {allocator other : Allocator}
    {requested minimal : Nat}
    (sources : Source.AlikeFor asks likeness allocator.source other.source)
    (together : nodes allocator other)
    (asked : minimal ≤ requested → asks requested minimal)
    (alike : Alike likeness nodes left right)
    (handle : Nat) :
    ReturnsAlike likeness nodes (ExceptRel (Contents.Alike likeness.Exact))
      (left.tryAllocateInto handle allocator requested minimal)
      (right.tryAllocateInto handle other requested minimal) := by
  have ran := alike.run (Allocator.alike_tryAllocate sources together asked)
  rw [Session.tryAllocateInto, Session.tryAllocateInto]
  generalize left.run (allocator.tryAllocate requested minimal) =
    outcome at ran ⊢
  generalize right.run (other.tryAllocate requested minimal) = given at ran ⊢
  cases ran with
  | left excuses => exact .left excuses
  | right excuses => exact .right excuses
  | agree agrees still =>
      cases agrees with
      | error fault => exact .agree (.error fault) still
      | ok made =>
          cases made with
          | error refusal => exact .agree (.ok (.error refusal)) still
          | ok same =>
              exact .agree (.ok (.ok same.contents))
                (still.insert still.world same handle)

/--
What is made of two results is alike where the results agree, if a fault
stays a fault.
-/
theorem ReturnsAlike.answers
    {α β : Type}
    {agree : α → β → Prop}
    {outcome : Except Fault α × Session}
    {given : Except Fault β × Session}
    (returns : ReturnsAlike likeness nodes agree outcome given)
    (answer : Except Fault α → Answer)
    (reply : Except Fault β → Answer)
    (stopped : ∀ fault, (answer (.error fault)).fault? = some fault)
    (stoppedToo : ∀ fault, (reply (.error fault)).fault? = some fault)
    (alike : ∀ {result other}, ExceptRel agree result other →
      (answer result).Alike likeness.Exact (reply other)) :
    AnswersAlike likeness nodes
      (answer outcome.1, outcome.2) (reply given.1, given.2) := by
  cases returns with
  | agree agrees still => exact .agree (alike agrees) still
  | left excuses => exact .left (stopped _) excuses
  | right excuses => exact .right (stoppedToo _) excuses

/-- An answer that shows nothing of a buffer. -/
theorem ReturnsAlike.same
    {α : Type}
    {outcome given : Except Fault α × Session}
    (returns : ReturnsAlike likeness nodes Eq outcome given)
    (answer : Except Fault α → Answer)
    (stopped : ∀ fault, (answer (.error fault)).fault? = some fault) :
    AnswersAlike likeness nodes
      (answer outcome.1, outcome.2) (answer given.1, given.2) :=
  returns.answers answer answer stopped stopped fun agrees =>
    agrees.eq ▸ .same _

theorem Alike.resizeHeld
    {α : Type}
    (alike : Alike likeness nodes left right)
    {buffer other : Buffer}
    (same : Buffer.Alike likeness nodes buffer other)
    {resizing through : Resizing α}
    (pair : likeness.Resizings Eq resizing through)
    (answer : Except Fault α → Contents → Answer)
    (stopped : ∀ fault contents,
      (answer (.error fault) contents).fault? = some fault)
    (shown : ∀ result {contents other}, contents.Alike likeness.Exact other →
      (answer result contents).Alike likeness.Exact (answer result other))
    (handle : Nat) :
    let (result, contents, later) := left.resizeHeld handle buffer resizing
    let (given, kept, last) := right.resizeHeld handle other through
    AnswersAlike likeness nodes
      (answer result contents, later) (answer given kept, last) := by
  have ended := pair { world := left.world, contents := buffer.contents }
    { world := right.world, contents := other.contents }
    ⟨alike.world, same.contents⟩
  rw [Session.resizeHeld, Session.resizeHeld, Resizing.perform,
    Resizing.perform]
  generalize resizing.run
        { world := left.world, contents := buffer.contents } = result
    at ended ⊢
  generalize through.run
        { world := right.world, contents := other.contents } = given
    at ended ⊢
  have held : ∀ {later last : Workbench}, likeness.Benches later last →
      Alike likeness nodes
        { world := later.world
          shelf := left.shelf.insert handle
            { buffer with contents := later.contents } }
        { world := last.world
          shelf := right.shelf.insert handle
            { other with contents := last.contents } } :=
    fun still =>
      alike.insert still.world (same.withContents still.contents) handle
  cases ended with
  | values agrees still =>
      obtain rfl := agrees
      exact .agree (shown (.ok _) still.contents) (held still)
  | faults still => exact .agree (shown (.error _) still.contents) (held still)
  | left excuses => exact .left (stopped _ _) excuses
  | right excuses => exact .right (stopped _ _) excuses

theorem Alike.performNew
    (sources : ∀ {left right}, nodes left right →
      Source.AlikeFor asks likeness left.source right.source)
    (alike : Alike likeness nodes left right)
    {next follow : Session → Answer × Session}
    {answer : Fault → Answer}
    (stopped : ∀ fault, (answer fault).fault? = some fault)
    (rest : ∀ {later last}, Alike likeness nodes later last →
      AnswersAlike likeness nodes (next later) (follow last))
    (handle : Nat) :
    AnswersAlike likeness nodes (left.performNew handle next answer)
      (right.performNew handle follow answer) := by
  have released := Alike.release sources alike handle
  rw [Session.performNew, Session.performNew]
  generalize left.release handle = outcome at released ⊢
  generalize right.release handle = given at released ⊢
  cases released with
  | left excuses => exact .left (stopped _) excuses
  | right excuses => exact .right (stopped _) excuses
  | agree agrees still =>
      cases agrees with
      | ok _ => exact rest still
      | error fault => exact .agree (.same _) still

theorem Alike.performHeld
    (alike : Alike likeness nodes left right)
    {next follow : Buffer → Answer × Session}
    (rest : ∀ {buffer other}, Buffer.Alike likeness nodes buffer other →
      AnswersAlike likeness nodes (next buffer) (follow other))
    (handle : Nat) :
    AnswersAlike likeness nodes
      (left.performHeld handle next) (right.performHeld handle follow) := by
  have held := alike.shelf handle
  rw [Session.performHeld, Session.performHeld]
  generalize left.shelf.find? handle = buffer at held ⊢
  generalize right.shelf.find? handle = other at held ⊢
  cases held with
  | none => exact .agree (.same _) alike
  | some same => exact rest same

theorem Alike.performWrite
    (alike : Alike likeness nodes left right)
    {edit : Contents → Contents}
    (edited : ∀ {contents other : Contents},
      contents.Alike likeness.Exact other →
      (edit contents).Alike likeness.Exact (edit other))
    (handle : Nat) :
    AnswersAlike likeness nodes (left.performWrite handle edit)
      (right.performWrite handle edit) := by
  refine alike.performHeld (fun same => ?_) handle
  have changed := edited same.contents
  exact .agree (.written changed)
    (alike.insert alike.world (same.withContents changed) handle)

/-- An allocator that is named, or else the one that a buffer came from. -/
theorem through_alike
    {buffer other : Buffer}
    (same : Buffer.Alike likeness nodes buffer other)
    {through along : Option Allocator}
    (together : Option.Rel nodes through along) :
    nodes (through.getD buffer.originator) (along.getD other.originator) := by
  cases together with
  | none => exact same.originator
  | some together => exact together

/-- A call that names no allocator is answered alike by both sessions. -/
theorem Alike.perform_same
    (sources : ∀ {left right}, nodes left right →
      Source.AlikeFor asks likeness left.source right.source)
    (alike : Alike likeness nodes left right)
    {call : Call}
    (unasked : call.request? = none)
    (shared : likeness.Shares call) :
    AnswersAlike likeness nodes (left.perform call) (right.perform call) := by
  cases call with
  | free handle =>
      exact (Alike.release sources alike handle).same .freed fun _ => rfl
  | fill handle byte =>
      exact alike.performWrite (fun same => same.fill byte) handle
  | write handle offset bytes =>
      exact alike.performWrite (fun same => same.write offset bytes) handle
  | read handle =>
      refine alike.performHeld (fun same => ?_) handle
      rw [same.isEmpty_eq]
      exact .agree (.shown _ same.contents) alike
  | originAvailable handle =>
      refine alike.performHeld (fun {buffer other} same => ?_) handle
      have read := alike.run (sources same.originator).readAvailable
      generalize left.run buffer.originator.source.readAvailable =
        outcome at read ⊢
      generalize right.run other.originator.source.readAvailable =
        given at read ⊢
      exact read.same .available fun _ => rfl
  | describe handle address =>
      refine alike.performHeld (fun same => ?_) handle
      rw [same.describe_eq address]
      exact .agree (.same _) alike
  | setCeiling => exact (alike.run shared).same .done fun _ => rfl
  | mediatorAllocate => exact (alike.run shared).same .granted fun _ => rfl
  | mediatorFree => exact (alike.run shared).same .done fun _ => rfl
  | tryConsume => exact (alike.run shared).same .admitted fun _ => rfl
  | consume => exact (alike.run shared).same .done fun _ => rfl
  | release => exact (alike.run shared).same .done fun _ => rfl
  | allocate => exact nomatch unasked
  | tryAllocate => exact nomatch unasked
  | resizeSlot => exact nomatch unasked
  | resize => exact nomatch unasked
  | tryResize => exact nomatch unasked

/-- Two calls that go together are answered alike. -/
theorem Alike.perform
    (sources : ∀ {left right}, nodes left right →
      Source.AlikeFor asks likeness left.source right.source)
    (alike : Alike likeness nodes left right)
    {call other : Call}
    (calls : call.SameBut nodes other)
    (shared : likeness.Shares call)
    (asked : ∀ requested minimal, call.request? = some (requested, minimal) →
      minimal ≤ requested → asks requested minimal) :
    AnswersAlike likeness nodes (left.perform call) (right.perform other) := by
  cases calls with
  | allocate handle requested minimal together =>
      refine Alike.performNew sources alike (fun _ => rfl)
        (fun still => ?_) handle
      exact (still.allocateInto (sources together) together
        (asked _ _ rfl) handle).answers
        .allocated .allocated (fun _ => rfl) (fun _ => rfl) fun agrees =>
        .allocated agrees
  | tryAllocate handle requested minimal together =>
      refine Alike.performNew sources alike (fun _ => rfl)
        (fun still => ?_) handle
      exact (still.tryAllocateInto (sources together) together
        (asked _ _ rfl) handle).answers
        .tried .tried (fun _ => rfl) (fun _ => rfl) fun agrees => .tried agrees
  | resizeSlot handle requested minimal together =>
      have held := alike.shelf handle
      rw [Session.perform, Session.perform]
      generalize left.shelf.find? handle = buffer at held ⊢
      generalize right.shelf.find? handle = other at held ⊢
      cases held with
      | none =>
          have made := alike.allocateInto (sources together) together
            (asked _ _ rfl) handle
          exact made.answers (fun result =>
            .resized (result.map Option.isSome) (result.toOption.bind id))
            (fun result =>
              .resized (result.map Option.isSome) (result.toOption.bind id))
            (fun _ => rfl) (fun _ => rfl) Answer.alike_slot
      | some same =>
          exact alike.resizeHeld same
            (Allocator.alike_resize (sources together) (asked _ _ rfl))
            (fun result contents => .resized result (some contents))
            (fun _ _ => rfl)
            (fun _ _ _ shown => .resized _ (.some shown)) handle
  | resize handle requested minimal together =>
      refine alike.performHeld (fun same => ?_) handle
      have nodes := through_alike same together
      exact alike.resizeHeld same
        (Allocator.alike_resize (sources nodes) (asked _ _ rfl))
        (fun result contents => .resized result (some contents))
        (fun _ _ => rfl) (fun _ _ _ shown => .resized _ (.some shown)) handle
  | tryResize handle requested together =>
      refine alike.performHeld (fun same => ?_) handle
      have nodes := through_alike same together
      have within := asked _ _ rfl (Nat.le_refl requested)
      exact alike.resizeHeld same
        (Allocator.alike_tryResize (sources nodes) within) .triedResize
        (fun _ _ => rfl) (fun _ _ _ shown => .triedResize _ shown) handle
  | same unasked => exact alike.perform_same sources unasked shared

/-- The calls of a run with their answers. -/
def transcript (session : Session) : List Call → List (Call × Answer)
  | [] => []
  | call :: rest =>
      (call, (session.perform call).1) ::
        (session.perform call).2.transcript rest

/-- The answers to the calls of a run, those left out that are made aside. -/
def answersBut (aside : Call → Bool) (session : Session) (calls : List Call) :
    List Answer :=
  ((session.transcript calls).filter fun entry => !aside entry.1).map (·.2)

/-- No call of a run stops at a fault that is excused. -/
def Unexcused (likeness : Likeness) (session : Session) (calls : List Call) :
    Prop :=
  ∀ entry ∈ session.transcript calls, ∀ fault, entry.2.fault? = some fault →
    ¬likeness.Excused fault

theorem answersBut_none (session : Session) (calls : List Call) :
    session.answersBut (fun _ => false) calls =
      (session.transcript calls).map (·.2) := by
  simp [answersBut]

theorem answersBut_cons_of_aside
    {aside : Call → Bool}
    {call : Call}
    (alone : aside call = true)
    (session : Session)
    (rest : List Call) :
    session.answersBut aside (call :: rest) =
      (session.perform call).2.answersBut aside rest := by
  rw [answersBut, transcript, List.filter_cons_of_neg]
  · rfl
  · simp [alone]

theorem answersBut_cons_of_not_aside
    {aside : Call → Bool}
    {call : Call}
    (shared : aside call = false)
    (session : Session)
    (rest : List Call) :
    session.answersBut aside (call :: rest) = (session.perform call).1 ::
      (session.perform call).2.answersBut aside rest := by
  rw [answersBut, transcript, List.filter_cons_of_pos]
  · rfl
  · simp [shared]

theorem Unexcused.head
    {session : Session}
    {call : Call}
    {rest : List Call}
    (unexcused : Unexcused likeness session (call :: rest))
    {fault : Fault}
    (stopped : (session.perform call).1.fault? = some fault) :
    ¬likeness.Excused fault :=
  unexcused _ List.mem_cons_self fault stopped

theorem Unexcused.tail
    {session : Session}
    {call : Call}
    {rest : List Call}
    (unexcused : Unexcused likeness session (call :: rest)) :
    Unexcused likeness (session.perform call).2 rest :=
  fun entry member => unexcused entry (List.mem_cons_of_mem _ member)

/--
Two runs that go side by side are answered alike, if no call is answered
that is excused.
-/
theorem Alike.performAll
    {aside : Call → Bool}
    {together : Call → Call → Prop}
    (step : ∀ {left right call other}, Alike likeness nodes left right →
      together call other → aside call = false →
      AnswersAlike likeness nodes (left.perform call) (right.perform other))
    (alone : ∀ {left right call}, aside call = true →
      Alike likeness nodes left right →
      Alike likeness nodes (left.perform call).2 right ∧
      Alike likeness nodes left (right.perform call).2)
    (alike : Alike likeness nodes left right)
    {calls others : List Call}
    (abreast : Call.Abreast together aside calls others)
    (unexcused : Unexcused likeness left calls)
    (unexcusedToo : Unexcused likeness right others) :
    List.Forall₂ (Answer.Alike likeness.Exact) (left.answersBut aside calls)
        (right.answersBut aside others) ∧
      Alike likeness nodes (left.performAll calls)
        (right.performAll others) := by
  induction abreast generalizing left right with
  | nil => exact ⟨.nil, alike⟩
  | @both call other rest others same shared _ ih =>
      have answers := step alike same shared.1
      rw [answersBut_cons_of_not_aside shared.1,
        answersBut_cons_of_not_aside shared.2]
      have stopped := @unexcused.head
      have stoppedToo := @unexcusedToo.head
      have rest := unexcused.tail
      have restToo := unexcusedToo.tail
      rw [performAll_cons, performAll_cons]
      generalize left.perform call = outcome at answers stopped rest ⊢
      generalize right.perform other = given at answers stoppedToo restToo ⊢
      cases answers with
      | left fault excuses => exact absurd excuses (stopped fault)
      | right fault excuses => exact absurd excuses (stoppedToo fault)
      | agree agrees still =>
          obtain ⟨others, last⟩ := ih still rest restToo
          exact ⟨.cons agrees others, last⟩
  | left own _ ih =>
      rw [answersBut_cons_of_aside own]
      exact ih (alone own alike).1 unexcused.tail unexcusedToo
  | right own _ ih =>
      rw [answersBut_cons_of_aside own]
      exact ih (alone own alike).2 unexcused unexcusedToo.tail

end Session

/-- Where bytes are compared, answers that are alike are the same. -/
theorem Answer.Alike.eq
    {exact : Prop}
    (exactly : exact)
    {answer other : Answer}
    (alike : answer.Alike exact other) :
    answer = other := by
  have contents : ∀ {left right : Contents},
      left.Alike exact right → left = right :=
    fun same => same.bytes exactly
  cases alike with
  | allocated agrees =>
      cases agrees with
      | error fault => rfl
      | ok made =>
          cases made with
          | none => rfl
          | some same => rw [contents same]
  | tried agrees =>
      cases agrees with
      | error fault => rfl
      | ok made =>
          cases made with
          | error refusal => rfl
          | ok same => rw [contents same]
  | resized result agrees =>
      cases agrees with
      | none => rfl
      | some same => rw [contents same]
  | triedResize result same => rw [contents same]
  | written same => rw [contents same]
  | shown isEmpty same => rw [contents same]
  | same answer => rfl

end BufferBudget
