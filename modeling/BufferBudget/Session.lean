import BufferBudget.Buffer
import BufferBudget.Operation.Charging
import BufferBudget.Operation.Mediation
import BufferBudget.Shelf

/-!
# Sessions

A session is a world together with the buffers that a user holds, each under a
handle.  A user acts by calls, one at a time: `perform` answers a call and
gives the session after it.  A call that stops at a fault leaves what it had
done, and the session goes on from there.
-/

namespace BufferBudget

/-- A world and the buffers held in it. -/
structure Session where
  world : World
  shelf : Shelf Buffer

/-- Something that a user does. -/
inductive Call where
  /-- Asks for a buffer; one held under the handle is given back first. -/
  | allocate (handle : Nat) (allocator : Allocator) (requested minimal : Nat)
  /-- The same, with a refusal that gives figures. -/
  | tryAllocate (handle : Nat) (allocator : Allocator) (requested minimal : Nat)
  /--
  Resizes what the handle holds, or asks for a buffer if it holds nothing.
  -/
  | resizeSlot (handle : Nat) (allocator : Allocator) (requested minimal : Nat)
  /-- Resizes a held buffer, through another allocator or through its own. -/
  | resize (handle : Nat) (through : Option Allocator) (requested minimal : Nat)
  /-- The same, in full, with a refusal that gives figures. -/
  | tryResize (handle : Nat) (through : Option Allocator) (requested : Nat)
  /-- Gives a held buffer back. -/
  | free (handle : Nat)
  /-- Writes one byte everywhere. -/
  | fill (handle : Nat) (byte : UInt8)
  /-- Writes bytes from a position on. -/
  | write (handle offset : Nat) (bytes : Array UInt8)
  /-- Looks at a held buffer. -/
  | read (handle : Nat)
  /-- Asks the allocator of a held buffer how much it has left. -/
  | originAvailable (handle : Nat)
  /-- Writes a held buffer for a reader. -/
  | describe (handle : Nat) (address : String)
  /-- Moves the ceiling of a mediator. -/
  | setCeiling (mediator ceiling : Nat)
  /-- Asks a mediator past all allocators. -/
  | mediatorAllocate (mediator requested minimal : Nat)
  /-- Pays a mediator back past all allocators. -/
  | mediatorFree (mediator amount : Nat)
  /-- Charges a tracker past all allocators, if its limits admit it. -/
  | tryConsume (lineage : Lineage) (bytes : Int)
  /-- Charges a tracker past all allocators and past its limits. -/
  | consume (lineage : Lineage) (bytes : Int)
  /-- Pays a tracker back past all allocators. -/
  | release (lineage : Lineage) (bytes : Int)

/-- What a user is told. -/
inductive Answer where
  /-- The contents of the new buffer, if there is one. -/
  | allocated (result : Except Fault (Option Contents))
  /-- The contents of the new buffer, or why there is none. -/
  | tried (result : Except Fault (Except Refusal Contents))
  /--
  Whether a buffer was resized or made, and what the handle holds afterwards.
  -/
  | resized (result : Except Fault Bool) (contents : Option Contents)
  /--
  Why a buffer was not resized, if it was not, and its contents afterwards.
  -/
  | triedResize (result : Except Fault (Option Refusal)) (contents : Contents)
  /-- Whether there was a buffer to give back. -/
  | freed (result : Except Fault Bool)
  /-- The contents after writing. -/
  | written (contents : Contents)
  /-- Whether a buffer is empty, and its contents. -/
  | shown (isEmpty : Bool) (contents : Contents)
  /-- How much is left. -/
  | available (result : Except Fault Nat)
  /-- A text for a reader. -/
  | described (text : String)
  /-- What a mediator granted. -/
  | granted (result : Except Fault Nat)
  /-- Whether a tracker admitted a charge. -/
  | admitted (result : Except Fault Bool)
  /-- Nothing but that it was done. -/
  | done (result : Except Fault Unit)
  /-- The handle holds nothing. -/
  | vacant

namespace Session

/-- A session in which nothing is held. -/
def start (world : World) : Session :=
  { world, shelf := .empty }

/-- Makes an operation of the session's world a step of the session. -/
def run {α : Type} (session : Session) (operation : Operation α) :
    Except Fault α × Session :=
  let (result, world) := operation.perform session.world
  (result, { session with world })

/--
Gives back what a handle holds, if it holds something, and empties the handle.
-/
def release (session : Session) (handle : Nat) : Except Fault Bool × Session :=
  match session.shelf.find? handle with
  | none => (.ok false, session)
  | some buffer =>
      let (result, world) := buffer.free.perform session.world
      (result.map fun _ => true, { world, shelf := session.shelf.erase handle })

/-- Holds a buffer under a handle. -/
def hold (session : Session) (handle : Nat) (buffer : Buffer) : Session :=
  { session with shelf := session.shelf.insert handle buffer }

/-- Asks for a buffer and holds it under a handle that is empty. -/
def allocateInto
    (session : Session)
    (handle : Nat)
    (allocator : Allocator)
    (requested minimal : Nat) : Except Fault (Option Contents) × Session :=
  match session.run (allocator.allocate requested minimal) with
  | (.error fault, later) => (.error fault, later)
  | (.ok none, later) => (.ok none, later)
  | (.ok (some buffer), later) =>
      (.ok (some buffer.contents), later.hold handle buffer)

/--
Asks for a buffer with a refusal that gives figures, and holds it under
an empty handle.
-/
def tryAllocateInto
    (session : Session)
    (handle : Nat)
    (allocator : Allocator)
    (requested minimal : Nat) :
    Except Fault (Except Refusal Contents) × Session :=
  match session.run (allocator.tryAllocate requested minimal) with
  | (.error fault, later) => (.error fault, later)
  | (.ok (.error refusal), later) => (.ok (.error refusal), later)
  | (.ok (.ok buffer), later) =>
      (.ok (.ok buffer.contents), later.hold handle buffer)

/-- Resizes a buffer in its place under a handle. -/
def resizeHeld
    {α : Type}
    (session : Session)
    (handle : Nat)
    (buffer : Buffer)
    (resizing : Resizing α) : Except Fault α × Contents × Session :=
  let (result, bench) := resizing.perform buffer.contents session.world
  (result, bench.contents,
    { world := bench.world
      shelf := session.shelf.insert handle
        { buffer with contents := bench.contents } })

/-- Answers a call that makes a new buffer under a handle. -/
def performNew
    (session : Session)
    (handle : Nat)
    (next : Session → Answer × Session)
    (stopped : Fault → Answer) : Answer × Session :=
  match session.release handle with
  | (.error fault, later) => (stopped fault, later)
  | (.ok _, later) => next later

/-- Answers a call on the buffer under a handle. -/
def performHeld
    (session : Session)
    (handle : Nat)
    (next : Buffer → Answer × Session) : Answer × Session :=
  match session.shelf.find? handle with
  | none => (.vacant, session)
  | some buffer => next buffer

/-- Answers a call that edits the buffer under a handle. -/
def performWrite
    (session : Session)
    (handle : Nat)
    (edit : Contents → Contents) : Answer × Session :=
  session.performHeld handle fun buffer =>
    let contents := edit buffer.contents
    (.written contents, session.hold handle { buffer with contents })

/-- Answers a call, and gives the session after it. -/
def perform (session : Session) : Call → Answer × Session
  | .allocate handle allocator requested minimal =>
      session.performNew handle
        (fun later =>
          let (result, last) :=
            later.allocateInto handle allocator requested minimal
          (.allocated result, last))
        (fun fault => .allocated (.error fault))
  | .tryAllocate handle allocator requested minimal =>
      session.performNew handle
        (fun later =>
          let (result, last) :=
            later.tryAllocateInto handle allocator requested minimal
          (.tried result, last))
        (fun fault => .tried (.error fault))
  | .resizeSlot handle allocator requested minimal =>
      match session.shelf.find? handle with
      | none =>
          let (result, later) :=
            session.allocateInto handle allocator requested minimal
          (.resized (result.map Option.isSome) (result.toOption.bind id), later)
      | some buffer =>
          let (result, contents, later) :=
            session.resizeHeld handle buffer
              (allocator.resize requested minimal)
          (.resized result (some contents), later)
  | .resize handle through requested minimal =>
      session.performHeld handle fun buffer =>
        let allocator := through.getD buffer.originator
        let (result, contents, later) :=
          session.resizeHeld handle buffer (allocator.resize requested minimal)
        (.resized result (some contents), later)
  | .tryResize handle through requested =>
      session.performHeld handle fun buffer =>
        let allocator := through.getD buffer.originator
        let (result, contents, later) :=
          session.resizeHeld handle buffer (allocator.tryResize requested)
        (.triedResize result contents, later)
  | .free handle =>
      let (result, later) := session.release handle
      (.freed result, later)
  | .fill handle byte =>
      session.performWrite handle fun contents => contents.fill byte
  | .write handle offset bytes =>
      session.performWrite handle fun contents => contents.write offset bytes
  | .read handle =>
      session.performHeld handle fun buffer =>
        (.shown buffer.isEmpty buffer.contents, session)
  | .originAvailable handle =>
      session.performHeld handle fun buffer =>
        let (result, later) :=
          session.run buffer.originator.source.readAvailable
        (.available result, later)
  | .describe handle address =>
      session.performHeld handle fun buffer =>
        (.described (buffer.describe address), session)
  | .setCeiling mediator ceiling =>
      let (result, later) := session.run (Mediation.setCeiling mediator ceiling)
      (.done result, later)
  | .mediatorAllocate mediator requested minimal =>
      let (result, later) :=
        session.run (Mediation.allocate mediator requested minimal)
      (.granted result, later)
  | .mediatorFree mediator amount =>
      let (result, later) := session.run (Mediation.free mediator amount)
      (.done result, later)
  | .tryConsume lineage bytes =>
      let (result, later) := session.run (Charging.tryConsume lineage bytes)
      (.admitted result, later)
  | .consume lineage bytes =>
      let (result, later) := session.run (Charging.consume lineage bytes)
      (.done result, later)
  | .release lineage bytes =>
      let (result, later) := session.run (Charging.release lineage bytes)
      (.done result, later)

/-- Performs calls one after the other. -/
def performAll (session : Session) (calls : List Call) : Session :=
  calls.foldl (fun current call => (current.perform call).2) session

/--
Gives back the buffers under some handles, in order, and collects the faults.
-/
def releaseAll (session : Session) : List Nat → List Fault × Session
  | [] => ([], session)
  | handle :: rest =>
      match session.release handle with
      | (.error fault, later) =>
          let (faults, last) := later.releaseAll rest
          (fault :: faults, last)
      | (.ok _, later) => later.releaseAll rest

/-- Gives back every buffer that is held, the lowest handle first. -/
def finish (session : Session) : List Fault × Session :=
  session.releaseAll (session.shelf.toList.map (·.1))

/--
Asks for one buffer after the other, accepting any size, and gives each back
before the next.  Of each it keeps the size and the usage of a mediator while
the buffer is held.
-/
def soundings (session : Session) (allocator : Allocator) (mediator : Nat) :
    List Nat → List (Option Nat × Nat) × Session
  | [] => ([], session)
  | requested :: rest =>
      let (result, during) := session.allocateInto 0 allocator requested 0
      let size := result.toOption.bind fun contents => contents.map (·.size)
      let (others, last) :=
        (during.release 0).2.soundings allocator mediator rest
      ((size, Mediation.usage during.world mediator) :: others, last)

@[simp]
theorem performAll_nil (session : Session) : session.performAll [] = session :=
  rfl

@[simp]
theorem performAll_cons (session : Session) (call : Call) (calls : List Call) :
    session.performAll (call :: calls) =
      (session.perform call).2.performAll calls :=
  rfl

end Session

end BufferBudget
