import BufferBudget.Allocator
import BufferBudget.Proofs.Mediation
import BufferBudget.Proofs.Pairing
import Mathlib.Data.Option.Defs

/-!
# Sources that cannot be told apart

A likeness says when two worlds count as alike, whether bytes are compared or
only sizes, and which faults end the comparison.  Two sources are alike under it
if they report the same to have left, and if each call on the one and on the
other, from worlds that are alike, ends alike.

What a layer makes of two sources that are alike is alike again, as long as the
account that it asks answers alike in worlds that are alike.  So two stacks of
layers are compared layer by layer, and only where they differ is there anything
to be proved about the layers themselves.
-/

namespace BufferBudget

/-- Two contents have one size, and the same bytes where these are compared. -/
structure Contents.Alike (exact : Prop) (left right : Contents) : Prop where
  size : left.size = right.size
  bytes : exact → left = right

namespace Contents

variable {exact : Prop} {left right : Contents}

theorem Alike.refl (contents : Contents) : contents.Alike exact contents :=
  ⟨rfl, fun _ => rfl⟩

/--
Contents stay alike under a change that looks at sizes alone to
find the new size.
-/
theorem Alike.map
    (alike : left.Alike exact right)
    (change : Contents → Contents)
    (size : (change left).size = (change right).size) :
    (change left).Alike exact (change right) :=
  ⟨size, fun exactly => congrArg change (alike.bytes exactly)⟩

theorem Alike.extend (alike : left.Alike exact right) (size : Nat) :
    (left.extend size).Alike exact (right.extend size) := by
  refine alike.map (·.extend size) ?_
  simp only [Contents.extend, Array.size_append, size_fresh, alike.size]

theorem Alike.truncate (alike : left.Alike exact right) (size : Nat) :
    (left.truncate size).Alike exact (right.truncate size) := by
  refine alike.map (·.truncate size) ?_
  simp only [Contents.truncate, Array.take_eq_extract,
    Array.size_extract, alike.size]

theorem Alike.fill (alike : left.Alike exact right) (byte : UInt8) :
    (left.fill byte).Alike exact (right.fill byte) :=
  alike.map (·.fill byte) (by rw [size_fill, size_fill, alike.size])

theorem Alike.zeroFrom (alike : left.Alike exact right) (offset : Nat) :
    (left.zeroFrom offset).Alike exact (right.zeroFrom offset) :=
  alike.map (·.zeroFrom offset)
    (by rw [size_zeroFrom, size_zeroFrom, alike.size])

theorem Alike.write
    (alike : left.Alike exact right)
    (offset : Nat)
    (bytes : Array UInt8) :
    (left.write offset bytes).Alike exact (right.write offset bytes) :=
  alike.map (·.write offset bytes) (by rw [size_write, size_write, alike.size])

end Contents

/-- A sense in which two worlds, and what happens in them, are alike. -/
structure Likeness where
  Worlds : World → World → Prop
  /-- Whether the bytes of buffers are compared, and not their sizes alone. -/
  Exact : Prop
  /-- The faults after which nothing is compared. -/
  Excused : Fault → Prop
  /-- Of what is noted, no more than the diagnostics is compared. -/
  note : ∀ {left right : World} {event other : Event},
    event.diagnostic? = other.diagnostic? →
    Worlds left right → Worlds (left.note event) (right.note other)

namespace Likeness

variable (likeness : Likeness)

/-- Two worlds with the contents of one buffer each are alike in both. -/
structure Benches (left right : Workbench) : Prop where
  world : likeness.Worlds left.world right.world
  contents : left.contents.Alike likeness.Exact right.contents

/-- Two operations end alike in worlds that are alike. -/
abbrev Operations
    {α β : Type}
    (agree : α → β → Prop)
    (left : Operation α)
    (right : Operation β) : Prop :=
  EndAlike likeness.Excused likeness.Worlds agree left right

/-- Two resizings end alike in worlds and on contents that are alike. -/
abbrev Resizings
    {α β : Type}
    (agree : α → β → Prop)
    (left : Resizing α)
    (right : Resizing β) : Prop :=
  EndAlike likeness.Excused likeness.Benches agree left right

/--
Of two requests for a buffer either both are refused, or both give contents
that are alike.
-/
abbrev Results (left right : Option Contents) : Prop :=
  Option.Rel (Contents.Alike likeness.Exact) left right

variable {likeness} {α β : Type} {agree : α → β → Prop}

theorem noteAll
    (events : List Event)
    {left right : World}
    (alike : likeness.Worlds left right) :
    likeness.Worlds (left.noteAll events) (right.noteAll events) := by
  induction events generalizing left right with
  | nil => exact alike
  | cons event rest ih =>
      rw [World.noteAll_cons, World.noteAll_cons]
      exact ih (likeness.note rfl alike)

theorem operations_note
    {event other : Event}
    (same : event.diagnostic? = other.diagnostic?) :
    likeness.Operations Eq (Operation.note event) (Operation.note other) :=
  endAlike_modify fun _ _ alike => likeness.note same alike

theorem operations_called (site other : Site) (call another : LayerCall) :
    likeness.Operations Eq (Operation.note (.called site call))
      (Operation.note (.called other another)) :=
  operations_note rfl

theorem operations_emit (diagnostics : List Diagnostic) :
    likeness.Operations Eq (Operation.emit diagnostics)
      (Operation.emit diagnostics) :=
  endAlike_modify fun _ _ alike => noteAll _ alike

/-- Operations that end alike do so also within a resizing. -/
theorem resizings_liftM
    {left : Operation α}
    {right : Operation β}
    (pair : likeness.Operations agree left right) :
    likeness.Resizings agree (liftM left) (liftM right) := by
  intro first second begun
  rw [run_liftM, run_liftM]
  exact (pair _ _ begun.world).mapState fun _ _ still => ⟨still, begun.contents⟩

/-- Contents that are alike take the place of others. -/
theorem resizings_put
    {contents other : Contents}
    (alike : contents.Alike likeness.Exact other) :
    likeness.Resizings Eq (Resizing.put contents) (Resizing.put other) :=
  endAlike_modify fun _ _ still => ⟨still.world, alike⟩

theorem resizings_size : likeness.Resizings Eq Resizing.size Resizing.size :=
  fun _ _ begun => .values begun.contents.size begun

theorem operations_holding
    {left : Operation α}
    {right : Operation β}
    (pair : likeness.Operations agree left right)
    (lock : Lock) :
    likeness.Operations agree (Operation.holding lock left)
      (Operation.holding lock right) := by
  intro first second begun
  rw [run_holding, run_holding]
  exact (pair _ _ (likeness.note rfl begun)).mapState fun _ _ still =>
    likeness.note rfl still

theorem resizings_holding
    {left : Resizing α}
    {right : Resizing β}
    (pair : likeness.Resizings agree left right)
    (lock : Lock) :
    likeness.Resizings agree (Resizing.holding lock left)
      (Resizing.holding lock right) := by
  intro first second begun
  rw [run_holdingResizing, run_holdingResizing]
  have taken : likeness.Benches
      { first with world := first.world.note (.acquired lock) }
      { second with world := second.world.note (.acquired lock) } :=
    ⟨likeness.note rfl begun.world, begun.contents⟩
  exact (pair _ _ taken).mapState fun _ _ still =>
    ⟨likeness.note rfl still.world, still.contents⟩

/-- A mediator answers alike in worlds that are alike. -/
structure Mediates (likeness : Likeness) (mediator : Nat) : Prop where
  available : ∀ {left right : World}, likeness.Worlds left right →
    Mediation.available left mediator = Mediation.available right mediator
  usage : ∀ {left right : World}, likeness.Worlds left right →
    Mediation.usage left mediator = Mediation.usage right mediator
  readLocks : ∀ {left right later last : World}, likeness.Worlds left right →
    likeness.Worlds later last →
    likeness.Worlds (later.noteAll (Mediation.readLocks left mediator))
      (last.noteAll (Mediation.readLocks right mediator))
  allocate : ∀ requested minimal, likeness.Operations Eq
    (Mediation.allocate mediator requested minimal)
    (Mediation.allocate mediator requested minimal)
  free : ∀ amount, likeness.Operations Eq (Mediation.free mediator amount)
    (Mediation.free mediator amount)

theorem Mediates.grant
    {mediator : Nat}
    (mediates : likeness.Mediates mediator)
    (requested minimal : Nat) :
    likeness.Operations Eq (Mediation.grant mediator requested minimal)
      (Mediation.grant mediator requested minimal) := by
  refine EndAlike.ite (endAlike_pure rfl) ?_
  refine (mediates.allocate requested minimal).bindEq fun granted => ?_
  refine EndAlike.ite (endAlike_pure rfl) (EndAlike.ite ?_ (endAlike_pure rfl))
  exact (mediates.free granted).bindEq fun _ => endAlike_pure rfl

end Likeness

/--
Two sources are alike under a likeness, as far as some requests are put to them.
-/
structure Source.AlikeFor
    (asks : Nat → Nat → Prop)
    (likeness : Likeness)
    (left right : Source) : Prop where
  available : ∀ {first second : World}, likeness.Worlds first second →
    left.available first = right.available second
  readLocks : ∀ {first second later last : World},
    likeness.Worlds first second →
    likeness.Worlds later last →
    likeness.Worlds (later.noteAll (left.readLocks first))
      (last.noteAll (right.readLocks second))
  allocate : ∀ requested minimal, asks requested minimal →
    likeness.Operations likeness.Results (left.allocate requested minimal)
      (right.allocate requested minimal)
  resize : ∀ requested minimal, asks requested minimal →
    likeness.Resizings Eq (left.resize requested minimal)
      (right.resize requested minimal)
  free : ∀ size, likeness.Operations Eq (left.free size) (right.free size)

/-- Two sources are alike under a likeness, whatever is asked of them. -/
abbrev Source.Alike (likeness : Likeness) (left right : Source) : Prop :=
  Source.AlikeFor (fun _ _ => True) likeness left right

section Layers

variable {likeness : Likeness} {left right : Source}

theorem Source.AlikeFor.readAvailable
    {asks : Nat → Nat → Prop}
    (alike : Source.AlikeFor asks likeness left right) :
    likeness.Operations Eq left.readAvailable right.readAvailable := by
  refine endAlike_get.bind fun first second begun => ?_
  refine (endAlike_modify fun _ _ still => alike.readLocks begun still).bindEq
    fun _ => ?_
  rw [alike.available begun]
  exact endAlike_ofExcept _

/-- The calls that are noted need not be noted for the same site. -/
theorem Source.AlikeFor.noting
    {asks : Nat → Nat → Prop}
    (alike : Source.AlikeFor asks likeness left right)
    (site other : Site) :
    Source.AlikeFor asks likeness (left.noting site) (right.noting other) where
  available := alike.available
  readLocks := alike.readLocks
  allocate := by
    intro requested minimal asked
    refine (alike.allocate requested minimal asked).bind
      fun result given agrees => ?_
    exact (Likeness.operations_called site other _ _).bindEq fun _ =>
      endAlike_pure agrees
  resize := by
    intro requested minimal asked
    refine Likeness.resizings_size.bindEq fun old => ?_
    refine (alike.resize requested minimal asked).bindEq fun met => ?_
    refine Likeness.resizings_size.bindEq fun new => ?_
    exact (Likeness.resizings_liftM
      (Likeness.operations_called site other _ _)).bindEq
      fun _ => endAlike_pure rfl
  free := fun size =>
    (Likeness.operations_called site other _ _).bindEq fun _ => alike.free size

theorem Heap.alike_source (heap : Heap) :
    heap.source.Alike likeness heap.source where
  available := fun _ => rfl
  readLocks := fun _ alike => alike
  allocate := by
    intro requested minimal _
    refine endAlike_pure ?_
    split
    · exact .some (.refl _)
    · exact .none
  resize := by
    intro requested minimal _
    refine endAlike_get.bind fun first second begun => ?_
    dsimp only
    rw [begun.contents.size]
    refine EndAlike.ite (EndAlike.ite (endAlike_pure rfl) ?extended)
      (EndAlike.ite ?cut (endAlike_pure rfl))
    case extended =>
      exact (Likeness.resizings_put (begun.contents.extend requested)).bindEq
        fun _ => endAlike_pure rfl
    case cut =>
      exact (Likeness.resizings_put (begun.contents.truncate requested)).bindEq
        fun _ => endAlike_pure rfl
  free := fun _ => endAlike_pure rfl

namespace Mediated

variable {mediator : Nat}

theorem alike_allocate
    (mediates : likeness.Mediates mediator)
    (alike : left.Alike likeness right)
    (requested minimal : Nat) :
    likeness.Operations likeness.Results
      (allocate mediator left requested minimal)
      (allocate mediator right requested minimal) := by
  refine (mediates.grant requested minimal).bindEq fun answer => ?_
  cases answer with
  | none => exact endAlike_pure .none
  | some granted =>
      refine (alike.allocate granted minimal trivial).bind
        fun result other agrees => ?_
      cases agrees with
      | none =>
          exact (mediates.free granted).bindEq fun _ => endAlike_pure .none
      | some same =>
          dsimp only
          rw [same.size]
          refine EndAlike.ite ?_ (endAlike_pure (.some same))
          refine (endAlike_ofExcept _).bindEq fun surplus => ?_
          exact (mediates.free surplus).bindEq fun _ =>
            endAlike_pure (.some same)

theorem alike_shrink
    (mediates : likeness.Mediates mediator)
    (alike : left.Alike likeness right)
    (requested minimal : Nat) :
    likeness.Resizings Eq (shrink mediator left requested minimal)
      (shrink mediator right requested minimal) := by
  refine Likeness.resizings_size.bindEq fun old => ?_
  refine (alike.resize requested minimal trivial).bindEq fun met => ?_
  refine EndAlike.ite ?_ (endAlike_pure rfl)
  refine Likeness.resizings_size.bindEq fun new => ?_
  refine (Likeness.resizings_liftM (endAlike_ofExcept _)).bindEq
    fun surplus => ?_
  exact (Likeness.resizings_liftM (mediates.free surplus)).bindEq fun _ =>
    endAlike_pure rfl

theorem alike_grow
    (mediates : likeness.Mediates mediator)
    (alike : left.Alike likeness right)
    (requested minimal : Nat) :
    likeness.Resizings Eq (grow mediator left requested minimal)
      (grow mediator right requested minimal) := by
  refine Likeness.resizings_size.bindEq fun old => ?_
  refine (Likeness.resizings_liftM (endAlike_ofExcept _)).bindEq
    fun growth => ?_
  refine (Likeness.resizings_liftM
    (mediates.grant growth (minimal - old))).bindEq
    fun answer => ?_
  cases answer with
  | none => exact endAlike_pure rfl
  | some granted =>
      refine (Likeness.resizings_liftM (endAlike_ofExcept _)).bindEq
        fun target => ?_
      refine (alike.resize target minimal trivial).bindEq fun met => ?_
      refine EndAlike.ite ?met ?refused
      case refused =>
        exact (Likeness.resizings_liftM (mediates.free granted)).bindEq fun _ =>
          endAlike_pure rfl
      case met =>
        refine Likeness.resizings_size.bindEq fun new => ?_
        refine EndAlike.ite (endAlike_throw _) ?_
        refine (Likeness.resizings_liftM (endAlike_ofExcept _)).bindEq
          fun surplus => ?_
        exact (Likeness.resizings_liftM (mediates.free surplus)).bindEq fun _ =>
          endAlike_pure rfl

theorem alike_resize
    (mediates : likeness.Mediates mediator)
    (alike : left.Alike likeness right)
    (requested minimal : Nat) :
    likeness.Resizings Eq (resize mediator left requested minimal)
      (resize mediator right requested minimal) := by
  refine Likeness.resizings_size.bindEq fun old => ?_
  exact EndAlike.ite (alike_shrink mediates alike requested minimal)
    (alike_grow mediates alike requested minimal)

theorem alike_free
    (mediates : likeness.Mediates mediator)
    (alike : left.Alike likeness right)
    (size : Nat) :
    likeness.Operations Eq (free mediator left size)
      (free mediator right size) :=
  (mediates.free size).bindEq fun _ => alike.free size

theorem available_alike
    (mediates : likeness.Mediates mediator)
    (alike : left.Alike likeness right)
    {first second : World}
    (begun : likeness.Worlds first second) :
    available mediator left first = available mediator right second := by
  rw [available, available, alike.available begun, mediates.available begun]

theorem readLocks_alike
    (mediates : likeness.Mediates mediator)
    (alike : left.Alike likeness right)
    {first second later last : World}
    (begun : likeness.Worlds first second)
    (still : likeness.Worlds later last) :
    likeness.Worlds (later.noteAll (readLocks mediator left first))
      (last.noteAll (readLocks mediator right second)) := by
  rw [readLocks, readLocks, World.noteAll_append, World.noteAll_append]
  exact mediates.readLocks begun (alike.readLocks begun still)

theorem alike_source
    (mediates : likeness.Mediates mediator)
    (alike : left.Alike likeness right) :
    (source mediator left).Alike likeness (source mediator right) where
  available := available_alike mediates alike
  readLocks := readLocks_alike mediates alike
  allocate := fun requested minimal _ =>
    alike_allocate mediates alike requested minimal
  resize := fun requested minimal _ =>
    alike_resize mediates alike requested minimal
  free := alike_free mediates alike

end Mediated

/-- Zeros are put over bytes of the same size on both sides. -/
theorem Clearing.alike_source
    {asks : Nat → Nat → Prop}
    (alike : Source.AlikeFor asks likeness left right) :
    Source.AlikeFor asks likeness (source left) (source right) where
  available := alike.available
  readLocks := alike.readLocks
  allocate := by
    intro requested minimal asked
    refine (alike.allocate requested minimal asked).bind
      fun result other agrees => ?_
    refine endAlike_pure ?_
    cases agrees with
    | none => exact .none
    | some same => exact .some (same.fill 0)
  resize := by
    intro requested minimal asked
    refine Likeness.resizings_size.bindEq fun old => ?_
    refine (alike.resize requested minimal asked).bindEq fun met => ?_
    refine Likeness.resizings_size.bindEq fun new => ?_
    refine EndAlike.ite ?_ (endAlike_pure rfl)
    refine EndAlike.bindEq (endAlike_modify fun _ _ still => ?_) fun _ =>
      endAlike_pure rfl
    exact ⟨still.world, still.contents.zeroFrom old⟩
  free := alike.free

namespace Bypass

variable {mediator amount : Nat}

theorem available_alike
    (mediates : likeness.Mediates mediator)
    (alike : left.Alike likeness right)
    {first second : World}
    (begun : likeness.Worlds first second) :
    available mediator amount left first =
      available mediator amount right second := by
  rw [available, available, Mediated.available_alike mediates alike begun,
    mediates.usage begun]

theorem readLocks_alike
    (mediates : likeness.Mediates mediator)
    (alike : left.Alike likeness right)
    {first second later last : World}
    (begun : likeness.Worlds first second)
    (still : likeness.Worlds later last) :
    likeness.Worlds (later.noteAll (readLocks mediator left first))
      (last.noteAll (readLocks mediator right second)) := by
  rw [readLocks, readLocks, World.noteAll_append, World.noteAll_append]
  exact Mediated.readLocks_alike mediates alike begun
    (mediates.readLocks begun still)

theorem alike_readAvailable
    (mediates : likeness.Mediates mediator)
    (alike : left.Alike likeness right) :
    likeness.Operations Eq (readAvailable mediator amount left)
      (readAvailable mediator amount right) := by
  refine endAlike_get.bind fun first second begun => ?_
  refine (endAlike_modify fun _ _ still =>
    readLocks_alike mediates alike begun still).bindEq fun _ => ?_
  rw [available_alike mediates alike begun]
  exact endAlike_ofExcept _

theorem alike_source
    (mediates : likeness.Mediates mediator)
    (alike : left.Alike likeness right) :
    (source mediator amount left).Alike likeness
      (source mediator amount right) where
  available := available_alike mediates alike
  readLocks := readLocks_alike mediates alike
  allocate := by
    intro requested minimal _
    refine (alike_readAvailable mediates alike).bindEq fun rest => ?_
    refine (Mediated.alike_allocate mediates alike requested _).bind
      fun result other agrees => ?_
    cases agrees with
    | none => exact Mediated.alike_allocate mediates alike requested minimal
    | some same => exact endAlike_pure (.some same)
  resize := by
    intro requested minimal _
    refine (Likeness.resizings_liftM
      (alike_readAvailable mediates alike)).bindEq fun rest => ?_
    refine (Mediated.alike_resize mediates alike requested _).bindEq
      fun met => ?_
    exact EndAlike.ite (endAlike_pure rfl)
      (Mediated.alike_resize mediates alike requested minimal)
  free := Mediated.alike_free mediates alike

end Bypass

namespace Guaranteed

variable {mediator amount : Nat}

theorem available_alike
    (mediates : likeness.Mediates mediator)
    {first second : World}
    (begun : likeness.Worlds first second) :
    available mediator amount first = available mediator amount second := by
  rw [available, available, mediates.usage begun]

theorem alike_readAvailable (mediates : likeness.Mediates mediator) :
    likeness.Operations Eq (readAvailable mediator amount)
      (readAvailable mediator amount) := by
  refine endAlike_get.bind fun first second begun => ?_
  refine (endAlike_modify fun _ _ still =>
    mediates.readLocks begun still).bindEq fun _ => ?_
  exact endAlike_pure (available_alike mediates begun)

theorem alike_source
    (mediates : likeness.Mediates mediator)
    (alike : left.Alike likeness right) :
    (source mediator amount left).Alike likeness
      (source mediator amount right) where
  available := fun begun => congrArg Except.ok (available_alike mediates begun)
  readLocks := mediates.readLocks
  allocate := by
    intro requested minimal _
    refine (alike_readAvailable mediates).bindEq fun rest => ?_
    exact EndAlike.ite (endAlike_pure .none)
      (Mediated.alike_allocate mediates alike requested requested)
  resize := by
    intro requested minimal _
    have resized := Mediated.alike_resize mediates alike requested requested
    refine Likeness.resizings_size.bindEq fun old => EndAlike.ite ?_ resized
    refine (Likeness.resizings_liftM (alike_readAvailable mediates)).bindEq
      fun rest => ?_
    exact EndAlike.ite (endAlike_pure rfl) resized
  free := Mediated.alike_free mediates alike

end Guaranteed

/-- A tally is updated alike in worlds that are alike. -/
def Likeness.Tallies (likeness : Likeness) (tally : Nat) : Prop :=
  ∀ report, likeness.Operations Eq (Reporting.update tally report)
    (Reporting.update tally report)

namespace Tallied

variable {tally : Nat}

theorem alike_reportResize
    (tallies : likeness.Tallies tally)
    (requested old : Nat)
    (met : Bool)
    (new : Nat) :
    likeness.Operations Eq (reportResize tally requested old met new)
      (reportResize tally requested old met new) := by
  have reported : ∀ left right (report : Nat → Tally → Tally),
      likeness.Operations Eq (do Reporting.update tally (report
        (← Operation.ofExcept (Size.sub left right))))
      (do Reporting.update tally (report
        (← Operation.ofExcept (Size.sub left right)))) :=
    fun left right report => (endAlike_ofExcept _).bindEq fun bytes =>
      tallies (report bytes)
  refine EndAlike.ite
    (reported new old fun bytes account => account.allocated bytes) ?_
  refine EndAlike.ite
    (reported old new fun bytes account => account.freed bytes) ?_
  exact EndAlike.ite (reported requested new fun bytes account =>
    account.refused bytes) (endAlike_pure rfl)

theorem alike_source
    (tallies : likeness.Tallies tally)
    (alike : left.Alike likeness right) :
    (source tally left).Alike likeness (source tally right) where
  available := alike.available
  readLocks := alike.readLocks
  allocate := by
    intro requested minimal _
    refine (alike.allocate requested minimal trivial).bind
      fun result other agrees => ?_
    cases agrees with
    | none => exact (tallies _).bindEq fun _ => endAlike_pure .none
    | some same =>
        dsimp only
        rw [same.size]
        exact (tallies _).bindEq fun _ => endAlike_pure (.some same)
  resize := by
    intro requested minimal _
    refine Likeness.resizings_size.bindEq fun old => ?_
    refine (alike.resize requested minimal trivial).bindEq fun met => ?_
    refine Likeness.resizings_size.bindEq fun new => ?_
    have reported := alike_reportResize tallies requested old met new
    exact (Likeness.resizings_liftM reported).bindEq fun _ => endAlike_pure rfl
  free := fun size => (alike.free size).bindEq fun _ => tallies _

end Tallied

theorem Locked.alike_source (alike : left.Alike likeness right) (lock : Nat) :
    (source lock left).Alike likeness (source lock right) where
  available := alike.available
  readLocks := by
    intro first second later last begun still
    have taken : likeness.Worlds (later.note (.acquired (.layer lock)))
        (last.note (.acquired (.layer lock))) :=
      likeness.note rfl still
    simp only [source, World.noteAll_append, World.noteAll_cons,
      World.noteAll_nil]
    exact likeness.note rfl (alike.readLocks begun taken)
  allocate := fun requested minimal _ => Likeness.operations_holding
    (alike.allocate requested minimal trivial) (.layer lock)
  resize := fun requested minimal _ => Likeness.resizings_holding
    (alike.resize requested minimal trivial) (.layer lock)
  free :=
    fun size => Likeness.operations_holding (alike.free size) (.layer lock)

namespace Tracked

variable {lineage other : Lineage} {enforcing strict : Bool}

/-- Two layers charge their trackers, and pay them back, alike. -/
structure Alike
    (likeness : Likeness)
    (lineage : Lineage)
    (enforcing : Bool)
    (other : Lineage)
    (strict : Bool) : Prop where
  available : ∀ {first second : World}, likeness.Worlds first second →
    available lineage enforcing first = available other strict second
  charge : ∀ size, likeness.Operations Eq (charge lineage enforcing size)
    (charge other strict size)
  discharge : ∀ size,
    likeness.Operations Eq (discharge lineage size) (discharge other size)

theorem alike_allocateFirst
    (charges : Alike likeness lineage enforcing other strict)
    (alike : left.Alike likeness right)
    (targets : List Nat) :
    likeness.Operations likeness.Results
      (allocateFirst lineage enforcing left targets)
      (allocateFirst other strict right targets) := by
  induction targets with
  | nil => exact endAlike_pure .none
  | cons target rest ih =>
      refine (charges.charge target).bindEq fun admitted => EndAlike.ite ?_ ih
      refine (alike.allocate target target trivial).bind
        fun result given agrees => ?_
      cases agrees with
      | none => exact (charges.discharge target).bindEq fun _ => ih
      | some same => exact endAlike_pure (.some same)

theorem alike_resizeTo
    (charges : Alike likeness lineage enforcing other strict)
    (alike : left.Alike likeness right)
    (old target : Nat) :
    likeness.Resizings Eq (resizeTo lineage enforcing left old target)
      (resizeTo other strict right old target) := by
  have resized := alike.resize target target trivial
  refine EndAlike.ite ?shrunk ?grown
  case shrunk =>
    refine resized.bindEq fun met => EndAlike.ite ?_ (endAlike_pure rfl)
    refine Likeness.resizings_size.bindEq fun new => ?_
    refine (Likeness.resizings_liftM (endAlike_ofExcept _)).bindEq
      fun surplus => ?_
    exact (Likeness.resizings_liftM (charges.discharge surplus)).bindEq fun _ =>
      endAlike_pure rfl
  case grown =>
    refine (Likeness.resizings_liftM (endAlike_ofExcept _)).bindEq
      fun growth => ?_
    refine (Likeness.resizings_liftM (charges.charge growth)).bindEq
      fun admitted => EndAlike.ite ?_ (endAlike_pure rfl)
    refine resized.bindEq fun met => EndAlike.ite (endAlike_pure rfl) ?_
    exact (Likeness.resizings_liftM (charges.discharge growth)).bindEq fun _ =>
      endAlike_pure rfl

theorem alike_resizeFirst
    (charges : Alike likeness lineage enforcing other strict)
    (alike : left.Alike likeness right)
    (old : Nat)
    (targets : List Nat) :
    likeness.Resizings Eq (resizeFirst lineage enforcing left old targets)
      (resizeFirst other strict right old targets) := by
  induction targets with
  | nil => exact endAlike_pure rfl
  | cons target rest ih =>
      refine (alike_resizeTo charges alike old target).bindEq fun met => ?_
      exact EndAlike.ite (endAlike_pure rfl) ih

theorem alike_source
    (charges : Alike likeness lineage enforcing other strict)
    (alike : left.Alike likeness right) :
    (source lineage enforcing left).Alike likeness
      (source other strict right) where
  available := charges.available
  readLocks := fun _ still => still
  allocate := fun requested minimal _ =>
    alike_allocateFirst charges alike (targets requested minimal)
  resize := fun requested minimal _ =>
    Likeness.resizings_size.bindEq fun old =>
      alike_resizeFirst charges alike old (targets requested minimal)
  free := fun size => (alike.free size).bindEq fun _ => charges.discharge size

end Tracked

/--
A probe counts alike in worlds that are alike, and so admits the same calls.
-/
def Likeness.Probes (likeness : Likeness) (probe : Nat) : Prop :=
  ∀ screen,
    likeness.Operations Eq (Probe.count probe screen) (Probe.count probe screen)

theorem Probe.alike_source
    {probe : Nat}
    (probes : likeness.Probes probe)
    (screen : Screen)
    (alike : left.Alike likeness right) :
    (source probe screen left).Alike likeness (source probe screen right) where
  available := fun _ => rfl
  readLocks := fun _ still => still
  allocate := fun requested minimal _ =>
    (probes screen).bindEq fun _ => EndAlike.ite (alike.allocate
      (screen.lower requested minimal) minimal trivial) (endAlike_pure .none)
  resize := fun requested minimal _ =>
    (Likeness.resizings_liftM (probes screen)).bindEq fun _ =>
      EndAlike.ite (alike.resize (screen.lower requested minimal) minimal
        trivial) (endAlike_pure rfl)
  free := alike.free

/--
Where accounts and probes answer alike, a layer that charges no tracker makes
sources that are alike of sources that are.
-/
theorem Layer.alike_over
    {layer : Layer}
    (untracked : ∀ lineage enforcing, layer ≠ .tracked lineage enforcing)
    (mediates : ∀ mediator, likeness.Mediates mediator)
    (tallies : ∀ tally, likeness.Tallies tally)
    (probes : ∀ probe, likeness.Probes probe)
    (alike : left.Alike likeness right) :
    (layer.over left).Alike likeness (layer.over right) := by
  cases layer with
  | mediated mediator => exact Mediated.alike_source (mediates mediator) alike
  | clearing => exact Clearing.alike_source alike
  | bypass mediator amount =>
      exact Bypass.alike_source (mediates mediator) alike
  | tallied tally => exact Tallied.alike_source (tallies tally) alike
  | tracked lineage enforcing => exact absurd rfl (untracked lineage enforcing)
  | locked lock => exact Locked.alike_source alike lock
  | relay => exact alike
  | guaranteed mediator amount =>
      exact Guaranteed.alike_source (mediates mediator) alike
  | probe number screen => exact Probe.alike_source (probes number) screen alike

end Layers

end BufferBudget
