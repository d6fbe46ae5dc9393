import BufferBudget.Proofs.Calls

/-!
# What fresh bytes hold, and which bytes are left alone

Whatever layers do to a request, the bytes of a buffer come about in one way. A
new buffer holds a pattern from its first byte on.  A resized one holds the
bytes that it had, as far as they reach, and after them the pattern over again.
The pattern is the marker of the heap, and zeros as soon as some layer clears.

`Contents.refit` is the resized buffer as a function of the sizes alone, so that
a request that is tried several times, with several sizes, is nothing special:
each refused attempt leaves the bytes alone, and the one that is met refits
them. `Fills` is the contract of a source about bytes.
-/

namespace BufferBudget

namespace Contents

/-- Bytes that are given by their positions. -/
def pattern (byte : Nat → UInt8) (size : Nat) : Contents :=
  Array.ofFn fun index : Fin size => byte index

@[simp]
theorem size_pattern (byte : Nat → UInt8) (size : Nat) :
    (pattern byte size).size = size := by
  simp [pattern]

/--
The contents cut or grown to a size, with a pattern that starts over at the
first byte after the old ones.
-/
def refit (contents : Contents) (byte : Nat → UInt8) (size : Nat) : Contents :=
  contents.take size ++ pattern byte (size - contents.size)

variable (contents : Contents) (byte : Nat → UInt8)

@[simp]
theorem size_refit (size : Nat) : (contents.refit byte size).size = size := by
  simp only [refit, Array.size_append, Array.take_eq_extract,
    Array.size_extract, size_pattern]
  omega

theorem refit_of_le {size : Nat} (smaller : size ≤ contents.size) :
    contents.refit byte size = contents.truncate size := by
  rw [refit, truncate, Nat.sub_eq_zero_of_le smaller]
  simp [pattern]

theorem refit_of_ge {size : Nat} (larger : contents.size ≤ size) :
    contents.refit byte size =
      contents ++ pattern byte (size - contents.size) := by
  rw [refit, Array.take_eq_extract, Array.extract_eq_self_of_le larger]

@[simp]
theorem refit_size : contents.refit byte contents.size = contents := by
  rw [refit_of_ge contents byte (Nat.le_refl _), Nat.sub_self]
  simp [pattern]

/-- Growth by fresh bytes refits with the marker. -/
theorem extend_eq_refit {size : Nat} (larger : contents.size ≤ size) :
    contents.extend size = contents.refit marker size :=
  (refit_of_ge contents marker larger).symm

theorem pattern_const (value : UInt8) (size : Nat) :
    pattern (fun _ => value) size = Array.replicate size value := by
  apply Array.ext
  · simp
  · intro index _ _
    simp [pattern]

theorem fill_pattern (size : Nat) (value : UInt8) :
    (pattern byte size).fill value = pattern (fun _ => value) size := by
  rw [fill, size_pattern, pattern_const]

/-- Zeros from the old size on are what refitting with zeros gives. -/
theorem zeroFrom_refit {size : Nat} (larger : contents.size ≤ size) :
    (contents.refit byte size).zeroFrom contents.size =
      contents.refit (fun _ => 0) size := by
  rw [zeroFrom, size_refit, refit_of_ge contents byte larger,
    refit_of_ge contents _ larger, pattern_const, Array.take_eq_extract,
    Array.extract_append, Array.extract_size]
  simp

end Contents

/-- A new buffer, if there is one, holds a pattern. -/
def Filled (byte : Nat → UInt8) (result : Option Contents) : Prop :=
  ∀ contents, result = some contents → contents = .pattern byte contents.size

/-- A buffer has been refitted with a pattern, or is as it was. -/
def Refitted
    (byte : Nat → UInt8)
    (contents : Contents)
    (met : Bool)
    (later : Contents) : Prop :=
  later = if met = true then contents.refit byte later.size else contents

/-- The contract of a source about bytes. -/
structure Source.Fills (source : Source) (byte : Nat → UInt8) : Prop where
  allocate : ∀ requested minimal world, Ends (source.allocate requested minimal)
    world (fun result _ => Filled byte result) (fun _ _ => True)
  resize : ∀ requested minimal bench, Ends (source.resize requested minimal)
    bench (fun met later => Refitted byte bench.contents met later.contents)
    (fun _ _ => True)

section Postconditions

variable {byte : Nat → UInt8} {contents : Contents}

theorem filled_none : Filled byte none :=
  nofun

theorem Filled.eq (filled : Filled byte (some contents)) :
    contents = .pattern byte contents.size :=
  filled contents rfl

theorem refitted_false : Refitted byte contents false contents :=
  rfl

theorem Refitted.same
    {later : Contents}
    (refitted : Refitted byte contents false later) :
    later = contents :=
  refitted

theorem Refitted.eq
    {later : Contents}
    (refitted : Refitted byte contents true later) :
    later = contents.refit byte later.size :=
  refitted

end Postconditions

theorem Source.Fills.noting
    {source : Source}
    {byte : Nat → UInt8}
    (fills : source.Fills byte)
    (site : Site) :
    (source.noting site).Fills byte where
  allocate := fun requested minimal world =>
    noting_allocate_rule (fills.allocate requested minimal world)
  resize := fun requested minimal bench =>
    noting_resize_rule (fills.resize requested minimal bench)

theorem Heap.fills_source (heap : Heap) :
    heap.source.Fills Contents.marker where
  allocate := by
    intro requested minimal world
    refine allocate_rule (fun _ => filled_none) (fun _ => ?_)
    rintro _ ⟨⟩
    rw [Contents.size_fresh]
    rfl
  resize := by
    intro requested minimal bench
    refine resize_rule (fun _ _ => refitted_false) (fun larger _ => ?grown)
      (fun smaller => ?cut) (fun _ => ?kept)
    case grown =>
      rw [Refitted, if_pos rfl,
        Contents.extend_eq_refit _ (Nat.le_of_lt larger), Contents.size_refit]
    case cut =>
      rw [Refitted, if_pos rfl, Contents.size_truncate _ (Nat.le_of_lt smaller),
        Contents.refit_of_le _ _ (Nat.le_of_lt smaller)]
    case kept => exact (Contents.refit_size _ _).symm

namespace Mediated

variable {below : Source} {byte : Nat → UInt8} {mediator : Nat}

theorem fills_allocate
    (fills : below.Fills byte)
    (requested minimal : Nat)
    (world : World) :
    Ends (allocate mediator below requested minimal) world
      (fun result _ => Filled byte result) (fun _ _ => True) := by
  refine allocate_rule (fun _ result _ => Filled byte result) ends_somehow
    (fun _ _ => filled_none)
    (fun granted later _ => fills.allocate granted minimal later)
    ?refused ?short (fun _ _ _ filled _ => filled)
  case refused =>
    exact fun _ _ _ => ends_somehow.imp (fun _ _ _ => filled_none)
  case short =>
    exact fun _ _ _ filled _ =>
      ends_somehow.imp (fun _ _ _ => filled)

theorem fills_resize
    (fills : below.Fills byte)
    (requested minimal : Nat)
    (bench : Workbench) :
    Ends (resize mediator below requested minimal) bench
      (fun met later => Refitted byte bench.contents met later.contents)
      (fun _ _ => True) := by
  -- what is booked or given back after the call below leaves the bytes alone
  have settled : ∀ (met : Bool) (later : Workbench) (amount : Nat),
      Refitted byte bench.contents met later.contents →
      Ends (Mediation.free mediator amount) later.world
        (fun _ _ => Refitted byte bench.contents met later.contents)
        (fun _ _ => True) :=
    fun _ _ _ refitted => ends_somehow.imp (fun _ _ _ => refitted)
  refine resize_rule (fun _ => ?shrunk) (fun larger => ?grown)
  case shrunk =>
    exact shrink_rule (fills.resize requested minimal bench)
      (fun _ refitted => refitted)
      (fun _ _ _ => trivial) (fun later refitted _ =>
        settled true later _ refitted)
  case grown =>
    exact grow_rule
      (fun _ met later => Refitted byte bench.contents met later.contents)
      larger ends_somehow (fun _ _ => refitted_false)
      (fun _ _ _ _ => trivial) (fun granted later _ _ => fills.resize
        (bench.contents.size + granted) minimal { bench with world := later })
      (fun granted later refitted => settled false later granted refitted)
      (fun _ _ _ _ => trivial) (fun _ later refitted _ =>
        settled true later _ refitted)

theorem fills_source (fills : below.Fills byte) (mediator : Nat) :
    (source mediator below).Fills byte where
  allocate := fills_allocate fills
  resize := fills_resize fills

end Mediated

/-- Clearing puts zeros in the place of any pattern. -/
theorem Clearing.fills_source
    {below : Source}
    {byte : Nat → UInt8}
    (fills : below.Fills byte) :
    (source below).Fills fun _ => 0 where
  allocate := by
    intro requested minimal world
    refine allocate_rule ((fills.allocate requested minimal world).imp ?_)
    intro result _ filled
    cases result with
    | none => exact filled_none
    | some contents =>
        rintro _ ⟨⟩
        show contents.fill 0 = .pattern (fun _ => 0) (contents.fill 0).size
        rw [Contents.size_fill, filled.eq, Contents.fill_pattern,
          Contents.size_pattern]
  resize := by
    intro requested minimal bench
    refine resize_rule (fills.resize requested minimal bench) ?same ?cleared
    case same =>
      intro met later refitted notGrown
      cases met with
      | false => exact refitted
      | true =>
          -- where there are no fresh bytes, all patterns refit alike
          have smaller := notGrown rfl
          rw [Refitted, if_pos rfl, Contents.refit_of_le _ _ smaller,
            ← Contents.refit_of_le _ byte smaller]
          exact refitted.eq
    case cleared =>
      intro later refitted larger
      rw [Refitted, if_pos rfl, Contents.size_zeroFrom, refitted.eq,
        Contents.size_refit]
      exact Contents.zeroFrom_refit _ _ (Nat.le_of_lt larger)

/--
The first attempt of a bypass, if it is refused, leaves the bytes to the second.
-/
theorem Bypass.fills_source
    {below : Source}
    {byte : Nat → UInt8}
    (fills : below.Fills byte)
    (mediator amount : Nat) :
    (source mediator amount below).Fills byte where
  allocate := fun requested minimal _ =>
    allocate_rule (fun result _ => Filled byte result) ends_somehow
      (fun rest later _ => Mediated.fills_allocate fills requested
        (raiseMinimal requested minimal rest) later) (fun _ _ filled => filled)
      (fun later _ => Mediated.fills_allocate fills requested minimal later)
  resize := by
    intro requested minimal bench
    refine resize_rule (fun _ _ => True)
      (fun met later => Refitted byte bench.contents met later.contents)
      ends_somehow (fun rest later _ => Mediated.fills_resize fills requested
        (raiseMinimal requested minimal rest) { bench with world := later })
      (fun _ refitted => refitted) ?again
    case again =>
      intro later refitted
      rw [← refitted.same]
      exact Mediated.fills_resize fills requested minimal later

theorem Guaranteed.fills_source
    {below : Source}
    {byte : Nat → UInt8}
    (fills : below.Fills byte)
    (mediator amount : Nat) :
    (source mediator amount below).Fills byte where
  allocate := fun requested _ _ =>
    allocate_rule (fun _ => filled_none) fun _ =>
      Mediated.fills_allocate fills requested requested _
  resize := fun requested _ bench => resize_rule (fun _ _ => refitted_false)
    (fun _ => Mediated.fills_resize fills requested requested bench) (fun _ _ =>
      Mediated.fills_resize fills requested requested { bench with world := _ })

theorem Tallied.fills_source
    {below : Source}
    {byte : Nat → UInt8}
    (fills : below.Fills byte)
    (tally : Nat) :
    (source tally below).Fills byte where
  allocate := fun requested minimal world =>
    allocate_rule (fills.allocate requested minimal world)
      (fun _ _ filled => filled) (fun _ _ => filled_none)
  resize := fun requested minimal bench =>
    resize_rule (fills.resize requested minimal bench)
      (fun _ _ refitted _ => refitted) (fun _ _ refitted _ => refitted)
      (fun _ refitted _ _ => refitted) (fun _ _ refitted _ _ => refitted)

namespace Tracked

variable
    {below : Source}
    {byte : Nat → UInt8}
    {lineage : Lineage}
    {enforcing : Bool}

theorem fills_allocateFirst
    (fills : below.Fills byte)
    (targets : List Nat)
    (world : World) :
    Ends (allocateFirst lineage enforcing below targets) world
      (fun result _ => Filled byte result) (fun _ _ => True) := by
  induction targets generalizing world with
  | nil => exact filled_none
  | cons target rest ih =>
      exact allocateFirst_rule (fun result _ => Filled byte result)
        (fun _ => True) ends_somehow
        (fun later _ => fills.allocate target target later)
        (fun _ _ filled => filled)
        (fun _ _ => ends_somehow) (fun later _ => ih later)

theorem fills_resizeTo
    (fills : below.Fills byte)
    (target : Nat)
    (bench : Workbench) :
    Ends (resizeTo lineage enforcing below bench.contents.size target) bench
      (fun met later => Refitted byte bench.contents met later.contents)
      (fun _ _ => True) := by
  have settled : ∀ (met : Bool) (later : Workbench) (size : Nat),
      Refitted byte bench.contents met later.contents →
      Ends (discharge lineage size) later.world
        (fun _ _ => Refitted byte bench.contents met later.contents)
        (fun _ _ => True) :=
    fun _ _ _ refitted => ends_somehow.imp (fun _ _ _ => refitted)
  refine Ends.ite (fun _ => ?shrunk) (fun notSmaller => ?grown)
  case shrunk =>
    exact shrinkTo_rule (fills.resize target target bench)
      (fun _ refitted => refitted)
      (fun _ _ _ => trivial) (fun later refitted _ =>
        settled true later _ refitted)
  case grown =>
    exact growTo_rule (fun _ _ => True)
      (fun met later => Refitted byte bench.contents met later.contents)
      (Nat.not_le.mp notSmaller) ends_somehow (fun _ _ => refitted_false)
      (fun later _ => fills.resize target target { bench with world := later })
      (fun _ refitted => refitted)
      (fun later refitted => settled false later _ refitted)

theorem fills_resizeFirst
    (fills : below.Fills byte)
    (targets : List Nat)
    (bench : Workbench) :
    Ends (resizeFirst lineage enforcing below bench.contents.size targets) bench
      (fun met later => Refitted byte bench.contents met later.contents)
      (fun _ _ => True) := by
  induction targets generalizing bench with
  | nil => exact refitted_false
  | cons target rest ih =>
      refine resizeFirst_rule
        (fun met later => Refitted byte bench.contents met later.contents)
        (fills_resizeTo fills target bench) (fun _ refitted => refitted) ?again
      case again =>
        intro later refitted
        rw [← refitted.same]
        exact ih later

theorem fills_source
    (fills : below.Fills byte)
    (lineage : Lineage)
    (enforcing : Bool) :
    (source lineage enforcing below).Fills byte where
  allocate := fun requested minimal =>
    fills_allocateFirst fills (targets requested minimal)
  resize := fun requested minimal bench => (ends_bind Resizing.size _).mpr
    (fills_resizeFirst fills (targets requested minimal) bench)

end Tracked

theorem Locked.fills_source
    {below : Source}
    {byte : Nat → UInt8}
    (fills : below.Fills byte)
    (lock : Nat) :
    (source lock below).Fills byte where
  allocate := fun requested minimal _ =>
    (ends_holding _ _).mpr (fills.allocate requested minimal _)
  resize := fun requested minimal bench => (ends_holdingResizing _ _).mpr
    (fills.resize requested minimal { bench with world := _ })

theorem Probe.fills_source
    {below : Source}
    {byte : Nat → UInt8}
    (fills : below.Fills byte)
    (probe : Nat)
    (screen : Screen) :
    (source probe screen below).Fills byte where
  allocate := fun requested minimal _ => allocate_rule filled_none
    (fills.allocate (screen.lower requested minimal) minimal _)
  resize := fun requested minimal bench => resize_rule refitted_false
    (fills.resize (screen.lower requested minimal) minimal
      { bench with world := _ })

/--
The pattern of fresh bytes under some layers: zeros if one of them clears, and
otherwise the marker of the heap.
-/
def freshUnder (layers : List Layer) (index : Nat) : UInt8 :=
  if .clearing ∈ layers then 0 else Contents.marker index

theorem freshUnder_nil : freshUnder [] = Contents.marker := by
  funext index
  simp [freshUnder]

theorem freshUnder_clearing (layers : List Layer) :
    freshUnder (.clearing :: layers) = fun _ => 0 := by
  funext index
  exact if_pos List.mem_cons_self

theorem freshUnder_cons
    {layer : Layer}
    (other : layer ≠ .clearing)
    (layers : List Layer) :
    freshUnder (layer :: layers) = freshUnder layers := by
  funext index
  simp [freshUnder, other.symm]

/-- A layer that does not clear fills as the source below does. -/
theorem Layer.fills_over
    {layer : Layer}
    (other : layer ≠ .clearing)
    {below : Source}
    {byte : Nat → UInt8}
    (fills : below.Fills byte) :
    (layer.over below).Fills byte := by
  cases layer with
  | clearing => exact absurd rfl other
  | mediated mediator => exact Mediated.fills_source fills mediator
  | bypass mediator amount => exact Bypass.fills_source fills mediator amount
  | tallied tally => exact Tallied.fills_source fills tally
  | tracked lineage enforcing =>
      exact Tracked.fills_source fills lineage enforcing
  | locked lock => exact Locked.fills_source fills lock
  | relay => exact fills
  | guaranteed mediator amount =>
      exact Guaranteed.fills_source fills mediator amount
  | probe number screen => exact Probe.fills_source fills number screen

theorem Allocator.fills_source (allocator : Allocator) :
    allocator.source.Fills (freshUnder allocator.layers) := by
  obtain ⟨layers, heap⟩ := allocator
  induction layers with
  | nil =>
      rw [freshUnder_nil]
      exact (Heap.fills_source heap).noting .heap
  | cons layer layers ih =>
      by_cases clears : layer = .clearing
      · subst clears
        rw [freshUnder_clearing]
        exact (Clearing.fills_source ih).noting (.layer .clearing)
      · rw [freshUnder_cons clears]
        exact (Layer.fills_over clears ih).noting (.layer layer)

end BufferBudget
