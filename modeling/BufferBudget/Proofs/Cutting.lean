import BufferBudget.Proofs.Range
import BufferBudget.Proofs.Shedding

/-!
# Buffers can always be cut

A layer that is asked to cut a buffer asks nobody for anything.  It passes the
request on, and gives back what the buffer has lost once it is lost.  So no
budget has a say in it, however exhausted it is: a bypass reads what is left
without needing it, a guarantee is not consulted, and a tracked layer succeeds
at its first attempt.

`Shrinks` is the contract of a source about this: a request for no more than the
size of a buffer is met with exactly what it asks for, whatever it accepts, and
every account is given back what it was charged.  What can stop a cut is the
arithmetic of trackers alone.
-/

namespace BufferBudget

/--
A buffer has been cut to a size, and each layer of a list has given back what
the buffer has lost.
-/
structure Cut
    (layers : List Layer)
    (size : Nat)
    (bench : Workbench)
    (met : Bool)
    (later : Workbench) : Prop where
  met : met = true
  contents : later.contents = bench.contents.truncate size
  world : bench.world.HandsBack
    (Standing.shed (bench.contents.size - size) layers) later.world

/--
A call has stopped because the trackers that some layers charge cannot bear it.
-/
def Unborne
    (world : World)
    (layers : List Layer)
    (bytes : Nat)
    (fault : Fault) : Prop :=
  fault.OfAmount ∧ (world.Measured → ¬world.Bears layers bytes)

/--
The contract of a source about cuts: what is left can be read, and a buffer be
cut, as far as the trackers bear it that some layers charge.
-/
structure Source.Shrinks (source : Source) (layers : List Layer) : Prop where
  available : ∀ {world fault} bytes, source.available world = .error fault →
    Unborne world layers bytes fault
  resize : ∀ {bench requested} minimal, requested ≤ bench.contents.size →
    Ends (source.resize requested minimal) bench (Cut layers requested bench)
      (fun fault _ =>
        Unborne bench.world layers (bench.contents.size - requested) fault)

theorem Unborne.above
    {world : World}
    {layers : List Layer}
    {bytes : Nat}
    {fault : Fault}
    (unborne : Unborne world layers bytes fault)
    (layer : Layer) :
    Unborne world (layer :: layers) bytes fault :=
  ⟨unborne.1, fun measured bears => unborne.2 measured (bears.tail measured)⟩

namespace Cut

variable {layers : List Layer} {size : Nat} {bench later : Workbench}

theorem size_eq
    {met : Bool}
    (cut : Cut layers size bench met later)
    (smaller : size ≤ bench.contents.size) :
    later.contents.size = size := by
  rw [cut.contents, Contents.size_truncate _ smaller]

theorem not_refused (cut : Cut layers size bench false later) : False :=
  Bool.false_ne_true cut.met

theorem note
    {met : Bool}
    {event : Event}
    (cut : Cut layers size bench met later)
    (undemanding : event.Undemanding) :
    Cut layers size bench met { later with world := later.world.note event } :=
  ⟨cut.met, cut.contents, cut.world.note undemanding⟩

/-- A layer above gives back what it was charged, after the layers below. -/
theorem above
    {met : Bool}
    {layer : Layer}
    {last : World}
    (cut : Cut layers size bench met later)
    (gives :
      later.world.HandsBack (layer.shed (bench.contents.size - size)) last) :
    Cut (layer :: layers) size bench met { later with world := last } :=
  ⟨cut.met, cut.contents, cut.world.trans gives⟩

end Cut

theorem Source.Shrinks.noting
    {source : Source}
    {layers : List Layer}
    (shrinks : source.Shrinks layers)
    (site : Site) :
    (source.noting site).Shrinks layers where
  available := shrinks.available
  resize := by
    intro bench requested minimal smaller
    apply noting_resize_rule
    exact (shrinks.resize minimal smaller).mono
      (fun _ _ cut => cut.note trivial) (fun _ _ unborne => unborne)

/-- The heap cuts a buffer whatever it serves. -/
theorem Heap.cut_resize
    (heap : Heap)
    {bench : Workbench}
    {requested : Nat}
    {onFault : Fault → Workbench → Prop}
    (smaller : requested ≤ bench.contents.size) :
    Ends (heap.resize requested) bench (Cut [] requested bench) onFault := by
  refine resize_rule (fun larger => absurd smaller (Nat.not_le.mpr larger))
    (fun larger => absurd smaller (Nat.not_le.mpr larger)) (fun _ => ?cut)
    (fun same => ?kept)
  case cut => exact ⟨rfl, rfl, .refl _⟩
  case kept =>
    refine ⟨rfl, ?_, .refl _⟩
    rw [same, Contents.truncate_size]

theorem Heap.shrinks_source (heap : Heap) : heap.source.Shrinks [] where
  available := fun _ failed => nomatch failed
  resize := fun _ smaller => heap.cut_resize smaller

namespace Mediated

variable
    {below : Source}
    {layers : List Layer}
    {mediator requested : Nat}
    {bench : Workbench}

/--
A mediated layer gives back what a buffer has lost that has been cut below.
-/
theorem cut_resize_of
    {minimal : Nat}
    {onFault : Fault → Workbench → Prop}
    (called : Ends (below.resize requested minimal) bench
      (Cut layers requested bench) onFault)
    (smaller : requested ≤ bench.contents.size)
    (mediator : Nat) :
    Ends (resize mediator below requested minimal) bench
      (Cut (.mediated mediator :: layers) requested bench) onFault := by
  refine resize_rule (fun _ => ?_)
    (fun larger => absurd smaller (Nat.not_le.mpr larger))
  refine shrink_rule called (fun _ cut => cut.not_refused.elim) ?grown ?cut
  case grown =>
    intro later cut larger
    exact absurd smaller (Nat.not_le.mpr (cut.size_eq smaller ▸ larger))
  case cut =>
    intro later cut _
    rw [cut.size_eq smaller]
    exact (Mediation.handsBack_free mediator _ later.world).sure
      (fun _ _ gives => cut.above gives)

/-- A mediated layer lets a buffer shrink where the source below does. -/
theorem cut_resize
    (shrinks : below.Shrinks layers)
    (mediator minimal : Nat)
    (smaller : requested ≤ bench.contents.size) :
    Ends (resize mediator below requested minimal) bench
      (Cut (.mediated mediator :: layers) requested bench)
      (fun fault _ => Unborne bench.world (.mediated mediator :: layers)
        (bench.contents.size - requested) fault) :=
  cut_resize_of ((shrinks.resize minimal smaller).mono (fun _ _ cut => cut)
    (fun _ _ unborne => unborne.above (.mediated mediator))) smaller mediator

theorem unborne_available
    (shrinks : below.Shrinks layers)
    {world : World}
    {fault : Fault}
    (bytes : Nat)
    (failed : available mediator below world = .error fault) :
    Unborne world layers bytes fault := by
  rw [available] at failed
  cases left : below.available world with
  | ok rest =>
      rw [left] at failed
      cases failed
  | error stop =>
      rw [left] at failed
      obtain rfl : stop = fault := Except.error.inj failed
      exact shrinks.available bytes left

theorem shrinks_source (shrinks : below.Shrinks layers) (mediator : Nat) :
    (source mediator below).Shrinks (.mediated mediator :: layers) where
  available :=
    fun bytes failed => (unborne_available shrinks bytes failed).above _
  resize := fun minimal => cut_resize shrinks mediator minimal

end Mediated

theorem Clearing.shrinks_source
    {below : Source}
    {layers : List Layer}
    (shrinks : below.Shrinks layers) :
    (source below).Shrinks (.clearing :: layers) where
  available := fun bytes failed => (shrinks.available bytes failed).above _
  resize := by
    intro bench requested minimal smaller
    have called := (shrinks.resize minimal smaller).mono (fun _ _ cut => cut)
      (fun _ _ unborne => unborne.above .clearing)
    refine resize_rule called
      (fun _ _ cut _ => ⟨cut.met, cut.contents, cut.world⟩) ?cleared
    case cleared =>
      intro later cut larger
      exact absurd smaller (Nat.not_le.mpr (cut.size_eq smaller ▸ larger))

namespace Bypass

variable {below : Source} {layers : List Layer} {mediator amount : Nat}

theorem unborne_available
    (shrinks : below.Shrinks layers)
    {world : World}
    {fault : Fault}
    (bytes : Nat)
    (failed : available mediator amount below world = .error fault) :
    Unborne world layers bytes fault := by
  rw [available] at failed
  cases left : Mediated.available mediator below world with
  | ok rest =>
      rw [left] at failed
      cases failed
  | error stop =>
      rw [left] at failed
      obtain rfl : stop = fault := Except.error.inj failed
      exact Mediated.unborne_available shrinks bytes left

/--
A bypass reads what is left, and cuts at its first attempt whatever that is.
-/
theorem cut_resize_of
    {requested minimal : Nat}
    {bench : Workbench}
    {onFault : Fault → Workbench → Prop}
    (stepwise : below.Stepwise)
    (stopped : ∀ fault,
      available mediator amount below bench.world = .error fault → onFault fault
      { bench with
          world := bench.world.noteAll (readLocks mediator below bench.world) })
    (first : ∀ raised, Ends (Mediated.resize mediator below requested raised)
      { bench with
          world := bench.world.noteAll (readLocks mediator below bench.world) }
      (Cut (.mediated mediator :: layers) requested
        { bench with world := bench.world.noteAll (readLocks mediator below
          bench.world) }) onFault) :
    Ends (resize mediator amount below requested minimal) bench
      (Cut (.bypass mediator amount :: layers) requested bench) onFault := by
  refine resize_rule (fun _ later =>
    later = bench.world.noteAll (readLocks mediator below bench.world))
    (Cut (.bypass mediator amount :: layers) requested bench)
    (readAvailable_rule (fun _ _ => rfl) stopped) ?first
    (fun _ cut => cut) (fun _ cut => cut.not_refused.elim)
  case first =>
    rintro rest _ rfl
    have quiet := fun event member =>
      (quiet_readLocks stepwise mediator bench.world event member).undemanding
    refine (first (raiseMinimal requested minimal rest)).mono ?_
      (fun _ _ stops => stops)
    exact fun _ _ cut => ⟨cut.met, cut.contents, .after quiet cut.world⟩

theorem shrinks_source
    (stepwise : below.Stepwise)
    (shrinks : below.Shrinks layers)
    (mediator amount : Nat) :
    (source mediator amount below).Shrinks
      (.bypass mediator amount :: layers) where
  available :=
    fun bytes failed => (unborne_available shrinks bytes failed).above _
  resize := by
    intro bench requested minimal smaller
    refine cut_resize_of stepwise
      (fun _ failed => (unborne_available shrinks _ failed).above _)
      fun raised => ?_
    exact @Mediated.cut_resize below layers requested
      { bench with
          world := bench.world.noteAll (readLocks mediator below bench.world) }
      shrinks mediator raised smaller

end Bypass

/-- A guarantee is consulted about growth alone. -/
theorem Guaranteed.shrinks_source
    {below : Source}
    {layers : List Layer}
    (shrinks : below.Shrinks layers)
    (mediator amount : Nat) :
    (source mediator amount below).Shrinks
      (.guaranteed mediator amount :: layers) where
  available := fun _ failed => nomatch failed
  resize := by
    intro bench requested minimal smaller
    refine resize_rule (fun larger => absurd smaller (Nat.not_le.mpr larger))
      (fun _ => ?unread) (fun larger => absurd smaller (Nat.not_le.mpr larger))
    case unread =>
      exact (Mediated.cut_resize shrinks mediator requested smaller).mono
        (fun _ _ cut => ⟨cut.met, cut.contents, cut.world⟩)
        (fun _ _ unborne => unborne)

/-- A tally is told of a loss, and of nothing where there is none. -/
theorem Tallied.shrinks_source
    {below : Source}
    {layers : List Layer}
    (shrinks : below.Shrinks layers)
    (tally : Nat) :
    (source tally below).Shrinks (.tallied tally :: layers) where
  available := fun bytes failed => (shrinks.available bytes failed).above _
  resize := by
    intro bench requested minimal smaller
    have called := (shrinks.resize minimal smaller).mono (fun _ _ cut => cut)
      (fun _ _ unborne => unborne.above (.tallied tally))
    refine resize_rule called ?grown ?cut
      (fun _ cut => cut.not_refused.elim) ?kept
    case grown =>
      intro met later cut larger
      exact absurd smaller (Nat.not_le.mpr (cut.size_eq smaller ▸ larger))
    case cut =>
      intro met later cut less
      rw [cut.size_eq smaller] at less ⊢
      refine cut.above ⟨?_, [], rfl, nofun⟩
      rw [Layer.shed, if_neg (Nat.sub_ne_zero_of_lt less)]
      exact World.standing_freed _ tally _
    case kept =>
      intro met later cut same _
      refine cut.above ((World.HandsBack.refl later.world).congr ?_)
      rw [Layer.shed,
        if_pos (by rw [← same, cut.size_eq smaller, Nat.sub_self])]
      rfl

namespace Tracked

variable
    {below : Source}
    {layers : List Layer}
    {lineage : Lineage}
    {enforcing : Bool}

/--
What a tracked layer takes back is borne, if it is borne with what the
layers below take.
-/
theorem not_bears
    (genuine : ∀ layer ∈ layers, layer.Genuine)
    {world middle : World}
    {bytes : Nat}
    (handsBack : world.HandsBack (Standing.shed bytes layers) middle)
    {tracker : Nat}
    (member : tracker ∈ lineage.members)
    (outside : ¬Amount.InRange
      (middle.standing.consumption tracker - Amount.ofSize bytes)) :
    ¬world.Bears (.tracked lineage enforcing :: layers) bytes := by
  intro bears
  have charged :
      (Layer.tracked lineage enforcing).chargesTracker tracker = true :=
    List.contains_iff_mem.mpr member
  have counted : (Layer.tracked lineage enforcing :: layers).countP
        (·.chargesTracker tracker) =
      layers.countP (·.chargesTracker tracker) + 1 :=
    List.countP_cons_of_pos charged
  have inside := (bears tracker (counted ▸ Nat.succ_pos _)).1
  rw [counted, Int.natCast_add, Int.natCast_one, Int.mul_add, Int.mul_one,
    ← Int.sub_sub] at inside
  rw [handsBack.standing, Standing.consumption_shed genuine] at outside
  exact outside inside

theorem unborne_available
    {world : World}
    {fault : Fault}
    (bytes : Nat)
    (failed : available lineage enforcing world = .error fault) :
    Unborne world (.tracked lineage enforcing :: layers) bytes fault := by
  refine ⟨ofAmount_available failed, fun _ bears => ?_⟩
  rw [available] at failed
  split at failed
  · cases left : Charging.spare world lineage with
    | ok spare =>
        rw [left] at failed
        cases failed
    | error stop =>
        obtain ⟨tracker, member, illegible⟩ := Charging.headroom_of_spareOf left
        obtain ⟨-, limit, limited, outside⟩ :=
          Charging.illegible_of_headroom illegible
        have charged : 0 < (Layer.tracked lineage enforcing :: layers).countP
            (·.chargesTracker tracker) :=
          List.countP_pos_iff.mpr ⟨_, List.mem_cons_self,
            List.contains_iff_mem.mpr member⟩
        exact outside ((bears tracker charged).2 limit limited)
  · cases failed

theorem head_targets (requested minimal : Nat) :
    ∃ rest, targets requested minimal = requested :: rest := by
  rw [targets]
  split
  · exact ⟨[], rfl⟩
  · exact ⟨[minimal], rfl⟩

theorem shrinks_source
    (genuine : ∀ layer ∈ layers, layer.Genuine)
    (distinct : lineage.members.Nodup)
    (shrinks : below.Shrinks layers)
    (enforcing : Bool) :
    (source lineage enforcing below).Shrinks
      (.tracked lineage enforcing :: layers) where
  available := unborne_available
  resize := by
    intro bench requested minimal smaller
    refine (ends_bind Resizing.size _).mpr ?_
    obtain ⟨rest, first⟩ := head_targets requested minimal
    show Ends (resizeFirst _ _ _ _ (targets requested minimal)) bench _ _
    rw [first]
    refine resizeFirst_rule
      (Cut (.tracked lineage enforcing :: layers) requested bench)
      (Ends.ite (fun _ => ?shrunk) (fun larger => absurd smaller larger))
      (fun _ cut => cut) (fun _ cut => cut.not_refused.elim)
    case shrunk =>
      have called :=
        (shrinks.resize requested smaller).mono (fun _ _ cut => cut)
          (fun _ _ unborne => unborne.above (.tracked lineage enforcing))
      refine shrinkTo_rule called
        (fun _ cut => cut.not_refused.elim) ?grown ?cut
      case grown =>
        intro later cut larger
        exact absurd smaller (Nat.not_le.mpr (cut.size_eq smaller ▸ larger))
      case cut =>
        intro later cut _
        rw [cut.size_eq smaller]
        refine (handsBack_discharge distinct _ later.world).mono
          (fun _ _ gives => cut.above gives) ?_
        rintro fault last ⟨ofAmount, tracker, member, outside⟩
        exact ⟨ofAmount, fun _ => not_bears genuine cut.world member outside⟩

end Tracked

theorem Locked.shrinks_source
    {below : Source}
    {layers : List Layer}
    (shrinks : below.Shrinks layers)
    (lock : Nat) :
    (source lock below).Shrinks (.locked lock :: layers) where
  available := fun bytes failed => (shrinks.available bytes failed).above _
  resize := by
    intro bench requested minimal smaller
    refine (ends_holdingResizing _ _).mpr ?_
    have quiet : ∀ event ∈ [Event.acquired (.layer lock)],
        event.Undemanding := by
      intro event member
      rw [List.mem_singleton.mp member]
      exact trivial
    refine (@Source.Shrinks.resize _ _ shrinks
      { bench with world := bench.world.note (.acquired (.layer lock)) } _
      minimal smaller).mono ?_ (fun _ _ unborne => unborne.above _)
    exact fun _ _ cut =>
      ⟨cut.met, cut.contents, .after quiet (cut.world.note trivial)⟩

/-- A genuine layer lets buffers be cut where the source below does. -/
theorem Layer.shrinks_over
    {layer : Layer}
    {layers : List Layer}
    {below : Source}
    (genuine : layer.Genuine)
    (others : ∀ other ∈ layers, other.Genuine)
    (stepwise : below.Stepwise)
    (shrinks : below.Shrinks layers) :
    (layer.over below).Shrinks (layer :: layers) := by
  cases layer with
  | mediated mediator => exact Mediated.shrinks_source shrinks mediator
  | clearing => exact Clearing.shrinks_source shrinks
  | bypass mediator amount =>
      exact Bypass.shrinks_source stepwise shrinks mediator amount
  | tallied tally => exact Tallied.shrinks_source shrinks tally
  | tracked lineage enforcing =>
      exact Tracked.shrinks_source others genuine shrinks enforcing
  | locked lock => exact Locked.shrinks_source shrinks lock
  | relay =>
      refine ⟨fun bytes failed => (shrinks.available bytes failed).above _,
        fun minimal smaller => ?_⟩
      exact (shrinks.resize minimal smaller).mono
        (fun _ _ cut => ⟨cut.met, cut.contents, cut.world⟩)
        (fun _ _ unborne => unborne.above _)
  | guaranteed mediator amount =>
      exact Guaranteed.shrinks_source shrinks mediator amount
  | probe number screen => exact genuine.elim

/-- Every genuine allocator lets buffers be cut. -/
theorem Allocator.shrinks_source
    {allocator : Allocator}
    (genuine : allocator.Genuine) :
    allocator.source.Shrinks allocator.layers := by
  obtain ⟨layers, heap⟩ := allocator
  induction layers with
  | nil => exact (Heap.shrinks_source heap).noting .heap
  | cons layer layers ih =>
      have others :=
        fun other member => genuine other (List.mem_cons_of_mem layer member)
      exact (Layer.shrinks_over (genuine layer List.mem_cons_self) others
        (Allocator.stepwise_source { layers, heap }) (ih others)).noting
        (.layer layer)

end BufferBudget
