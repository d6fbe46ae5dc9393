import BufferBudget.Proofs.Bytes
import BufferBudget.Proofs.Cutting
import BufferBudget.Proofs.HardStack
import BufferBudget.Proofs.Likeness

/-!
# All calls on one limit

A source that acts as one limit answers requests by what it has left, as
`Source.Rations` says.  The rest of its calls are no less determined: a buffer
is always cut, what is given back is taken off every quota, and the bytes follow
from the sizes.  Together this is a source as a function of what it has left and
of nothing else about the quotas below it (`Source.OneLimit`).

So two such sources over one heap cannot be told apart as long as they have the
same left, however many quotas there are on either side.  `Likeness.Couples`
says what two worlds must have in common for it to stay so.
-/

namespace BufferBudget

namespace Heap

/-- The size of a new buffer from a limit over a heap, if the request is met. -/
def allots (heap : Heap) (left requested minimal : Nat) : Option Nat :=
  (ration left requested minimal).filter heap.serves

/--
The new size of a buffer from a limit over a heap, if the request to
resize it is met.
-/
def refits (heap : Heap) (left size requested minimal : Nat) : Option Nat :=
  if requested < size then some requested
  else ((ration left (requested - size) (minimal - size)).filter
    (heap.enlarges size)).map (size + ·)

variable (heap : Heap) (left minimal : Nat) {size requested : Nat}

theorem refits_of_lt (smaller : requested < size) :
    heap.refits left size requested minimal = some requested :=
  if_pos smaller

theorem refits_of_le (larger : size ≤ requested) :
    heap.refits left size requested minimal =
      ((ration left (requested - size) (minimal - size)).filter
        (heap.enlarges size)).map (size + ·) :=
  if_neg (Nat.not_lt.mpr larger)

theorem getD_allots_le (requested : Nat) :
    (heap.allots left requested minimal).getD 0 ≤ left :=
  Nat.le_trans (getD_filter_le _ _) (getD_ration_le_left left requested minimal)

theorem getD_refits_le (size requested : Nat) :
    (heap.refits left size requested minimal).getD size ≤ size + left := by
  by_cases smaller : requested < size
  · rw [refits_of_lt heap left minimal smaller, Option.getD_some]
    omega
  · rw [refits_of_le heap left minimal (Nat.not_lt.mp smaller), getD_map_add]
    exact Nat.add_le_add_left
      (Nat.le_trans (getD_filter_le _ _) (getD_ration_le_left _ _ _)) size

end Heap

namespace World

/--
From the usage of each quota has been taken what has been lost of it, and
nothing else about a quota is different.
-/
def Falls (lost : Nat → Nat) (world later : World) : Prop :=
  ∀ key quota, world.mediators.entry key = .ofQuota quota →
    later.mediators.entry key = .ofQuota (quota.free (lost key))

/--
Each quota of a list is charged for a buffer with its new size in place
of its old one.
-/
def Moves (keys : List Nat) (old new : Nat) (world later : World) : Prop :=
  ∀ key ∈ keys, ∀ quota, world.mediators.entry key = .ofQuota quota →
    later.mediators.entry key =
      .ofQuota { quota with usage := quota.usage + new - old }

variable
    {world middle later : World}
    {lost more : Nat → Nat}
    {keys : List Nat}
    {old new : Nat}

theorem Falls.trans
    (first : Falls lost world middle)
    (second : Falls more middle later) :
    Falls (fun key => lost key + more key) world later := by
  intro key quota held
  rw [second key _ (first key quota held), Quota.free, Quota.free,
    Quota.free, Nat.sub_sub]

theorem falls_of_same (same : later.mediators = world.mediators) :
    Falls (fun _ => 0) world later := by
  intro key quota held
  rw [same]
  exact held

theorem moves_of_same
    (keys : List Nat)
    (size : Nat)
    (same : later.mediators = world.mediators) :
    Moves keys size size world later := by
  intro key _ quota held
  rw [same, held, Nat.add_sub_cancel]

theorem Rises.moves
    {gained : Nat}
    (rises : Rises (sharing keys gained) world later)
    (size : Nat) :
    Moves keys size (size + gained) world later := by
  intro key member quota held
  rw [rises key quota held, sharing_of_mem member, Nat.add_left_comm,
    Nat.add_sub_cancel_left]

theorem Falls.moves
    (falls : Falls lost world later)
    (smaller : new ≤ old)
    (once : ∀ key ∈ keys, lost key = old - new) :
    Moves keys old new world later := by
  intro key member quota held
  rw [falls key quota held, once key member, Quota.free]
  refine congrArg (fun usage => Mediator.ofQuota { quota with usage }) ?_
  omega

end World

theorem Mediation.falls_free (own amount : Nat) (world : World) :
    Ends (free own amount) world
      (fun _ later => world.Falls (World.sharing [own] amount) later)
      (fun _ _ => False) := by
  refine (ends_free own amount world).sure ?_
  rintro _ later ⟨before, after, -, -, rfl⟩ key quota held
  show (world.setMediator own
    ((world.mediators.entry own).free amount)).mediators.entry key = _
  rw [World.entry_mediators_setMediator]
  by_cases same : key = own
  · subst same
    rw [if_pos rfl, held, World.sharing_of_mem List.mem_cons_self]
    rfl
  · rw [if_neg same, held, World.sharing_singleton_of_ne same]
    rfl

/--
The contract of a source about what is given back: a buffer is cut, or taken
back as a whole, without fail, and each quota gets its part.
-/
structure Source.Repays (source : Source) (layers : List Layer) : Prop where
  cut : ∀ {bench requested} minimal, requested ≤ bench.contents.size →
    Ends (source.resize requested minimal) bench (Cut layers requested bench)
      (fun _ _ => False)
  free : ∀ size world, Ends (source.free size) world (fun _ later =>
    world.Falls (fun key => size * layers.countP (·.charges key)) later)
    (fun _ _ => False)

/-- The contract of a source that acts as one limit in some worlds. -/
structure Source.RationsIn
    (source : Source)
    (Holds : World → Prop)
    (heap : Heap)
    (keys : List Nat) : Prop where
  available : ∀ {world}, Holds world →
    source.available world = .ok (world.left keys)
  allocate : ∀ {world requested minimal}, Holds world → minimal ≤ requested →
    requested ≤ Size.limit → Ends (source.allocate requested minimal) world
      (Rationed keys (heap.allots (world.left keys) requested minimal) world)
      (fun _ _ => False)
  resize : ∀ {bench requested minimal}, Holds bench.world →
    minimal ≤ requested →
    bench.contents.size ≤ requested → requested ≤ Size.limit →
    Ends (source.resize requested minimal) bench (Enlarged keys
      ((ration (bench.world.left keys) (requested - bench.contents.size)
        (minimal - bench.contents.size)).filter
        (heap.enlarges bench.contents.size)) bench) (fun _ _ => False)

/--
A new buffer has been made with a pattern in it, or none, and each quota of a
list is charged with its size.
-/
def Allotted
    (byte : Nat → UInt8)
    (keys : List Nat)
    (given : Option Nat)
    (world : World)
    (result : Option Contents)
    (later : World) : Prop :=
  result = given.map (Contents.pattern byte) ∧
    world.Moves keys 0 (given.getD 0) later

/--
A buffer has been refitted to a size, or left alone, and each quota of a list is
charged with what it has now.
-/
def Resettled
    (byte : Nat → UInt8)
    (keys : List Nat)
    (given : Option Nat)
    (bench : Workbench)
    (met : Bool)
    (later : Workbench) : Prop :=
  met = given.isSome ∧
    later.contents =
        bench.contents.refit byte (given.getD bench.contents.size) ∧
    bench.world.Moves keys bench.contents.size
      (given.getD bench.contents.size) later.world

/--
A source is one limit in some worlds: what it answers and what its buffers hold
follow from what it has left, and each quota of a list is charged with the sizes
of its buffers.
-/
structure Source.OneLimit
    (source : Source)
    (Holds : World → Prop)
    (heap : Heap)
    (byte : Nat → UInt8)
    (keys : List Nat) : Prop where
  available : ∀ {world}, Holds world →
    source.available world = .ok (world.left keys)
  allocate : ∀ {world requested minimal}, Holds world → minimal ≤ requested →
    requested ≤ Size.limit →
      Ends (source.allocate requested minimal) world (Allotted byte keys
        (heap.allots (world.left keys) requested minimal) world)
      (fun _ _ => False)
  resize : ∀ {bench requested minimal}, Holds bench.world →
    minimal ≤ requested →
    requested ≤ Size.limit → Ends (source.resize requested minimal) bench
      (Resettled byte keys (heap.refits (bench.world.left keys)
        bench.contents.size requested minimal) bench) (fun _ _ => False)
  free : ∀ size world, Ends (source.free size) world
    (fun _ later => world.Moves keys size 0 later) (fun _ _ => False)

section Layers

variable {source below : Source} {layers : List Layer}

theorem Source.Repays.noting (repays : source.Repays layers) (site : Site) :
    (source.noting site).Repays layers where
  cut := by
    intro bench requested minimal smaller
    apply noting_resize_rule
    exact (repays.cut minimal smaller).sure (fun _ _ cut => cut.note trivial)
  free :=
    fun size world => repays.free size (world.note (.called site (.freed size)))

theorem Heap.repays_source (heap : Heap) : heap.source.Repays [] where
  cut := fun _ smaller => heap.cut_resize smaller
  free := fun _ _ => World.falls_of_same rfl

/-- A mediator gets its part before the source below takes the buffer back. -/
theorem Mediated.free_falls
    (repays : below.Repays layers)
    (own size : Nat)
    (world : World) :
    Ends (free own below size) world (fun _ later => world.Falls
      (fun key => size * (Layer.mediated own :: layers).countP (·.charges key))
      later) (fun _ _ => False) := by
  refine free_rule (Mediation.falls_free own size world) fun later paid => ?_
  refine (repays.free size later).sure (fun _ last falls => ?_)
  have both : World.sharing [own] size = fun key =>
      if own = key then size else 0 := by
    funext key
    simp only [World.sharing, List.mem_singleton, eq_comm]
  have charged : (fun key =>
      size * (Layer.mediated own :: layers).countP (·.charges key)) = fun key =>
      World.sharing [own] size key + size * layers.countP (·.charges key) := by
    funext key
    rw [both, List.countP_cons, Nat.mul_add, Nat.add_comm]
    by_cases same : own = key
    · simp [same, Layer.charges]
    · simp [same, Layer.charges]
  exact charged ▸ paid.trans falls

theorem Mediated.repays_source (repays : below.Repays layers) (own : Nat) :
    (Mediated.source own below).Repays (.mediated own :: layers) where
  cut := fun minimal smaller =>
    cut_resize_of (repays.cut minimal smaller) smaller own
  free := free_falls repays own

variable {Holds : World → Prop} {heap : Heap} {keys : List Nat}

theorem Source.Rations.rationsIn (rations : source.Rations heap keys) :
    source.RationsIn (·.Limits keys) heap keys where
  available := fun {world} _ => rations.available world
  allocate := rations.allocate
  resize := rations.resize

/--
A source that rations, fills with a pattern, and gives back to each quota of its
list just once is one limit.
-/
theorem Source.RationsIn.oneLimit
    {byte : Nat → UInt8}
    (rations : source.RationsIn Holds heap keys)
    (fills : source.Fills byte)
    (repays : source.Repays layers)
    (once : ∀ key ∈ keys, layers.countP (·.charges key) = 1) :
    source.OneLimit Holds heap byte keys where
  available := rations.available
  allocate := by
    intro world requested minimal holds accepted size
    refine ((rations.allocate holds accepted size).and
      (fills.allocate requested minimal world)).mono
      ?_ fun _ _ impossible => impossible.1
    rintro result later ⟨⟨given, rises⟩, filled⟩
    rw [← given] at rises ⊢
    have moves := rises.moves 0
    rw [Nat.zero_add] at moves
    refine ⟨?_, moves⟩
    cases result with
    | none => rfl
    | some contents => exact congrArg some filled.eq
  resize := by
    intro bench requested minimal holds accepted size
    by_cases smaller : requested < bench.contents.size
    · rw [heap.refits_of_lt _ _ smaller]
      refine (repays.cut minimal (Nat.le_of_lt smaller)).sure ?_
      intro met later cut
      refine ⟨cut.met, ?_, ?_⟩
      · rw [Option.getD_some, cut.contents,
          Contents.refit_of_le _ _ (Nat.le_of_lt smaller)]
      · have falls : bench.world.Falls _ later.world := fun key quota held =>
          cut.world.entry held
        refine falls.moves (Nat.le_of_lt smaller) fun key member => ?_
        rw [once key member, Nat.mul_one, Option.getD_some]
    · have larger := Nat.not_lt.mp smaller
      rw [heap.refits_of_le _ _ larger]
      refine ((rations.resize holds accepted larger size).and
        (fills.resize requested minimal bench)).mono
        ?_ fun _ _ impossible => impossible.1
      rintro met later ⟨⟨isMet, becomes, rises⟩, refitted⟩
      unfold Resettled
      rw [getD_map_add, Option.isSome_map, ← becomes]
      refine ⟨isMet, ?_, becomes ▸ rises.moves _⟩
      cases met with
      | true => exact refitted.eq
      | false => rw [refitted.same, Contents.refit_size]
  free := by
    intro size world
    refine (repays.free size world).sure (fun _ later falls => ?_)
    refine falls.moves (Nat.zero_le size) fun key member => ?_
    rw [once key member, Nat.mul_one, Nat.sub_zero]

end Layers

/-- What is accepted is no more than what is asked for, and that is a size. -/
abbrev InOrder (requested minimal : Nat) : Prop :=
  minimal ≤ requested ∧ requested ≤ Size.limit

/--
In worlds that are alike two sources have the same left, and that stays so where
both charge their quotas for the same sizes.
-/
structure Likeness.Couples
    (likeness : Likeness)
    (Holds Stands : World → Prop)
    (keys others : List Nat) : Prop where
  holds : ∀ {left right : World}, likeness.Worlds left right → Holds left
  stands : ∀ {left right : World}, likeness.Worlds left right → Stands right
  same : ∀ {left right : World}, likeness.Worlds left right →
    left.left keys = right.left others
  moves : ∀ {left right later last : World} {old new : Nat},
    likeness.Worlds left right →
    new ≤ old + left.left keys → left.Moves keys old new later →
    right.Moves others old new last → likeness.Worlds later last

section Pairs

variable
    {likeness : Likeness}
    {left right : Source}
    {Holds Stands : World → Prop}
    {heap : Heap}
    {byte : Nat → UInt8}
    {keys others : List Nat}

/--
Two sources that are one limit each cannot be told apart while they have
the same left.
-/
theorem Source.OneLimit.alikeFor
    (one : left.OneLimit Holds heap byte keys)
    (other : right.OneLimit Stands heap byte others)
    (couples : likeness.Couples Holds Stands keys others) :
    Source.AlikeFor InOrder likeness left right where
  available := by
    intro first second begun
    rw [one.available (couples.holds begun),
      other.available (couples.stands begun), couples.same begun]
  readLocks := by
    intro first second later last _ still
    exact couples.moves still (Nat.le_add_right 0 _)
      (World.moves_of_same keys 0 rfl) (World.moves_of_same others 0 rfl)
  allocate := by
    rintro requested minimal ⟨accepted, size⟩ first second begun
    refine endedAlike_of_values
      (one.allocate (couples.holds begun) accepted size)
      (other.allocate (couples.stands begun) accepted size) ?_
    rintro _ later _ last ⟨rfl, came⟩ ⟨rfl, went⟩
    rw [← couples.same begun] at went ⊢
    refine ⟨?_, couples.moves begun ?_ came went⟩
    · cases heap.allots (first.left keys) requested minimal with
      | none => exact .none
      | some given => exact .some (.refl _)
    · rw [Nat.zero_add]
      exact heap.getD_allots_le _ minimal requested
  resize := by
    rintro requested minimal ⟨accepted, size⟩ first second begun
    refine endedAlike_of_values
      (one.resize (couples.holds begun.world) accepted size)
      (other.resize (couples.stands begun.world) accepted size) ?_
    rintro _ later _ last ⟨rfl, contents, came⟩ ⟨rfl, others, went⟩
    rw [← couples.same begun.world, ← begun.contents.size] at others went ⊢
    refine ⟨rfl, couples.moves begun.world
      (heap.getD_refits_le _ minimal _ requested) came went, ?_⟩
    rw [contents, others]
    refine begun.contents.map (·.refit byte _) ?_
    rw [Contents.size_refit, Contents.size_refit]
  free := by
    intro size first second begun
    refine endedAlike_of_values (one.free size first)
      (other.free size second) ?_
    intro _ later _ last came went
    exact ⟨rfl, couples.moves begun (Nat.zero_le _) came went⟩

end Pairs

end BufferBudget
