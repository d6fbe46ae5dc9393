import BufferBudget.Proofs.Counting

/-!
# Layers that charge trackers

Trackers and their supervision form a register, and every allocator keeps it,
provided that no layer forces a charge on a strict tracker and that the heap
serves no size that is above the greatest amount.  A buffer costs a tracker its
size, once for each layer that charges the tracker or a descendant of it.

A tracked layer charges before it asks the source below, by the amount that
stands for a size.  What is above the greatest amount is charged as that amount,
refused below, and taken back as that amount.
-/

namespace BufferBudget

namespace Amount

/-- What a tracker counts of a size. -/
def counted (size : Nat) : Nat :=
  (ofSize size).toNat

theorem ofSize_eq_counted (size : Nat) : ofSize size = counted size := by
  unfold counted ofSize greatest
  omega

theorem counted_of_le {size : Nat} (fits : (size : Int) ≤ greatest) :
    counted size = size := by
  unfold counted ofSize
  omega

/--
A size that is an amount and is no more than another is no more than what is
counted of the other.
-/
theorem le_counted
    {size bound : Nat}
    (fits : (size : Int) ≤ greatest)
    (less : size ≤ bound) :
    size ≤ counted bound := by
  unfold counted ofSize greatest at *
  omega

end Amount

/-- A heap serves no size above the greatest amount. -/
def Heap.Countable (heap : Heap) : Prop :=
  ∀ size, heap.serves size = true → (size : Int) ≤ Amount.greatest

/-- Memory of the heap costs trackers nothing. -/
theorem Heap.meters_source
    {heap : Heap}
    (countable : heap.Countable)
    (supervision : Supervision) :
    heap.source.Registers supervision.register (fun _ _ => 0) where
  available := fun _ failed => nomatch failed
  allocate := by
    intro rest world requested minimal charged _ _
    refine allocate_rule (fun _ => Register.paid_none charged)
      (fun serves => ⟨charged, ?_⟩)
    rintro _ ⟨⟩
    rw [Contents.size_fresh]
    exact countable requested serves
  resize := by
    intro rest bench requested minimal carries _ _
    refine resize_rule (fun _ _ => carries)
      (fun larger serves => ⟨carries.1, ?_⟩)
      (fun smaller => ⟨carries.1, ?_⟩) (fun _ => carries)
    · rw [Contents.size_extend _ (Nat.le_of_lt larger)]
      exact countable requested serves
    · rw [Contents.size_truncate _ (Nat.le_of_lt smaller)]
      exact Int.le_trans (Int.ofNat_le.mpr (Nat.le_of_lt smaller)) carries.2
  free := fun charged _ => charged

namespace Tracked

variable
    {supervision : Supervision}
    {below : Source}
    {lineage : Lineage}
    {enforcing : Bool}
    {cost : Nat → Nat → Nat}
    {rest : Nat → Nat}
    {world : World}

/--
What a buffer costs where a layer that charges a lineage lies over a source.
-/
def surcharge (lineage : Lineage) (cost : Nat → Nat → Nat) (size : Nat) :
    Nat → Nat :=
  charging (cost size) size lineage.members

/-- A layer that does not enforce the limits charges no strict tracker. -/
def Spares (supervision : Supervision) (lineage : Lineage) (enforcing : Bool) :
    Prop :=
  enforcing = false → ∀ tracker ∈ lineage.members, ¬supervision.strict tracker

theorem counts_charge
    {amounts : Nat → Nat}
    (counts : Counts supervision amounts world)
    (spares : Spares supervision lineage enforcing)
    (size : Nat) :
    Ends (charge lineage enforcing size) world
      (fun admitted later => Counts supervision
        (if admitted then
          charging amounts (Amount.counted size) lineage.members
        else amounts) later)
      (fun _ later => supervision.register.Past amounts later) := by
  have tried :=
    @Charging.counts_tryConsume _ _ _ (Amount.counted size) counts lineage
  rw [← Amount.ofSize_eq_counted] at tried
  refine charge_rule tried (fun _ charged => charged)
    (fun _ uncharged _ => uncharged) ?forced
  case forced =>
    intro later uncharged lenient
    have forced := @Charging.counts_consume _ _ _
      (Amount.counted size) uncharged lineage (spares lenient)
    rwa [← Amount.ofSize_eq_counted] at forced

theorem counts_discharge
    {amounts : Nat → Nat}
    {size : Nat}
    (counts : Counts supervision
      (charging amounts (Amount.counted size) lineage.members) world) :
    Ends (discharge lineage size) world
      (fun _ later => Counts supervision amounts later)
      (fun _ later => supervision.register.Past amounts later) := by
  refine Ends.ite (fun _ => ?_) (fun empty => ?_)
  · rw [Amount.ofSize_eq_counted]
    exact Charging.counts_release counts
  · obtain rfl : size = 0 := Nat.eq_zero_of_not_pos empty
    exact charging_zero amounts lineage.members ▸ counts

theorem meters_allocateFirst
    (spares : Spares supervision lineage enforcing)
    (ranged : below.Ranged)
    (registers : below.Registers supervision.register cost)
    (counts : Counts supervision rest world)
    {targets : List Nat}
    (sizes : ∀ target ∈ targets, target ≤ Size.limit) :
    Ends (allocateFirst lineage enforcing below targets) world
      (supervision.register.Paid (surcharge lineage cost) rest)
      (fun _ later => supervision.register.Past rest later) := by
  induction targets generalizing world with
  | nil => exact Register.paid_none counts
  | cons target others ih =>
      have later :=
        fun other member => sizes other (List.mem_cons_of_mem target member)
      have inside := sizes target List.mem_cons_self
      let charged := charging rest (Amount.counted target) lineage.members
      refine allocateFirst_rule (fun result later =>
        supervision.register.Paid cost charged result later ∧
          Served target target result later)
        (Counts supervision rest)
        (counts_charge counts spares target)
        ?called ?met ?undone ?again
      case called =>
        intro last counting
        refine ((registers.allocate counting (Nat.le_refl target) inside).and
          (ranged.allocate counting.orderly (Nat.le_refl target) inside)).mono
          (fun _ _ served => served)
          (fun _ _ stopped => stopped.1.weaken fun key => ?_)
        exact Nat.le_add_right _ _
      case met =>
        rintro contents last ⟨⟨counting, fits⟩, served⟩
        have fitting := fits contents rfl
        have same : contents.size = target :=
          Nat.le_antisymm served.within.2 served.within.1
        refine ⟨counting.congr fun key => ?_, fits⟩
        have exactly : Amount.counted target = contents.size :=
          same ▸ Amount.counted_of_le fitting
        simp only [charged, charging, exactly, priceOf, surcharge]
        omega
      case undone =>
        rintro last ⟨paid, -⟩
        exact counts_discharge paid.at_none
      case again =>
        rintro _ (counting | counting)
        · exact ih counting later
        · exact ih counting later

/-- What a layer charges for two sizes is what it charges for their sum. -/
theorem surcharge_add (rest : Nat → Nat) (size more : Nat) (tracker : Nat) :
    rest tracker + surcharge lineage cost size tracker +
        more * lineage.members.count tracker = rest tracker +
        (size + more) * lineage.members.count tracker + cost size tracker := by
  simp only [surcharge, charging, Nat.add_mul]
  omega

variable {bench : Workbench} {target : Nat}

theorem meters_shrinkTo
    (ranged : below.Ranged)
    (registers : below.Registers supervision.register cost)
    (carries : supervision.register.Carries (surcharge lineage cost) rest bench)
    (size : target ≤ Size.limit)
    (smaller : target ≤ bench.contents.size) :
    Ends (shrinkTo lineage below bench.contents.size target) bench
      (fun _ => supervision.register.Carries (surcharge lineage cost) rest)
      (fun _ => supervision.register.Drops (surcharge lineage cost) rest) := by
  have begins : supervision.register.Carries cost
      (charging rest bench.contents.size lineage.members) bench := by
    refine ⟨carries.1.congr fun key => ?_, carries.2⟩
    simp only [surcharge, charging]
    omega
  refine shrinkTo_rule (((registers.resize begins (Nat.le_refl target) size).and
    (ranged.resize begins.orderly (Nat.le_refl target) size)).mono
      (fun _ _ resized => resized) ?stopped) ?refused ?grown ?cut
  case stopped =>
    rintro fault later ⟨⟨stopped, fits⟩, -, bound⟩
    refine ⟨stopped.weaken fun key => ?_, fits⟩
    have less : later.contents.size ≤ bench.contents.size := by omega
    have shares := Nat.mul_le_mul_right (lineage.members.count key) less
    simp only [surcharge, charging]
    omega
  case refused =>
    rintro later ⟨carried, resized⟩
    refine ⟨carried.1.congr fun key => ?_, carried.2⟩
    rw [resized.same]
    simp only [surcharge, charging]
    omega
  case grown =>
    rintro later ⟨-, resized⟩ larger
    exact absurd (Nat.le_trans resized.within.2 smaller) (Nat.not_le.mpr larger)
  case cut =>
    rintro later ⟨carried, -⟩ less
    have fitting : ((bench.contents.size - later.contents.size : Nat) : Int) ≤
        Amount.greatest :=
      Int.le_trans (Int.ofNat_le.mpr (Nat.sub_le _ _)) carries.2
    have owed : Counts supervision (charging
        (fun key => rest key + surcharge lineage cost later.contents.size key)
        (Amount.counted (bench.contents.size - later.contents.size))
        lineage.members) later.world := by
      refine carried.1.congr fun key => ?_
      have parts := @surcharge_add lineage cost rest later.contents.size
        (bench.contents.size - later.contents.size) key
      rw [Nat.add_sub_cancel' less] at parts
      rw [Amount.counted_of_le fitting]
      exact parts.symm
    exact (counts_discharge owed).mono
      (fun _ _ counting => ⟨counting, carried.2⟩)
      (fun _ _ stopped => ⟨stopped, carried.2⟩)

theorem meters_growTo
    (spares : Spares supervision lineage enforcing)
    (ranged : below.Ranged)
    (registers : below.Registers supervision.register cost)
    (carries : supervision.register.Carries (surcharge lineage cost) rest bench)
    (size : target ≤ Size.limit)
    (larger : bench.contents.size < target) :
    Ends (growTo lineage enforcing below bench.contents.size target) bench
      (fun _ => supervision.register.Carries (surcharge lineage cost) rest)
      (fun _ => supervision.register.Drops (surcharge lineage cost) rest) := by
  let growth := Amount.counted (target - bench.contents.size)
  -- what is charged besides the cost below, once the growth is
  let charged := charging rest (bench.contents.size + growth) lineage.members
  refine growTo_rule
    (fun admitted later => Counts supervision
      (if admitted then
        charging
          (fun key => rest key + surcharge lineage cost bench.contents.size key)
          growth lineage.members
      else fun key =>
        rest key + surcharge lineage cost bench.contents.size key)
      later)
    (fun met later => supervision.register.Carries cost charged later ∧
      Resized bench.contents target target met later)
    larger ?charged
      (fun _ uncharged => ⟨uncharged, carries.2⟩) ?called ?met ?refused
  case charged =>
    exact (counts_charge carries.1 spares _).mono (fun _ _ charging => charging)
      (fun _ _ stopped => ⟨stopped, carries.2⟩)
  case called =>
    intro later counting
    have begins : supervision.register.Carries cost charged
        { bench with world := later } :=
      ⟨counting.congr fun key =>
        surcharge_add rest bench.contents.size growth key, carries.2⟩
    refine ((registers.resize begins (Nat.le_refl target) size).and
      (ranged.resize begins.orderly (Nat.le_refl target) size)).mono
      (fun _ _ resized => resized) ?_
    rintro fault last ⟨⟨stopped, fits⟩, -, bound⟩
    refine ⟨stopped.weaken fun key => ?_, fits⟩
    have fitting : (last.contents.size : Int) ≤ Amount.greatest := fits
    have within : last.contents.size ≤ max bench.contents.size target := bound
    have less : last.contents.size ≤ bench.contents.size + growth := by
      have grown : last.contents.size - bench.contents.size ≤ growth :=
        Amount.le_counted (by omega) (by omega)
      omega
    have shares := Nat.mul_le_mul_right (lineage.members.count key) less
    simp only [surcharge, charged, charging]
    omega
  case met =>
    rintro later ⟨carried, resized⟩
    refine ⟨carried.1.congr fun key => ?_, carried.2⟩
    have same : later.contents.size = target :=
      Nat.le_antisymm resized.within.2 resized.within.1
    have fitting : (later.contents.size : Int) ≤ Amount.greatest := carried.2
    have exactly : bench.contents.size + growth = later.contents.size := by
      have whole : growth = target - bench.contents.size :=
        Amount.counted_of_le (by omega)
      omega
    simp only [charged, exactly, surcharge, charging]
    omega
  case refused =>
    rintro later ⟨carried, resized⟩
    have owed : Counts supervision (charging
        (fun key => rest key + surcharge lineage cost later.contents.size key)
        growth lineage.members) later.world := by
      refine carried.1.congr fun key => ?_
      rw [resized.same]
      exact (surcharge_add rest bench.contents.size growth key).symm
    exact (counts_discharge owed).mono
      (fun _ _ counting => ⟨counting, carried.2⟩)
      (fun _ _ stopped => ⟨stopped, carried.2⟩)

theorem meters_resizeFirst
    (spares : Spares supervision lineage enforcing)
    (ranged : below.Ranged)
    (registers : below.Registers supervision.register cost)
    (carries : supervision.register.Carries (surcharge lineage cost) rest bench)
    {targets : List Nat}
    (sizes : ∀ target ∈ targets, target ≤ Size.limit) :
    Ends (resizeFirst lineage enforcing below bench.contents.size targets) bench
      (fun _ => supervision.register.Carries (surcharge lineage cost) rest)
      (fun _ => supervision.register.Drops (surcharge lineage cost) rest) := by
  induction targets generalizing bench with
  | nil => exact carries
  | cons target others ih =>
      have later :=
        fun other member => sizes other (List.mem_cons_of_mem target member)
      have inside := sizes target List.mem_cons_self
      have tried : Ends
          (resizeTo lineage enforcing below bench.contents.size target) bench
          (fun _ => supervision.register.Carries (surcharge lineage cost) rest)
          (fun _ => supervision.register.Drops (surcharge lineage cost) rest) :=
        Ends.ite (meters_shrinkTo ranged registers carries inside)
          fun notSmaller => meters_growTo spares ranged registers carries inside
          (Nat.not_le.mp notSmaller)
      refine resizeFirst_rule _ ((tried.and
        (ranged_resizeTo ranged carries.orderly inside)).mono
        (fun _ _ resized => resized) (fun _ _ stopped => stopped.1)) ?met ?again
      case met => exact fun _ resized => resized.1
      case again =>
        rintro last ⟨carried, resized⟩
        rw [← resized.same]
        exact ih carried later

theorem excuse_available
    (counts : Counts supervision rest world)
    {fault : Fault}
    (failed : available lineage enforcing world = .error fault) :
    supervision.register.Excuse world := by
  intro reserved legible
  rw [available] at failed
  split at failed
  · cases left : Charging.spare world lineage with
    | ok spare =>
        rw [left] at failed
        cases failed
    | error stop =>
        exact Charging.spilled_of_spareOf counts reserved legible left
  · cases failed

theorem meters_source
    (spares : Spares supervision lineage enforcing)
    (ranged : below.Ranged)
    (registers : below.Registers supervision.register cost) :
    (source lineage enforcing below).Registers supervision.register
      (surcharge lineage cost) where
  available := fun counts failed => excuse_available counts failed
  allocate := by
    intro rest world requested minimal counts accepted size
    exact meters_allocateFirst spares ranged registers counts fun _ member =>
      Nat.le_trans (within_of_mem_targets accepted member).2 size
  resize := by
    intro rest bench requested minimal carries accepted size
    refine (ends_bind Resizing.size _).mpr ?_
    exact meters_resizeFirst spares ranged registers carries fun _ member =>
      Nat.le_trans (within_of_mem_targets accepted member).2 size
  free := by
    intro rest world size charged fits
    have begins : supervision.register.At (fun key =>
        charging rest size lineage.members key + cost size key) world := by
      refine charged.congr fun key => ?_
      simp only [surcharge, charging]
      omega
    refine free_rule
      ((registers.free begins fits).mono (fun _ _ freed => freed) ?stopped) ?_
    case stopped =>
      exact fun _ _ stopped => stopped.weaken fun key => Nat.le_add_right _ _
    intro later freed
    have owed : Counts supervision
        (charging rest (Amount.counted size) lineage.members) later :=
      (Amount.counted_of_le fits).symm ▸ freed
    exact counts_discharge owed

end Tracked

/--
A layer charges a lineage in which no tracker is named twice, and does not force
a charge on a strict tracker.
-/
def Layer.Obeys (layer : Layer) (supervision : Supervision) : Prop :=
  match layer with
  | .tracked lineage enforcing =>
      lineage.members.Nodup ∧ Tracked.Spares supervision lineage enforcing
  | _ => True

/--
All layers of an allocator obey a supervision, and its heap serves no size above
the greatest amount.
-/
structure Allocator.Obeys (allocator : Allocator) (supervision : Supervision) :
    Prop where
  heap : allocator.heap.Countable
  layers : ∀ layer ∈ allocator.layers, layer.Obeys supervision

/--
What a buffer of some size costs of a tracker: its size, once for each layer
that charges the tracker or a descendant of it.
-/
def Allocator.trackerCost (allocator : Allocator) (size tracker : Nat) : Nat :=
  size * allocator.countLayers (·.chargesTracker tracker)

theorem Layer.meters_over
    {layer : Layer}
    {supervision : Supervision}
    {below : Source}
    {cost : Nat → Nat → Nat}
    (obeys : layer.Obeys supervision)
    (stepwise : below.Stepwise)
    (ranged : below.Ranged)
    (registers : below.Registers supervision.register cost) :
    (layer.over below).Registers supervision.register (fun size tracker =>
      cost size tracker + if layer.chargesTracker tracker
        then size else 0) := by
  cases layer with
  | mediated own => exact Mediated.registers_source ranged registers own
  | clearing => exact Clearing.registers_source registers
  | bypass own amount =>
      exact Bypass.registers_source stepwise ranged registers own amount
  | tallied tally =>
      exact Tallied.registers_source registers (fun _ _ counts =>
        counts.of_sameTrackers rfl (List.suffix_refl _)
          (counts.orderly.of_same rfl rfl)) tally
  | tracked lineage enforcing =>
      have same : (fun size tracker => cost size tracker +
          if (Layer.tracked lineage enforcing).chargesTracker tracker then size
          else 0) = Tracked.surcharge lineage cost := by
        funext size tracker
        rw [Tracked.surcharge, charging, chargesTracker,
          List.Nodup.count obeys.1]
        by_cases member : tracker ∈ lineage.members
        · simp [member]
        · simp [member]
      exact same ▸ Tracked.meters_source obeys.2 ranged registers
  | locked lock => exact Locked.registers_source registers lock
  | relay => exact registers
  | guaranteed own amount =>
      exact Guaranteed.registers_source ranged registers own amount
  | probe number screen => exact Probe.registers_source registers number screen

/-- Every allocator that obeys a supervision keeps its register. -/
theorem Allocator.meters_source
    {allocator : Allocator}
    {supervision : Supervision}
    (obeys : allocator.Obeys supervision) :
    allocator.source.Registers supervision.register allocator.trackerCost := by
  rcases allocator with ⟨layers, heap⟩
  induction layers with
  | nil =>
      have nothing : ({ layers := [], heap } : Allocator).trackerCost =
          fun _ _ => 0 := by
        funext size tracker
        exact Nat.mul_zero size
      exact nothing ▸ (Heap.meters_source obeys.heap supervision).noting
        (Heap.ranged_source heap) .heap
  | cons layer layers ih =>
      have below : ({ layers, heap } : Allocator).Obeys supervision :=
        ⟨obeys.heap, fun other member =>
          obeys.layers other (List.mem_cons_of_mem layer member)⟩
      have more :
          ({ layers := layer :: layers, heap } : Allocator).trackerCost =
            fun size tracker =>
            ({ layers, heap } : Allocator).trackerCost size tracker +
            if layer.chargesTracker tracker then size else 0 := by
        funext size tracker
        simp only [trackerCost, countLayers, List.countP_cons, Nat.mul_add]
        split
        · rw [Nat.mul_one]
        · rw [Nat.mul_zero]
      have stepwise := stepwise_source { layers, heap }
      have ranged := ranged_source { layers, heap }
      have metered := Layer.meters_over (obeys.layers layer List.mem_cons_self)
        stepwise ranged (ih below)
      exact more ▸
        metered.noting (layer.ranged_over stepwise ranged) (.layer layer)

end BufferBudget
