import BufferBudget.Proofs.Register
import BufferBudget.Proofs.Standing

/-!
# What trackers have counted

A supervision says what is settled about the trackers of a world: their limits,
which of them only allocators charge, and which of these only enforcing layers
charge.  `Counts` says that each of the reserved trackers has counted an amount,
and that a strict one has not counted more than its limit, as long as no charge
has been spilled: put to a reserved tracker that could not count it and did not
turn it away.

The operations on trackers count what they are meant to count.  Where all
trackers are reserved they stop at no fault unless a charge has been spilled,
since a counter that holds what has been charged can give it back.
-/

namespace BufferBudget

/--
The limits of trackers, the trackers that only allocators charge, and those that
enforcing layers alone charge.
-/
structure Supervision where
  limits : Nat → Option Int
  reserved : Nat → Prop
  strict : Nat → Prop

namespace Supervision

/--
A strict tracker with a limit below the greatest amount turns away what
it cannot count.
-/
def TurnsAway (supervision : Supervision) (tracker : Nat) : Prop :=
  supervision.strict tracker ∧
    ∃ limit, supervision.limits tracker = some limit ∧ limit < Amount.greatest

/-- What is left below a limit is an amount, whatever has been counted. -/
def Legible (supervision : Supervision) : Prop :=
  ∀ tracker limit, supervision.limits tracker = some limit →
    -1 ≤ limit ∧ limit ≤ Amount.greatest

/--
An event by which a charge is put to a reserved tracker that cannot count it and
does not turn it away.
-/
def Spills (supervision : Supervision) : Event → Prop
  | .weighed tracker total =>
      supervision.reserved tracker ∧ Amount.greatest < total ∧
        ¬supervision.TurnsAway tracker
  | _ => False

/-- A charge has been spilled. -/
def Spilled (supervision : Supervision) (world : World) : Prop :=
  ∃ event ∈ world.trail, supervision.Spills event

variable {supervision : Supervision} {world later : World}

theorem Spills.overruns {event : Event} (spills : supervision.Spills event) :
    event.Overruns := by
  cases event with
  | weighed tracker total => exact spills.2.1
  | _ => exact spills.elim

theorem Spilled.mono
    (spilled : supervision.Spilled world)
    (trail : world.trail <:+ later.trail) :
    supervision.Spilled later := by
  rcases spilled with ⟨event, member, spills⟩
  exact ⟨event, trail.subset member, spills⟩

theorem spilled_note
    {event : Event}
    (spills : supervision.Spills event)
    (world : World) :
    supervision.Spilled (world.note event) :=
  ⟨event, List.mem_cons_self, spills⟩

end Supervision

/--
The trackers of a world have the limits of a supervision and counts that are
amounts, and each reserved one has counted an amount, within its limit if it is
strict, unless a charge has been spilled.
-/
structure Counts
    (supervision : Supervision)
    (amounts : Nat → Nat)
    (world : World) : Prop where
  orderly : world.Orderly
  measured : world.Measured
  limits : ∀ tracker, (world.trackers.entry tracker).limit =
    supervision.limits tracker
  counted : ¬supervision.Spilled world →
    ∀ tracker, supervision.reserved tracker →
    (world.trackers.entry tracker).consumption = amounts tracker
  capped : ¬supervision.Spilled world →
    ∀ tracker limit, supervision.reserved tracker →
    supervision.strict tracker →
      supervision.limits tracker = some limit → 0 ≤ limit →
      (amounts tracker : Int) ≤ limit

/--
The amounts after some bytes have been charged to each tracker of a list, and to
one that is named several times as often.
-/
def charging
    (amounts : Nat → Nat)
    (bytes : Nat)
    (trackers : List Nat)
    (tracker : Nat) : Nat :=
  amounts tracker + bytes * trackers.count tracker

section Charges

variable (amounts : Nat → Nat) (bytes : Nat)

@[simp]
theorem charging_nil : charging amounts bytes [] = amounts := by
  funext tracker
  simp [charging]

@[simp]
theorem charging_zero (trackers : List Nat) :
    charging amounts 0 trackers = amounts := by
  funext tracker
  simp [charging]

theorem charging_append (first second : List Nat) :
    charging amounts bytes (first ++ second) =
      charging (charging amounts bytes first) bytes second := by
  funext tracker
  simp only [charging, List.count_append, Nat.mul_add, Nat.add_assoc]

theorem charging_cons_self (tracker : Nat) (rest : List Nat) :
    charging amounts bytes (tracker :: rest) tracker =
      charging amounts bytes rest tracker + bytes := by
  simp only [charging, List.count_cons_self, Nat.mul_add,
    Nat.mul_one, Nat.add_assoc]

variable {amounts bytes} in
theorem charging_cons_of_ne
    {tracker other : Nat}
    (distinct : other ≠ tracker)
    (rest : List Nat) :
    charging amounts bytes (tracker :: rest) other =
      charging amounts bytes rest other := by
  simp only [charging, List.count_cons_of_ne (Ne.symm distinct)]

end Charges

namespace Counts

variable {supervision : Supervision} {amounts : Nat → Nat} {world : World}

/--
What trackers have counted is a matter of the trackers and the trail alone.
-/
theorem of_sameTrackers
    {later : World}
    (counts : Counts supervision amounts world)
    (same : later.trackers = world.trackers)
    (trail : world.trail <:+ later.trail)
    (orderly : later.Orderly) :
    Counts supervision amounts later where
  orderly := orderly
  measured := fun tracker => same ▸ counts.measured tracker
  limits := fun tracker => same ▸ counts.limits tracker
  counted := fun dry tracker =>
    same ▸ counts.counted (fun spilled => dry (spilled.mono trail)) tracker
  capped := fun dry => counts.capped fun spilled => dry (spilled.mono trail)

theorem congr
    {others : Nat → Nat}
    (counts : Counts supervision amounts world)
    (same : ∀ tracker, amounts tracker = others tracker) :
    Counts supervision others world :=
  funext same ▸ counts

theorem note
    (counts : Counts supervision amounts world)
    (event : Event)
    (aside : event.Aside) :
    Counts supervision amounts (world.note event) :=
  counts.of_sameTrackers rfl (List.suffix_cons event world.trail)
    (counts.orderly.note aside.proper)

theorem tell
    (counts : Counts supervision amounts world)
    (diagnostics : List Diagnostic) :
    Counts supervision amounts (world.noteAll (diagnostics.map .emitted)) := by
  refine World.noteAll_preserves
    (fun event member _ counting => counting.note event ?_) counts
  rcases List.mem_map.mp member with ⟨diagnostic, -, rfl⟩
  exact trivial

theorem reach
    (counts : Counts supervision amounts world)
    (tracker : Nat)
    (consumption : Int) :
    Counts supervision amounts (world.setTracker tracker
      ((world.trackers.entry tracker).reach consumption)) where
  orderly := counts.orderly.of_same rfl rfl
  measured := counts.measured.reach tracker consumption
  limits := by
    intro other
    rw [World.entry_trackers_setTracker]
    split
    · rename_i same
      exact same ▸ counts.limits tracker
    · exact counts.limits other
  counted := by
    intro dry other
    rw [World.entry_trackers_setTracker]
    split
    · rename_i same
      exact same ▸ counts.counted dry tracker
    · exact counts.counted dry other
  capped := counts.capped

/-- A tracker that stores an amount has counted it. -/
theorem store
    (counts : Counts supervision amounts world)
    {tracker : Nat}
    {moved : Nat → Nat}
    {consumption : Int}
    (here : ¬supervision.Spilled world → supervision.reserved tracker →
      Amount.InRange consumption ∧ consumption = moved tracker)
    (elsewhere : ∀ other, other ≠ tracker → moved other = amounts other)
    (within : ¬supervision.Spilled world →
      ∀ limit, supervision.reserved tracker → supervision.strict tracker →
      supervision.limits tracker = some limit → 0 ≤ limit →
      (moved tracker : Int) ≤ limit) :
    Counts supervision moved (world.setTracker tracker
      ((world.trackers.entry tracker).store consumption)) where
  orderly := counts.orderly.of_same rfl rfl
  measured := counts.measured.store tracker consumption
  limits := by
    intro other
    rw [World.entry_trackers_setTracker]
    split
    · rename_i same
      exact same ▸ counts.limits tracker
    · exact counts.limits other
  counted := by
    intro dry other reserved
    rw [World.entry_trackers_setTracker]
    split
    · rename_i same
      subst same
      rcases here dry reserved with ⟨inside, equal⟩
      rw [Tracker.consumption_store, Amount.wrap_of_inRange inside, equal]
    · rename_i distinct
      rw [elsewhere other distinct]
      exact counts.counted dry other reserved
  capped := by
    intro dry other limit reserved strict limited nonneg
    by_cases same : other = tracker
    · subst same
      exact within dry limit reserved strict limited nonneg
    · rw [elsewhere other same]
      exact counts.capped dry other limit reserved strict limited nonneg

/--
What is stored in a tracker does not matter where the tracker is not reserved or
a charge has been spilled.
-/
theorem store_anything
    (counts : Counts supervision amounts world)
    {tracker : Nat}
    (spilled : supervision.reserved tracker → supervision.Spilled world)
    (consumption : Int) :
    Counts supervision amounts (world.setTracker tracker
      ((world.trackers.entry tracker).store consumption)) :=
  counts.store (fun dry reserved => absurd (spilled reserved) dry)
    (fun _ _ => rfl) (fun dry _ reserved => absurd (spilled reserved) dry)

/--
Operations on trackers that are not reserved leave the reserved ones alone.
-/
theorem trackerSteps
    {trackers : List Nat}
    {later : World}
    (counts : Counts supervision amounts world)
    (free : ∀ tracker ∈ trackers, ¬supervision.reserved tracker)
    (steps : Relation.ReflTransGen (World.TrackerStep trackers) world later) :
    Counts supervision amounts later := by
  induction steps with
  | refl => exact counts
  | tail _ step ih =>
      cases step with
      | note event aside => exact ih.note event aside
      | store member consumption =>
          exact ih.store_anything
            (fun reserved => absurd reserved (free _ member)) consumption
      | reach member consumption => exact ih.reach _ consumption

end Counts

/--
What trackers have counted, as a register.  A call may stop where some tracker
is not reserved, a limit is not legible, or a charge has been spilled.
-/
def Supervision.register (supervision : Supervision) : Register where
  At := Counts supervision
  Excuse := fun world => (∀ tracker, supervision.reserved tracker) →
    supervision.Legible →
    supervision.Spilled world
  Fits := fun size => (size : Int) ≤ Amount.greatest
  orderly := Counts.orderly
  beside := fun counts beside orderly =>
    counts.of_sameTrackers beside.trackers beside.trail orderly
  excuse := fun excuse beside reserved legible =>
    (excuse reserved legible).mono beside.trail

/--
An operation that has stored in a tracker what it could not count may stop.
-/
theorem Counts.past_store
    {supervision : Supervision}
    {amounts least : Nat → Nat}
    {world : World}
    (counts : Counts supervision amounts world)
    {tracker : Nat}
    (spilled : supervision.reserved tracker → supervision.Spilled world)
    (consumption : Int)
    (fewer : ∀ key, least key ≤ amounts key) :
    supervision.register.Past least (world.setTracker tracker
      ((world.trackers.entry tracker).store consumption)) :=
  ⟨amounts, fewer, counts.store_anything spilled consumption,
    fun reserved _ => spilled (reserved tracker)⟩

theorem le_charging
    (amounts : Nat → Nat)
    (bytes : Nat)
    (trackers : List Nat)
    (tracker : Nat) :
    amounts tracker ≤ charging amounts bytes trackers tracker :=
  Nat.le_add_right _ _

namespace Charging

variable
    {supervision : Supervision}
    {amounts : Nat → Nat}
    {world : World}
    {bytes : Nat}
    {tracker : Nat}

theorem counts_report
    (counts : Counts supervision amounts world)
    (tracker : Nat)
    (consumption : Int)
    {stopped : Fault → World → Prop} :
    Ends (report tracker consumption) world
      (fun _ later => Counts supervision amounts later) stopped :=
  (ends_bind get _).mpr (counts.tell _)

theorem counts_reach
    (counts : Counts supervision amounts world)
    (tracker : Nat)
    (consumption : Int)
    {stopped : Fault → World → Prop} :
    Ends (reach tracker consumption) world
      (fun _ later => Counts supervision amounts later) stopped :=
  (ends_bind (modify _) _).mpr (@counts_report _ _ _
    (counts.reach tracker consumption) tracker consumption stopped)

/--
A tracker that is not strict, or has no limit, counts every
charge, or spills it.
-/
theorem counts_add
    (counts : Counts supervision amounts world)
    (lenient : supervision.strict tracker → supervision.limits tracker = none) :
    Ends (add bytes tracker) world (fun _ later =>
      Counts supervision (charging amounts bytes [tracker]) later)
      (fun _ later => supervision.register.Past amounts later) := by
  have least := (counts.measured tracker).1
  rw [add, ends_bind, ends_get, ends_bind, ends_note, ends_bind, ends_modify]
  let event : Event :=
    .weighed tracker ((world.trackers.entry tracker).consumption + bytes)
  have weighed : Counts supervision amounts (world.note event) :=
    counts.note event trivial
  refine Ends.ite (fun inside => ?_) (fun outside => ?_)
  · refine counts_reach (weighed.store ?_ (fun other => ?_) ?_) tracker _
    · intro dry reserved
      refine ⟨inside, ?_⟩
      have counted := weighed.counted dry tracker reserved
      rw [charging_cons_self, charging_nil, Int.natCast_add, ← counted]
      rfl
    · exact fun distinct => by rw [charging_cons_of_ne distinct, charging_nil]
    · intro _ limit _ strict limited
      cases (lenient strict).symm.trans limited
  · have above : Amount.greatest <
        (world.trackers.entry tracker).consumption + bytes := by
      by_contra fitting
      exact outside ⟨by omega, by omega⟩
    refine weighed.past_store (fun reserved => ?_) _ fun key =>
      Nat.le_refl (amounts key)
    have spills : supervision.Spills event := by
      refine ⟨reserved, above, ?_⟩
      rintro ⟨strict, limit, limited, -⟩
      cases (lenient strict).symm.trans limited
    exact Supervision.spilled_note spills world

/-- What has been charged to a tracker can be taken from it. -/
theorem counts_subtract
    {rest : List Nat}
    (counts :
      Counts supervision (charging amounts bytes (tracker :: rest)) world) :
    Ends (subtract bytes tracker) world
      (fun _ later => Counts supervision (charging amounts bytes rest) later)
      (fun _ later => supervision.register.Past amounts later) := by
  have most := (counts.measured tracker).2
  have enough : ¬supervision.Spilled world → supervision.reserved tracker →
      (world.trackers.entry tracker).consumption - bytes =
        charging amounts bytes rest tracker := by
    intro dry reserved
    have counted := counts.counted dry tracker reserved
    rw [charging_cons_self] at counted
    omega
  rw [subtract, ends_bind, ends_get, ends_bind, ends_modify]
  refine Ends.ite (fun inside => ?_) (fun outside => ?_)
  · refine counts_report (counts.store
      (fun dry reserved => ⟨inside, enough dry reserved⟩) (fun other => ?_) ?_)
      tracker _
    · exact fun distinct => (charging_cons_of_ne distinct rest).symm
    · intro dry limit reserved strict limited nonneg
      have capped :=
        counts.capped dry tracker limit reserved strict limited nonneg
      rw [charging_cons_self] at capped
      omega
  · refine counts.past_store
      (fun reserved => ?_) _ (le_charging amounts bytes (tracker :: rest))
    by_contra dry
    have counted := enough dry reserved
    refine outside ⟨?_, by omega⟩
    unfold Amount.least
    omega

theorem counts_subtractAll
    {trackers : List Nat}
    (counts : Counts supervision (charging amounts bytes trackers) world) :
    Ends (trackers.forM (subtract bytes)) world
      (fun _ later => Counts supervision amounts later)
      (fun _ later => supervision.register.Past amounts later) := by
  induction trackers generalizing world with
  | nil => exact charging_nil amounts bytes ▸ counts
  | cons tracker rest ih =>
      exact (counts_subtract counts).bind fun _ _ remaining => ih remaining

theorem counts_addAll
    (counts : Counts supervision amounts world)
    {trackers : List Nat}
    (lenient : ∀ tracker ∈ trackers, ¬supervision.strict tracker) :
    Ends (trackers.forM (add bytes)) world (fun _ later =>
      Counts supervision (charging amounts bytes trackers) later)
      (fun _ later => supervision.register.Past amounts later) := by
  induction trackers generalizing world amounts with
  | nil => exact (charging_nil amounts bytes).symm ▸ counts
  | cons tracker rest ih =>
      have own := lenient tracker List.mem_cons_self
      have others :=
        fun other member => lenient other (List.mem_cons_of_mem tracker member)
      refine (counts_add counts fun strict => absurd strict own).bind
        fun _ _ added => ?_
      rw [← List.singleton_append, charging_append]
      exact (ih added others).mono (fun _ _ charged => charged)
        (fun _ _ stopped =>
          stopped.weaken (le_charging amounts bytes [tracker]))

/--
A tracker that admits a charge counts it within its limit, and one that does not
counts nothing.  What it cannot count it turns away or spills.
-/
theorem counts_tryAdd
    (counts : Counts supervision amounts world)
    (tracker : Nat) :
    Ends (tryAdd bytes tracker) world (fun admitted later => Counts supervision
      (if admitted then charging amounts bytes [tracker] else amounts) later)
      (fun _ later => supervision.register.Past amounts later) := by
  have least := (counts.measured tracker).1
  have sameLimit := counts.limits tracker
  rw [tryAdd, ends_bind, ends_get]
  by_cases unlimited : (world.trackers.entry tracker).limit.isNone = true
  · rw [if_pos unlimited]
    refine (counts_add counts fun _ => ?_).bind fun _ _ added => added
    rw [← sameLimit]
    exact Option.isNone_iff_eq_none.mp unlimited
  · rw [if_neg unlimited, ends_bind, ends_note]
    let event : Event :=
      .weighed tracker ((world.trackers.entry tracker).consumption + bytes)
    have weighed : Counts supervision amounts (world.note event) :=
      counts.note event trivial
    refine Ends.ite (fun _ => weighed) (fun admits => ?_)
    have within : ∀ limit, supervision.limits tracker = some limit →
        (world.trackers.entry tracker).target bytes ≤ limit := by
      intro limit limited
      simpa [Tracker.admits, sameLimit, limited] using admits
    -- a saturated sum is admitted only by a limit that no amount exceeds
    have inside : ¬supervision.Spilled (world.note event) →
        supervision.reserved tracker →
        Amount.InRange
          ((world.trackers.entry tracker).consumption + bytes) := by
      intro dry reserved
      refine ⟨by omega, Int.not_lt.mp fun beyond => dry ?_⟩
      have spills : supervision.Spills event →
          supervision.Spilled (world.note event) :=
        fun spills => Supervision.spilled_note spills world
      refine spills ⟨reserved, beyond, ?_⟩
      rintro ⟨-, limit, limited, less⟩
      have admitted := within limit limited
      unfold Tracker.target Amount.saturate Amount.least at admitted
      omega
    have sum : ¬supervision.Spilled (world.note event) →
        supervision.reserved tracker →
        Amount.InRange ((world.trackers.entry tracker).target bytes) ∧
          (world.trackers.entry tracker).target bytes =
            charging amounts bytes [tracker] tracker := by
      intro dry reserved
      have counted := weighed.counted dry tracker reserved
      rw [Tracker.target, Amount.saturate_of_inRange (inside dry reserved),
        charging_cons_self, charging_nil, Int.natCast_add, ← counted]
      exact ⟨inside dry reserved, rfl⟩
    rw [ends_bind, ends_modify]
    refine Ends.bind
      (counts_reach (weighed.store sum (fun other distinct => ?_) ?_) tracker _)
      fun _ _ reached => reached
    · rw [charging_cons_of_ne distinct, charging_nil]
    · intro dry limit reserved _ limited _
      exact (sum dry reserved).2 ▸ within limit limited

theorem counts_tryAddAll
    {accepted rest : List Nat}
    (counts : Counts supervision (charging amounts bytes accepted) world) :
    Ends (tryAddAll bytes accepted rest) world
      (fun admitted later => Counts supervision (if admitted
        then charging amounts bytes (accepted ++ rest) else amounts) later)
      (fun _ later => supervision.register.Past amounts later) := by
  induction rest generalizing accepted world with
  | nil => exact (List.append_nil accepted).symm ▸ counts
  | cons tracker rest ih =>
      refine ((counts_tryAdd counts tracker).mono (fun _ _ tried => tried)
        (fun _ _ stopped =>
          stopped.weaken (le_charging amounts bytes accepted))).bind
        fun admitted later tried => ?_
      cases admitted with
      | true =>
          have further : Counts supervision
              (charging amounts bytes (accepted ++ [tracker])) later :=
            (charging_append amounts bytes accepted [tracker]).symm ▸ tried
          rw [List.append_cons accepted tracker rest]
          exact ih further
      | false => exact (counts_subtractAll tried).bind fun _ _ taken => taken

theorem counts_releaseAll
    {lineage : Lineage}
    (counts :
      Counts supervision (charging amounts bytes lineage.members) world) :
    Ends (releaseAll lineage bytes) world
      (fun _ later => Counts supervision amounts later)
      (fun _ later => supervision.register.Past amounts later) := by
  refine Ends.ite (fun none => ?_) (fun _ => counts_subtractAll counts)
  obtain rfl : bytes = 0 := Int.ofNat.inj none
  exact charging_zero amounts lineage.members ▸ counts

theorem counts_tryConsume
    (counts : Counts supervision amounts world)
    (lineage : Lineage) :
    Ends (tryConsume lineage bytes) world
      (fun admitted later => Counts supervision (if admitted
        then charging amounts bytes lineage.members else amounts) later)
      (fun _ later => supervision.register.Past amounts later) := by
  rw [tryConsume, ends_bind, ends_note]
  let event : Event := .tracked lineage.tracker (.tryConsume bytes)
  have noted : Counts supervision amounts (world.note event) :=
    counts.note event trivial
  refine Ends.ite (fun notPositive => ?_) (fun _ => ?_)
  · obtain rfl : bytes = 0 := by omega
    have uncharged := charging_zero amounts lineage.members
    have begins : Counts supervision (charging amounts 0 lineage.members)
        (world.note event) :=
      uncharged.symm ▸ noted
    exact (counts_releaseAll begins).bind fun _ _ released =>
      uncharged.symm ▸ released
  · have begins :
        Counts supervision (charging amounts bytes []) (world.note event) :=
      (charging_nil amounts bytes).symm ▸ noted
    exact counts_tryAddAll begins

theorem counts_consume
    (counts : Counts supervision amounts world)
    {lineage : Lineage}
    (lenient : ∀ tracker ∈ lineage.members, ¬supervision.strict tracker) :
    Ends (consume lineage bytes) world (fun _ later =>
      Counts supervision (charging amounts bytes lineage.members) later)
      (fun _ later => supervision.register.Past amounts later) :=
  (ends_bind (Operation.note _) _).mpr (counts_addAll
    (counts.note (.tracked lineage.tracker (.consume bytes)) trivial) lenient)

theorem counts_release
    {lineage : Lineage}
    (counts :
      Counts supervision (charging amounts bytes lineage.members) world) :
    Ends (release lineage bytes) world
      (fun _ later => Counts supervision amounts later)
      (fun _ later => supervision.register.Past amounts later) :=
  (ends_bind (Operation.note _) _).mpr (counts_releaseAll
    (counts.note (.tracked lineage.tracker (.release bytes)) trivial))

/--
What is left below the limits of trackers can be read, unless a charge
has been spilled.
-/
theorem spilled_of_spareOf
    (counts : Counts supervision amounts world)
    (reserved : ∀ tracker, supervision.reserved tracker)
    (legible : supervision.Legible)
    {trackers : List Nat}
    {fault : Fault}
    (failed : spareOf world.trackers trackers = .error fault) :
    supervision.Spilled world := by
  obtain ⟨tracker, -, stopped⟩ := headroom_of_spareOf failed
  obtain ⟨-, limit, limited, outside⟩ := illegible_of_headroom stopped
  by_contra dry
  have counted := counts.counted dry tracker (reserved tracker)
  have most := (counts.measured tracker).2
  rw [counts.limits tracker] at limited
  rcases legible tracker limit limited with ⟨above, below⟩
  refine outside ?_
  unfold Amount.InRange Amount.greatest Amount.least at *
  omega

/--
What is done to trackers that are not reserved leaves the reserved ones alone.
-/
theorem counts_beside
    {α : Type}
    {trackers : List Nat}
    {operation : Operation α}
    (tracks : operation.Tracks trackers)
    (free : ∀ tracker ∈ trackers, ¬supervision.reserved tracker)
    (counts : Counts supervision amounts world) :
    Ends operation world (fun _ later => Counts supervision amounts later)
      (fun _ later => Counts supervision amounts later) :=
  (tracks world).mono (fun _ _ steps => counts.trackerSteps free steps)
    (fun _ _ stopped => counts.trackerSteps free stopped.1)

end Charging

end BufferBudget
