import BufferBudget.Proofs.Answering
import BufferBudget.Proofs.Confinement
import BufferBudget.Proofs.Reading
import BufferBudget.Proofs.Repayment
import BufferBudget.Proofs.Tracking

/-!
# What an enforcing source decides

An enforcing source directly over the heap tries the size that is asked for and
then the least that is accepted.  It comes to the first of the two that is
admissible: one that the buffer has room for already, or one whose growth the
limits leave, all of them at once.  The trackers are asked one after the other,
and those that have accepted a charge give it back where another refuses it, so
that in the end each member of the lineage has counted the difference of the two
sizes, and nothing where the request is refused.

This takes for granted that no sum and no difference on the way leaves the range
of amounts; `CanCount` says so of a charge.
-/

namespace BufferBudget

namespace World

/--
Each tracker of a list has counted an amount more, and no other has.  No
limit has moved.
-/
structure Advances
    (world : World)
    (bytes : Int)
    (trackers : List Nat)
    (later : World) : Prop where
  consumption : ∀ key, (later.trackers.entry key).consumption =
    (world.trackers.entry key).consumption + if key ∈ trackers then bytes else 0
  limit : ∀ key, (later.trackers.entry key).limit =
    (world.trackers.entry key).limit

/-- Each member of a lineage can count an amount more. -/
def CanCount (world : World) (lineage : Lineage) (bytes : Int) : Prop :=
  ∀ key ∈ lineage.members,
    Amount.InRange ((world.trackers.entry key).consumption + bytes)

variable
    {world middle later : World}
    {bytes more : Int}
    {trackers : List Nat}
    {lineage : Lineage}

namespace Advances

theorem of_same (same : later.trackers = world.trackers) :
    world.Advances 0 trackers later where
  consumption := fun key => by rw [same, ite_self, Int.add_zero]
  limit := fun key => by rw [same]

theorem trans
    (first : world.Advances bytes trackers middle)
    (second : middle.Advances more trackers later) :
    world.Advances (bytes + more) trackers later where
  consumption := by
    intro key
    rw [second.consumption key, first.consumption key]
    split
    · exact Int.add_assoc _ bytes more
    · exact Int.add_zero _
  limit := fun key => (second.limit key).trans (first.limit key)

theorem congr
    (advances : world.Advances bytes trackers later)
    (same : bytes = more) :
    world.Advances more trackers later :=
  same ▸ advances

/-- What leaves the trackers alone leaves alone what they have counted. -/
theorem keep
    (advances : world.Advances bytes trackers middle)
    (same : later.trackers = middle.trackers) :
    world.Advances bytes trackers later :=
  (advances.trans (of_same same)).congr (Int.add_zero bytes)

/-- What has counted nothing more has counted the same. -/
theorem consumption_eq
    (advances : world.Advances 0 trackers later)
    (key : Nat) :
    (later.trackers.entry key).consumption =
      (world.trackers.entry key).consumption := by
  rw [advances.consumption key, ite_self, Int.add_zero]

theorem of_charged
    (measured : world.Measured)
    (positive : 0 < bytes)
    (counts : world.CanCount lineage bytes)
    (retracks : world.Retracks (·.charged bytes) lineage.members later) :
    world.Advances bytes lineage.members later where
  consumption := by
    intro key
    rw [retracks key]
    split
    · rename_i member
      exact Tracker.consumption_charged (measured key) positive
        (counts key member).2
    · exact (Int.add_zero _).symm
  limit := by
    intro key
    rw [retracks key]
    split
    · rfl
    · rfl

theorem of_discharged
    (counts : world.CanCount lineage (-bytes))
    (retracks : world.Retracks (·.discharged bytes) lineage.members later) :
    world.Advances (-bytes) lineage.members later where
  consumption := by
    intro key
    rw [retracks key]
    split
    · rename_i member
      exact Amount.wrap_of_inRange (counts key member)
    · exact (Int.add_zero _).symm
  limit := by
    intro key
    rw [retracks key]
    split
    · rfl
    · rfl

theorem of_rollsBack
    (counts : world.CanCount lineage bytes)
    (rollsBack : world.RollsBack bytes lineage.members later) :
    world.Advances 0 lineage.members later := by
  obtain ⟨below, refusing, above, members, -, -, retracks⟩ := rollsBack
  have inside : ∀ key ∈ below, key ∈ lineage.members :=
    fun key member => members ▸ List.mem_append_left (refusing :: above) member
  refine ⟨fun key => ?_, fun key => ?_⟩
  · rw [retracks key, ite_self, Int.add_zero]
    split
    · rename_i member
      exact Tracker.consumption_rolledBack (counts key (inside key member)).2
    · rfl
  · rw [retracks key]
    split
    · rfl
    · rfl

end Advances

/--
What one member can count is counted, whether or not a charge is put to it.
-/
theorem CanCount.congr
    (counts : world.CanCount lineage bytes)
    (advances : world.Advances 0 trackers later) :
    later.CanCount lineage bytes := by
  intro key member
  rw [advances.consumption_eq key]
  exact counts key member

end World

/-- What the limits leave is admitted by each of them. -/
theorem Standing.admits_of_le_spare
    {standing : Standing}
    {trackers : List Nat}
    {spare bytes : Int}
    (left : standing.spare trackers = .ok spare)
    (less : bytes ≤ spare) :
    standing.Admits trackers bytes := by
  induction trackers generalizing spare with
  | nil => exact fun _ member => absurd member List.not_mem_nil
  | cons tracker rest ih =>
      obtain ⟨own, legible, computed⟩ := exists_of_bind_eq_ok left
      obtain ⟨others, further, both⟩ := exists_of_bind_eq_ok computed
      obtain rfl : min own others = spare := Except.ok.inj both
      obtain ⟨lessOwn, lessOthers⟩ := Int.le_min.mp less
      intro key member limit limited
      rcases List.mem_cons.mp member with rfl | later
      · rw [headroom, limited] at legible
        dsimp only at legible
        rw [Amount.sub] at legible
        split at legible
        · obtain rfl := Except.ok.inj legible
          omega
        · cases legible
      · exact ih further lessOthers key later limit limited

/-- A tracker that can count the sum decides on the sum itself. -/
theorem Tracker.admits_iff
    {tracker : Tracker}
    {bytes : Int}
    (inside : Amount.InRange (tracker.consumption + bytes)) :
    tracker.admits bytes = true ↔
      ∀ limit, tracker.limit = some limit →
        tracker.consumption + bytes ≤ limit := by
  rw [admits]
  cases limited : tracker.limit with
  | none => simp
  | some limit => simp [target, Amount.saturate_of_inRange inside]

namespace Charging

variable {world : World} {lineage : Lineage} {bytes spare : Int}

/--
What the limits of a lineage leave can be read where every
difference is an amount.
-/
theorem exists_spare (legible : ∀ key ∈ lineage.members, ∀ limit,
    (world.trackers.entry key).limit = some limit →
      Amount.InRange (limit - (world.trackers.entry key).consumption)) :
    ∃ spare, Charging.spare world lineage = .ok spare := by
  cases read : Charging.spare world lineage with
  | ok spare => exact ⟨spare, rfl⟩
  | error fault =>
      obtain ⟨key, member, failed⟩ := headroom_of_spareOf read
      obtain ⟨-, limit, limited, outside⟩ := illegible_of_headroom failed
      exact absurd (legible key member limit limited) outside

/--
The limits of a lineage all admit a charge just where the least of what they
leave covers it.
-/
theorem admits_iff_le_spare
    (left : Charging.spare world lineage = .ok spare)
    (amount : bytes ≤ Amount.greatest)
    (counts : world.CanCount lineage bytes) :
    (∀ key ∈ lineage.members, (world.trackers.entry key).admits bytes = true) ↔
      bytes ≤ spare := by
  have reads : world.standing.spare lineage.members = .ok spare :=
    (world.spare_standing lineage.members).trans left
  have admits : (∀ key ∈ lineage.members,
      (world.trackers.entry key).admits bytes = true) ↔
      world.standing.Admits lineage.members bytes :=
    forall₂_congr fun key member => Tracker.admits_iff (counts key member)
  rw [admits]
  exact ⟨fun all => Standing.le_spare_of_admits all amount reads,
    Standing.admits_of_le_spare reads⟩

/-- What the limits leave depends on the limits and on what has been counted. -/
theorem spare_of_advances
    {later : World}
    {trackers : List Nat}
    (advances : world.Advances 0 trackers later) :
    Charging.spare later lineage = Charging.spare world lineage := by
  have headrooms : ∀ key, headroom (later.trackers.entry key) =
      headroom (world.trackers.entry key) := by
    intro key
    rw [headroom, headroom, advances.limit key, advances.consumption_eq key]
  rw [Charging.spare, Charging.spare]
  induction lineage.members with
  | nil => rfl
  | cons key rest ih => rw [spareOf, spareOf, headrooms, ih]

/--
A charge that every member can count never stops.  It is admitted where every
limit admits it, and then each member has counted it; otherwise none has
counted anything.
-/
theorem admits_tryConsume
    (measured : world.Measured)
    (distinct : lineage.members.Nodup)
    (amount : bytes ≤ Amount.greatest)
    (positive : 0 < bytes)
    (counts : world.CanCount lineage bytes) :
    Ends (tryConsume lineage bytes) world (fun admitted later =>
        (admitted = true ↔
          ∀ key ∈ lineage.members,
            (world.trackers.entry key).admits bytes = true) ∧
        world.Advances (if admitted then bytes else 0) lineage.members later)
      (fun _ _ => False) := by
  refine ((charged_of_tryConsume measured positive amount distinct).and
    (rolledBack_of_tryConsume measured amount distinct)).mono ?ended ?stopped
  case ended =>
    rintro admitted later ⟨accepted, refused⟩
    cases admitted with
    | true =>
        obtain ⟨accepts, charged⟩ := accepted rfl
        refine ⟨iff_of_true rfl fun key member =>
          (accepts key member).admits, ?_⟩
        exact .of_charged measured positive counts charged
    | false =>
        have rollsBack := refused rfl
        refine ⟨iff_of_false Bool.false_ne_true fun all =>
          ?_, .of_rollsBack counts rollsBack⟩
        obtain ⟨below, refusing, above, members, -, refuses, -⟩ := rollsBack
        have member : refusing ∈ lineage.members :=
          members ▸ List.mem_append_right below List.mem_cons_self
        exact Bool.false_ne_true (refuses.symm.trans (all refusing member))
  case stopped =>
    rintro fault later ⟨⟨key, member, -, outside⟩, -⟩
    exact outside (counts key member)

/--
A charge that every member can count is admitted where the limits
leave that much.
-/
theorem advances_tryConsume
    (measured : world.Measured)
    (distinct : lineage.members.Nodup)
    (left : Charging.spare world lineage = .ok spare)
    (amount : bytes ≤ Amount.greatest)
    (positive : 0 < bytes)
    (counts : world.CanCount lineage bytes) :
    Ends (tryConsume lineage bytes) world
      (fun admitted later => (admitted = true ↔ bytes ≤ spare) ∧
        world.Advances (if admitted then bytes else 0) lineage.members later)
      (fun _ _ => False) :=
  (admits_tryConsume measured distinct amount positive counts).sure
    fun _ _ ended =>
    ⟨ended.1.trans (admits_iff_le_spare left amount counts), ended.2⟩

end Charging

namespace Tracked

/--
A size that a buffer has room for already, or whose growth the limits leave.
-/
def Admissible (spare : Int) (old target : Nat) : Prop :=
  target ≤ old ∨ (target : Int) - old ≤ spare

instance (spare : Int) (old target : Nat) :
    Decidable (Admissible spare old target) :=
  inferInstanceAs (Decidable (_ ∨ _))

/--
The first admissible size: what is asked for, or else the least
that is accepted.
-/
def decision (spare : Int) (old requested minimal : Nat) : Option Nat :=
  if Admissible spare old requested then some requested
  else if Admissible spare old minimal then some minimal
  else none

/-- The first admissible one of some sizes. -/
def firstAdmissible (spare : Int) (old : Nat) : List Nat → Option Nat
  | [] => none
  | target :: rest =>
      if Admissible spare old target then some target
        else firstAdmissible spare old rest

/-- The sizes that are tried: those up to the first admissible one. -/
def tried (spare : Int) (old : Nat) : List Nat → List Nat
  | [] => []
  | target :: rest =>
      target :: if Admissible spare old target then [] else tried spare old rest

/-- What is decided is the first admissible one of the sizes to try. -/
theorem firstAdmissible_targets (spare : Int) (old requested minimal : Nat) :
    firstAdmissible spare old (targets requested minimal) =
      decision spare old requested minimal := by
  rw [targets, decision]
  split
  · rename_i same
    subst same
    rw [firstAdmissible, firstAdmissible]
    split
    · rfl
    · rfl
  · rfl

/--
What a source knows of its trackers before it tries some sizes on a buffer: how
much the limits leave, that every size is an amount, and that the charge for
every size that is tried can be counted.
-/
structure Prepared
    (lineage : Lineage)
    (spare : Int)
    (old : Nat)
    (targets : List Nat)
    (world : World) : Prop where
  measured : world.Measured
  left : Charging.spare world lineage = .ok spare
  held : (old : Int) ≤ Amount.greatest
  amount : ∀ target ∈ targets, (target : Int) ≤ Amount.greatest
  counts : ∀ target ∈ tried spare old targets,
    world.CanCount lineage ((target : Int) - old)

variable
    {lineage : Lineage}
    {spare : Int}
    {old target : Nat}
    {rest : List Nat}
    {heap : Heap}

namespace Prepared

variable {targets : List Nat} {world later : World} {trackers : List Nat}

/-- Where nothing has been counted since, there is as much to know. -/
theorem congr
    (prepared : Prepared lineage spare old targets world)
    (advances : world.Advances 0 trackers later) :
    Prepared lineage spare old targets later where
  measured :=
    fun key => by rw [advances.consumption_eq key]; exact prepared.measured key
  left := (Charging.spare_of_advances advances).trans prepared.left
  held := prepared.held
  amount := prepared.amount
  counts := fun target member => (prepared.counts target member).congr advances

theorem head (prepared : Prepared lineage spare old (target :: rest) world) :
    world.CanCount lineage ((target : Int) - old) :=
  prepared.counts target List.mem_cons_self

theorem tail
    (prepared : Prepared lineage spare old (target :: rest) world)
    (refused : ¬Admissible spare old target) :
    Prepared lineage spare old rest world where
  measured := prepared.measured
  left := prepared.left
  held := prepared.held
  amount := fun other member =>
    prepared.amount other (List.mem_cons_of_mem target member)
  counts := fun other member => by
    refine prepared.counts other (List.mem_cons_of_mem target ?_)
    rwa [if_neg refused]

end Prepared

section Charges

variable {world : World} (distinct : lineage.members.Nodup)

include distinct

/-- The growth of a buffer is charged where its new size is admissible. -/
theorem advances_charge
    (prepared : Prepared lineage spare old (target :: rest) world)
    (grows : old ≤ target) :
    Ends (charge lineage true (target - old)) world
      (fun admitted later => (admitted = true ↔ Admissible spare old target) ∧
        world.Advances
          (if admitted then (target : Int) - old else 0) lineage.members later)
      (fun _ _ => False) := by
  have growth : Amount.ofSize (target - old) = (target : Int) - old := by
    have most := prepared.amount target List.mem_cons_self
    unfold Amount.ofSize
    omega
  have most : (target : Int) - old ≤ Amount.greatest := by
    have most := prepared.amount target List.mem_cons_self
    omega
  have tried : Ends (Charging.tryConsume lineage ((target : Int) - old)) world
      (fun admitted later => (admitted = true ↔ Admissible spare old target) ∧
        world.Advances
          (if admitted then (target : Int) - old else 0) lineage.members later)
      (fun _ _ => False) := by
    by_cases positive : 0 < (target : Int) - old
    · refine (Charging.advances_tryConsume prepared.measured distinct
        prepared.left most positive prepared.head).sure ?_
      rintro admitted later ⟨decides, advances⟩
      refine ⟨decides.trans (or_iff_right ?_).symm, advances⟩
      omega
    · obtain rfl : target = old := by omega
      rw [Int.sub_self, Charging.tryConsume, ends_bind, ends_note]
      exact ⟨iff_of_true rfl (.inl (Nat.le_refl target)), .of_same rfl⟩
  rw [← growth] at tried
  refine charge_rule tried (fun _ ended => growth ▸ ended)
    (fun _ ended _ => growth ▸ ended) ?_
  exact fun _ _ forcing => Bool.noConfusion forcing

/-- What a buffer gives up is taken from each member. -/
theorem advances_discharge
    {size : Nat}
    (amount : (size : Int) ≤ Amount.greatest)
    (counts : world.CanCount lineage (-size)) :
    Ends (discharge lineage size) world
      (fun _ later => world.Advances (-size) lineage.members later)
      (fun _ _ => False) := by
  refine Ends.ite (fun positive => ?_) (fun empty => ?_)
  · have bytes : Amount.ofSize size = size := Int.min_eq_right amount
    rw [bytes]
    exact (Charging.discharges_release distinct
      (Int.natCast_pos.mpr positive) counts).sure
      fun _ _ discharged => .of_discharged counts discharged
  · obtain rfl : size = 0 := Nat.eq_zero_of_not_pos empty
    exact .of_same rfl

end Charges

/--
Each member has counted the difference between the size that a buffer has been
given and the one that it had, and nothing where it has been given none.
-/
def Settles
    (lineage : Lineage)
    (old : Nat)
    (given : Option Nat)
    (world later : World) : Prop :=
  world.Advances ((given.getD old : Int) - old) lineage.members later

theorem settles_none
    {world later : World}
    (advances : world.Advances 0 lineage.members later) :
    Settles lineage old none world later :=
  advances.congr (Int.sub_self _).symm

theorem settles_some
    {world later : World}
    (advances : world.Advances ((target : Int) - old) lineage.members later) :
    Settles lineage old (some target) world later :=
  advances

theorem Settles.after
    {given : Option Nat}
    {world middle later : World}
    (settles : Settles lineage old given middle later)
    (advances : world.Advances 0 lineage.members middle) :
    Settles lineage old given world later :=
  (advances.trans settles).congr (Int.zero_add _)

section Attempts

variable (distinct : lineage.members.Nodup)

include distinct

/--
Of the sizes that are tried for a new buffer, the first admissible
one is allocated.
-/
theorem madeAs_allocateFirst
    {targets : List Nat}
    {world : World}
    (prepared : Prepared lineage spare 0 targets world)
    (serves : ∀ target ∈ targets, heap.serves target = true) :
    Ends (allocateFirst lineage true (heap.source.noting .heap) targets) world
      (MadeAs (firstAdmissible spare 0 targets)
        (Settles lineage 0 (firstAdmissible spare 0 targets) world))
      (fun _ _ => False) := by
  induction targets generalizing world with
  | nil => exact ⟨rfl, settles_none (.of_same rfl)⟩
  | cons target rest ih =>
      have charged := advances_charge distinct prepared (Nat.zero_le target)
      rw [Nat.sub_zero] at charged
      rw [firstAdmissible]
      refine allocateFirst_rule (fun result later => Admissible spare 0 target ∧
        result.map (·.size) = some target ∧
          Settles lineage 0 (some target) world later)
        (fun _ => False) charged ?called ?met ?undone ?again
      case called =>
        rintro later ⟨decides, advances⟩
        apply Source.noting_allocate_rule
        refine Heap.allocate_rule (fun refused => ?_) fun _ => ?_
        · exact nomatch (serves target List.mem_cons_self).symm.trans refused
        · refine ⟨decides.mp rfl, ?_, ?_⟩
          · rw [Option.map_some, Contents.size_fresh]
          · exact settles_some (advances.keep rfl)
      case met =>
        rintro contents later ⟨admissible, size, settles⟩
        rw [if_pos admissible]
        exact ⟨size, settles⟩
      case undone =>
        rintro later ⟨-, impossible, -⟩
        exact nomatch impossible
      case again =>
        rintro later (⟨decides, advances⟩ | impossible)
        · have refused : ¬Admissible spare 0 target :=
            fun admissible => Bool.false_ne_true (decides.mpr admissible)
          rw [if_neg refused]
          refine (ih ((prepared.tail refused).congr advances)
            fun other member =>
            serves other (List.mem_cons_of_mem target member)).sure ?_
          exact fun result last made => ⟨made.1, made.2.after advances⟩
        · exact impossible.elim

/--
One size is tried on a buffer: the buffer comes to it where it is admissible.
-/
theorem settles_resizeTo
    {bench : Workbench}
    (prepared : Prepared lineage spare bench.contents.size
      (target :: rest) bench.world)
    (served : heap.serves target = true) :
    Ends (resizeTo lineage true (heap.source.noting .heap) bench.contents.size
      target) bench (fun met later =>
        (met = true ↔ Admissible spare bench.contents.size target) ∧
        later.contents.size = (if met then target else bench.contents.size) ∧
          Settles lineage bench.contents.size
            (if met then some target else none) bench.world later.world)
      (fun _ _ => False) := by
  refine Ends.ite (fun within => ?shrunk) (fun notWithin => ?grown)
  case shrunk =>
    have cut : Ends ((heap.source.noting .heap).resize target target) bench
        (fun met later => met = true ∧ later.contents.size = target ∧
          later.world.trackers = bench.world.trackers) (fun _ _ => False) := by
      apply Source.noting_resize_rule
      refine Heap.resize_rule (fun larger => ?_) (fun larger => ?_)
        (fun smaller => ?_) (fun same => ⟨rfl, same.symm, rfl⟩)
      · exact absurd larger (Nat.not_lt.mpr within)
      · exact absurd larger (Nat.not_lt.mpr within)
      · exact ⟨rfl, Contents.size_truncate _ (Nat.le_of_lt smaller), rfl⟩
    refine shrinkTo_rule cut ?refused ?beyond ?settled
    case refused => exact fun _ impossible => nomatch impossible.1
    case beyond =>
      rintro later ⟨-, size, -⟩ above
      exact absurd above (Nat.not_lt.mpr (size ▸ within))
    case settled =>
      rintro later ⟨-, size, same⟩ -
      rw [size]
      have surplus : -((bench.contents.size - target : Nat) : Int) =
          (target : Int) - bench.contents.size := by
        omega
      have amount : ((bench.contents.size - target : Nat) : Int) ≤
          Amount.greatest := by
        have most := prepared.held
        omega
      have untouched :
          bench.world.Advances 0 lineage.members later.world := .of_same same
      have counts := prepared.head.congr untouched
      refine (advances_discharge distinct amount
        (surplus.symm ▸ counts)).sure ?_
      intro _ last advances
      refine ⟨iff_of_true rfl (.inl within), size, settles_some ?_⟩
      exact (untouched.trans advances).congr ((Int.zero_add _).trans surplus)
  case grown =>
    have larger := Nat.not_le.mp notWithin
    refine growTo_rule _ (fun met later => met = true ∧
      Admissible spare bench.contents.size target ∧
        later.contents.size = target ∧
          Settles lineage bench.contents.size
            (some target) bench.world later.world)
      larger ((advances_charge distinct prepared (Nat.le_of_lt larger)).sure
        fun _ _ ended => ended)
      ?turnedAway ?called ?met ?refused
    case turnedAway =>
      rintro later ⟨decides, advances⟩
      exact ⟨decides, rfl, settles_none advances⟩
    case called =>
      rintro later ⟨decides, advances⟩
      apply Source.noting_resize_rule
      refine Heap.resize_rule (fun _ refused => ?_) (fun _ _ => ?_)
        (fun smaller => ?_) (fun same => ?_)
      · exact nomatch served.symm.trans refused
      · refine ⟨rfl, decides.mp rfl, ?_, settles_some (advances.keep rfl)⟩
        exact Contents.size_extend _ (Nat.le_of_lt larger)
      · exact absurd larger (Nat.not_lt.mpr (Nat.le_of_lt smaller))
      · exact absurd larger (Nat.not_lt.mpr (Nat.le_of_eq same))
    case met =>
      rintro later ⟨-, admissible, size, settles⟩
      exact ⟨iff_of_true rfl admissible, size, settles⟩
    case refused =>
      rintro later ⟨impossible, -⟩
      exact nomatch impossible

/--
Of the sizes that are tried on a buffer, it comes to the first admissible one.
-/
theorem remadeAs_resizeFirst
    {targets : List Nat}
    {bench : Workbench}
    (prepared : Prepared lineage spare bench.contents.size targets bench.world)
    (serves : ∀ target ∈ targets, heap.serves target = true) :
    Ends (resizeFirst lineage true
      (heap.source.noting .heap) bench.contents.size targets)
      bench (RemadeAs (firstAdmissible spare bench.contents.size targets)
        (Settles lineage bench.contents.size
          (firstAdmissible spare bench.contents.size targets) bench.world))
      (fun _ _ => False) := by
  induction targets generalizing bench with
  | nil => exact ⟨rfl, settles_none (.of_same rfl)⟩
  | cons target rest ih =>
      rw [firstAdmissible]
      refine resizeFirst_rule _
        (settles_resizeTo distinct prepared (serves target List.mem_cons_self))
        ?met ?again
      case met =>
        rintro later ⟨decides, size, settles⟩
        rw [if_pos (decides.mp rfl)]
        exact ⟨congrArg some size, settles⟩
      case again =>
        rintro later ⟨decides, size, settles⟩
        have refused : ¬Admissible spare bench.contents.size target :=
          fun admissible => Bool.false_ne_true (decides.mpr admissible)
        have same : later.contents.size = bench.contents.size := size
        have untouched : bench.world.Advances 0 lineage.members later.world :=
          settles.congr (Int.sub_self _)
        rw [if_neg refused]
        have again := @ih later (same ▸ (prepared.tail refused).congr untouched)
          fun other member => serves other (List.mem_cons_of_mem target member)
        rw [same] at again
        exact again.sure fun met last remade =>
          ⟨remade.1, remade.2.after untouched⟩

end Attempts

end Tracked

/--
A heap that serves amounts only serves no size above the greatest of them.
-/
theorem Heap.Countable.within {heap : Heap} (countable : heap.Countable) :
    heap.Within Amount.greatest.toNat := by
  intro size serves
  have most := countable size serves
  omega

namespace Session

/-- The size of a buffer that is held is an amount. -/
theorem Puts.held_le
    {session : Session}
    {allocator : Allocator}
    {call : Call}
    {held : Option Nat}
    (puts : session.Puts allocator call held)
    (confined : session.Confined Amount.greatest.toNat) :
    ((held.getD 0 : Nat) : Int) ≤ Amount.greatest := by
  have nothing : ((0 : Nat) : Int) ≤ Amount.greatest := by decide
  have within : ∀ {handle buffer}, session.shelf.find? handle = some buffer →
      (buffer.size : Int) ≤ Amount.greatest := by
    intro handle buffer found
    have most := (confined handle buffer found).2
    omega
  cases puts with
  | allocate => exact nothing
  | tryAllocate => exact nothing
  | fillSlot => exact nothing
  | resizeSlot found => exact within found
  | resize found => exact within found
  | tryResize found => exact within found

/--
In a session that has come about by any calls, from any accounts that are fresh,
a request is put to an enforcing source directly over the heap, for a new buffer
or for another size of one that is held.  It is met with the size that is asked
for if that is admissible, or else with the least that is accepted, or else it
is refused.  Each tracker of the lineage then counts the difference of the two
sizes more, and no other tracker counts anything else than before.

The limits may have been overrun by then.  That no difference and no sum
leaves the range of amounts is asked of what the limits leave and of the sizes
that are tried.
-/
theorem enforcing_decision_is_exact
    {world : World}
    (fresh : world.Fresh)
    {calls : List Call}
    (names : ∀ call ∈ calls, call.Names (·.heap.Countable))
    (forest : Forest)
    (tracker : Nat)
    {heap : Heap}
    (countable : heap.Countable)
    {requested minimal : Nat}
    (accepted : minimal ≤ requested)
    (serves : ∀ target ∈ [requested, minimal], heap.serves target = true) :
    let lineage := forest.lineage tracker
    let allocator : Allocator := { layers := [.tracked lineage true], heap }
    let session := (start world).performAll calls
    let consumption := fun key => (session.world.trackers.entry key).consumption
    (∀ key ∈ lineage.members, ∀ limit,
      (session.world.trackers.entry key).limit = some limit →
      Amount.InRange (limit - consumption key)) →
    ∃ spare, Charging.spare session.world lineage = .ok spare ∧
      ∀ call held, session.Puts allocator call held →
        call.request? = some (requested, minimal) →
          let old := held.getD 0
          (∀ target ∈ Tracked.tried spare old
            (Tracked.targets requested minimal),
            ∀ key ∈ lineage.members,
              Amount.InRange (consumption key +
                ((target : Int) - (old : Nat)))) →
            let outcome := session.perform call
            let given := Tracked.decision spare old requested minimal
            outcome.1.Gives given ∧
              session.world.Advances (given.getD old - old) lineage.members
                outcome.2.world := by
  intro lineage allocator session consumption legible
  obtain ⟨spare, left⟩ := Charging.exists_spare legible
  refine ⟨spare, left, fun call held puts request => ?_⟩
  intro old counts outcome given
  have distinct : lineage.members.Nodup := forest.nodup_members_lineage tracker
  have confined : session.Confined Amount.greatest.toNat :=
    confined_performAll world fun call member => (names call member).mono
      fun _ countable => Heap.Countable.within countable
  have served : ∀ target ∈ Tracked.targets requested minimal,
      heap.serves target = true := by
    intro target member
    exact serves target (by simpa using Tracked.mem_targets.mp member)
  have prepared : Tracked.Prepared lineage spare old
      (Tracked.targets requested minimal) session.world :=
    { measured := measured_performAll fresh.measured calls
      left
      held := puts.held_le confined
      amount := fun target member => countable target (served target member)
      counts }
  have settled : Settled
      (Tracked.firstAdmissible spare old (Tracked.targets requested minimal))
      (Tracked.Settles lineage old (Tracked.firstAdmissible spare old
        (Tracked.targets requested minimal)) session.world) outcome := by
    refine puts.settled request accepted
      (fun _ _ settles => settles.keep rfl) ?made ?resized ?reads
    case made =>
      rintro rfl
      apply Source.noting_allocate_rule
      refine (Tracked.madeAs_allocateFirst distinct prepared served).sure ?_
      exact fun result later made => ⟨made.1, made.2.keep rfl⟩
    case resized =>
      rintro contents rfl
      apply Source.noting_resize_rule
      refine (ends_bind Resizing.size _).mpr ?_
      refine (@Tracked.remadeAs_resizeFirst lineage spare heap distinct _
        { world := session.world, contents } prepared served).sure ?_
      exact fun met later remade => ⟨remade.1, remade.2.keep rfl⟩
    case reads =>
      intro refused later settles
      rw [refused] at settles
      have untouched : session.world.Advances 0 lineage.members later :=
        settles.congr (Int.sub_self _)
      refine ⟨spare.toNat, ?_⟩
      show Tracked.available lineage true later = .ok spare.toNat
      rw [Tracked.available, if_pos rfl,
        Charging.spare_of_advances untouched, left]
      rfl
  rw [Tracked.firstAdmissible_targets] at settled
  exact settled

/--
A process has been charged past its limit of 100 bytes by others, 30 of them for
a buffer of a query.  The buffer cannot grow to 50 bytes, and so it is cut to
the 10 that are accepted: both trackers count 20 bytes less.
-/
theorem enforcing_decision_is_exact_past_limit :
    let allocator : Allocator :=
      { layers := [.tracked ⟨1, [0]⟩ true], heap := .standard }
    let world : World :=
      .start [] [.fresh "process" (some 100), .fresh "query" none]
    let session := (start world).performAll
      [.allocate 0 allocator 30 30, .consume ⟨0, []⟩ 90]
    let outcome := session.perform (.resize 0 (some allocator) 50 10)
    Charging.spare session.world ⟨1, [0]⟩ = .ok (-20) ∧
      outcome.1.Gives (some 10) ∧
        session.world.Advances (-20) [1, 0] outcome.2.world := by
  intro allocator world session outcome
  have fresh : world.Fresh := .start_quotas [] (by decide) (by decide)
  have names : ∀ call ∈ [Call.allocate 0 allocator 30 30, .consume ⟨0, []⟩ 90],
      call.Names (·.heap.Countable) := by
    intro call member
    rcases List.mem_cons.mp member with rfl | last
    · exact Heap.countable_standard
    · rw [List.mem_singleton.mp last]
      exact trivial
  have left : Charging.spare session.world ⟨1, [0]⟩ =
      .ok (-20) := by decide +kernel
  have legible : ∀ key ∈ [1, 0],
      ∀ limit ∈ (session.world.trackers.entry key).limit, Amount.InRange
      (limit - (session.world.trackers.entry key).consumption) := by
    decide +kernel
  have counts :
      ∀ target ∈ Tracked.tried (-20) 30 (Tracked.targets 50 10), ∀ key ∈ [1, 0],
        Amount.InRange ((session.world.trackers.entry key).consumption +
          ((target : Int) - (30 : Nat))) := by
    decide +kernel
  have holds : (session.shelf.find? 0).map (·.size) =
      some 30 := by decide +kernel
  obtain ⟨buffer, found, size⟩ := Option.map_eq_some_iff.mp holds
  have puts : session.Puts allocator (.resize 0 (some allocator) 50 10)
      (some buffer.size) :=
    .resize found rfl
  have lineage : Forest.lineage { parents := [none, some 0] } 1 =
      ⟨1, [0]⟩ := by decide +kernel
  have decides :=
    enforcing_decision_is_exact fresh names { parents := [none, some 0] } 1
      Heap.countable_standard (by decide : 10 ≤ 50) (by decide)
  rw [lineage] at decides
  obtain ⟨spare, reads, answers⟩ := decides legible
  obtain rfl : spare = -20 := Except.ok.inj (reads.symm.trans left)
  rw [size] at puts
  have given : Tracked.decision (-20) ((some 30).getD 0) 50 10 =
      some 10 := by decide
  have answered := answers (.resize 0 (some allocator) 50 10) (some 30) puts rfl
  obtain ⟨gives, advances⟩ := answered counts
  rw [given] at gives advances
  refine ⟨left, gives, ?_⟩
  dsimp only [outcome, session]
  exact advances.congr (by decide)

end Session

end BufferBudget
