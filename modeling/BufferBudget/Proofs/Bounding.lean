import BufferBudget.Proofs.Admission
import BufferBudget.Proofs.Asking
import BufferBudget.Proofs.HardStack
import BufferBudget.Proofs.Metering
import BufferBudget.Proofs.Reading

/-!
# No more is granted than was reported to be left

What an allocator reports to have left and what it grants come about in two
ways.  A report is computed from the top of the stack down, and some layers
compute theirs without asking below; a grant is what is left of a request that
each layer has cut, tried, and tried again, while the layers above it had
already been lent and charged their share.

`Source.Bounds` compares the two at one standing: what a source grants is no
more than what its layers have left there.  A layer that has been lent what it
passes on finds less below than was reported (`Standing.available_lend`), and a
layer that tries twice tries from the same standing, since a refusal gives
everything back.  Where quotas are not enforced nothing of the kind holds, since
they grant the least accepted past their ceiling.
-/

namespace BufferBudget

/--
The growth of a buffer to a size is no more than what some layers have left, and
the size is an amount that trackers can count.
-/
structure Standing.Affords
    (standing : Standing)
    (layers : List Layer)
    (old new : Nat) : Prop where
  countable : old < new → (new : Int) ≤ Amount.greatest
  within : ∀ rest, standing.available layers = .ok rest → new ≤ old + rest

/-- Whatever size is granted is afforded. -/
def Standing.Bounds
    (standing : Standing)
    (layers : List Layer)
    (old : Nat)
    (granted : Option Nat) : Prop :=
  ∀ new, granted = some new → standing.Affords layers old new

namespace Standing

variable
    {standing : Standing}
    {layer : Layer}
    {layers : List Layer}
    {old new : Nat}

/-- A buffer that does not grow needs nothing. -/
theorem affords_of_le (smaller : new ≤ old) :
    standing.Affords layers old new where
  countable := fun larger => absurd larger (Nat.not_lt.mpr smaller)
  within := fun _ _ => Nat.le_trans smaller (Nat.le_add_right _ _)

/-- Layers that report no bound have any size left that trackers can count. -/
theorem affords_of_unbounded
    (countable : old < new → (new : Int) ≤ Amount.greatest)
    (unbounded : standing.available layers = .ok Size.limit) :
    standing.Affords layers old new where
  countable := countable
  within := by
    intro rest left
    obtain rfl := Except.ok.inj (unbounded.symm.trans left)
    unfold Amount.greatest at countable
    unfold Size.limit
    omega

theorem Affords.congr
    {other : List Layer}
    (affords : standing.Affords layers old new)
    (same : standing.available other = standing.available layers) :
    standing.Affords other old new where
  countable := affords.countable
  within := fun rest left => affords.within rest (same ▸ left)

/--
What is afforded after a mediator has lent what its ceiling leaves was afforded
before, and it was so with the ceiling too.
-/
theorem Affords.mediated
    {mediator granted : Nat}
    (affords : (standing.lend mediator granted).Affords layers old new)
    (share : granted ≤ (standing.mediators mediator).room)
    (capped : new ≤ old + granted) :
    standing.Affords (.mediated mediator :: layers) old new where
  countable := affords.countable
  within := by
    intro rest left
    obtain ⟨most, leftBelow, computed⟩ := exists_of_bind_eq_ok left
    obtain rfl := Except.ok.inj computed
    obtain ⟨less, fewer, leftLater⟩ :=
      standing.available_lend mediator granted leftBelow
    have below := affords.within less leftLater
    omega

/-- A bypass has no less left than the quota that counts for it. -/
theorem Affords.bypass
    {mediator amount : Nat}
    (affords : standing.Affords (.mediated mediator :: layers) old new) :
    standing.Affords (.bypass mediator amount :: layers) old new where
  countable := affords.countable
  within := by
    intro rest left
    obtain ⟨most, leftBelow, computed⟩ := exists_of_bind_eq_ok left
    obtain rfl := Except.ok.inj computed
    refine Nat.le_trans
      (affords.within (min most (standing.mediators mediator).room) ?_) ?_
    · rw [available, leftBelow]
      rfl
    · exact Nat.add_le_add_left (Nat.le_max_left _ _) old

/--
A guarantee has left what its amount leaves, whatever the layers below have.
-/
theorem Affords.guaranteed
    {mediator amount : Nat}
    {other : List Layer}
    (affords : standing.Affords other old new)
    (enough : new ≤ old + (standing.mediators mediator).rest amount) :
    standing.Affords (.guaranteed mediator amount :: layers) old new where
  countable := affords.countable
  within := by
    intro rest left
    obtain rfl := Except.ok.inj left
    exact enough

/--
What the limits of trackers admit is left, whatever the layers below have.
-/
theorem Affords.tracked
    {lineage : Lineage}
    {enforcing : Bool}
    {other : Standing}
    (affords : other.Affords layers old new)
    (admitted : enforcing = true → old < new →
      standing.Admits lineage.members (Amount.ofSize (new - old))) :
    standing.Affords (.tracked lineage enforcing :: layers) old new := by
  cases enforcing with
  | false => exact affords_of_unbounded affords.countable rfl
  | true =>
      refine ⟨affords.countable, fun rest left => ?_⟩
      obtain ⟨spare, leftByLimits, computed⟩ := exists_of_bind_eq_ok left
      obtain rfl := Except.ok.inj computed
      rcases Nat.lt_or_ge old new with larger | smaller
      · have fits := affords.countable larger
        have counted : Amount.ofSize (new - old) =
            ((new - old : Nat) : Int) := by
          unfold Amount.ofSize
          omega
        have amount : Amount.ofSize (new - old) ≤ Amount.greatest := by omega
        have spared :=
          le_spare_of_admits (admitted rfl larger) amount leftByLimits
        omega
      · exact Nat.le_trans smaller (Nat.le_add_right _ _)

theorem bounds_none : standing.Bounds layers old none :=
  nofun

theorem bounds_some (affords : standing.Affords layers old new) :
    standing.Bounds layers old (some new) := by
  rintro _ ⟨⟩
  exact affords

end Standing

section Endings

variable
    {watch : Watch}
    {upper lower : Standing}
    {above below : List Layer}
    {old : Nat}
    {requested minimal : Nat}

/--
A buffer that was made within the request is afforded where every such size is
that was afforded before.
-/
theorem MadeWell.raise
    {result : Option Contents}
    {world : World}
    (well : MadeWell watch (lower.Bounds below old) result world)
    (served : Served minimal requested result world)
    (raises : ∀ new, Within minimal requested new →
      lower.Affords below old new → upper.Affords above old new) :
    MadeWell watch (upper.Bounds above old) result world := by
  intro clear new granted
  obtain ⟨contents, made, rfl⟩ := Option.map_eq_some_iff.mp granted
  exact raises _ (served.2 contents made) (well clear _ granted)

/-- The same of a buffer that was resized. -/
theorem ResizedWell.raise
    {contents : Contents}
    {met : Bool}
    {bench : Workbench}
    (well : ResizedWell watch (lower.Bounds below old) met bench)
    (resized : Resized contents minimal requested met bench)
    (raises : ∀ new, Within minimal requested new →
      lower.Affords below old new → upper.Affords above old new) :
    ResizedWell watch (upper.Bounds above old) met bench := by
  intro clear
  cases met with
  | false => exact Standing.bounds_none
  | true =>
      exact Standing.bounds_some (raises _ resized.within (well clear _ rfl))

/-- A buffer that is to be no larger needs nothing. -/
theorem Resized.bounds_of_le
    {contents : Contents}
    {met : Bool}
    {bench : Workbench}
    (resized : Resized contents minimal requested met bench)
    (smaller : requested ≤ old) :
    ResizedWell watch (upper.Bounds above old) met bench := by
  intro _
  cases met with
  | false => exact Standing.bounds_none
  | true =>
      have shrunk := Nat.le_trans resized.within.2 smaller
      exact Standing.bounds_some (Standing.affords_of_le shrunk)

end Endings

/-- An enforced quota grants no more than its ceiling leaves. -/
theorem Quota.le_room_of_passes
    {quota : Quota}
    (enforced : quota.enforced = true)
    {requested minimal granted : Nat}
    (given : quota.passes requested minimal = some granted) :
    granted ≤ quota.room := by
  rw [passes] at given
  split at given
  · obtain rfl := Option.some.inj given
    exact Nat.zero_le _
  · split at given
    · obtain rfl := Option.some.inj given
      cases fits : quota.fits minimal with
      | true =>
          rw [grant_of_fits requested fits]
          exact Nat.min_le_right _ _
      | false =>
          rw [grant_of_not_fits requested fits, enforced]
          exact Nat.zero_le _
    · cases given

/-- The contract of a source about what is granted of what is left. -/
structure Source.Bounds (source : Source) (layers : List Layer) : Prop where
  allocate : ∀ {watch standing world requested minimal},
    RestsAt watch standing world →
    standing.OnHardQuotas layers → world.Orderly → minimal ≤ requested →
    requested ≤ Size.limit →
    Ends (source.allocate requested minimal) world
      (MadeWell watch (standing.Bounds layers 0)) (fun _ _ => True)
  resize : ∀ {watch standing bench requested minimal},
    RestsAt watch standing bench.world →
    standing.OnHardQuotas layers → bench.world.Orderly → minimal ≤ requested →
    requested ≤ Size.limit →
    Ends (source.resize requested minimal) bench
      (ResizedWell watch (standing.Bounds layers bench.contents.size))
      (fun _ _ => True)

section Layers

variable
    {below : Source}
    {layers : List Layer}
    {watch : Watch}
    {standing : Standing}
    {requested minimal : Nat}

theorem Source.Bounds.noting
    {source : Source}
    (bounds : source.Bounds layers)
    (site : Site) :
    (source.noting site).Bounds layers where
  allocate := by
    intro watch standing world requested minimal rests hard
      orderly accepted size
    apply noting_allocate_rule
    refine (bounds.allocate rests hard orderly accepted size).imp
      fun _ later well clear => ?_
    exact well (@Watch.Clear.of_append watch later _ clear [_] rfl)
  resize := by
    intro watch standing bench requested minimal rests hard
      orderly accepted size
    apply noting_resize_rule
    refine (bounds.resize rests hard orderly accepted size).imp
      fun _ later well clear => ?_
    exact well (@Watch.Clear.of_append watch later.world _ clear [_] rfl)

/--
A source bounds what it grants for any layers that afford what its own afford.
-/
theorem Source.Bounds.weaken
    {other : List Layer}
    (bounds : below.Bounds layers)
    (fewer : ∀ standing : Standing, standing.OnHardQuotas other →
      standing.OnHardQuotas layers)
    (raises : ∀ (standing : Standing) (old new : Nat),
      standing.Affords layers old new → standing.Affords other old new) :
    below.Bounds other where
  allocate := fun rests hard orderly accepted size =>
    (bounds.allocate rests (fewer _ hard) orderly accepted size).imp
      fun _ _ well clear new granted => raises _ _ _ (well clear new granted)
  resize := fun rests hard orderly accepted size =>
    (bounds.resize rests (fewer _ hard) orderly accepted size).imp
      fun _ _ well clear new granted => raises _ _ _ (well clear new granted)

/-- Layers that have as much left as those below them afford the same. -/
theorem Source.Bounds.congr
    (bounds : below.Bounds layers)
    {layer : Layer}
    (same : ∀ standing : Standing,
      standing.available (layer :: layers) = standing.available layers) :
    below.Bounds (layer :: layers) :=
  bounds.weaken (fun _ hard => hard.tail) fun standing _ _ affords =>
    affords.congr (same standing)

section Raising

variable
    {source : Source}
    {upper lower : Standing}
    {above others : List Layer}
    (bounds : source.Bounds others)
    (stepwise : source.Stepwise)
    (ranged : source.Ranged)

include bounds stepwise ranged

/--
What a source grants at a standing that a layer has brought about is afforded at
the standing before, where every size within the request is.
-/
theorem Source.Bounds.allocate_raised
    {world : World}
    (rests : RestsAt watch lower world)
    (hard : lower.OnHardQuotas others)
    (orderly : world.Orderly)
    (accepted : minimal ≤ requested)
    (size : requested ≤ Size.limit)
    (raises : watch.Clear world → ∀ new, Within minimal requested new →
      lower.Affords others 0 new → upper.Affords above 0 new) :
    Ends (source.allocate requested minimal) world
      (MadeWell watch (upper.Bounds above 0)) (fun _ _ => True) := by
  refine (stepwise.allocate requested minimal).ends_of_clear fun clear => ?_
  have served :=
    (ranged.allocate orderly accepted size).imp fun _ _ served => served
  refine ((bounds.allocate rests hard orderly accepted size).both served).imp ?_
  exact fun _ _ made => made.1.raise made.2 (raises clear)

theorem Source.Bounds.resize_raised
    (bench : Workbench)
    (rests : RestsAt watch lower bench.world)
    (hard : lower.OnHardQuotas others)
    (orderly : bench.world.Orderly)
    (accepted : minimal ≤ requested)
    (size : requested ≤ Size.limit)
    (raises : watch.Clear bench.world → ∀ new, Within minimal requested new →
      lower.Affords others bench.contents.size new →
      upper.Affords above bench.contents.size new) :
    Ends (source.resize requested minimal) bench
      (ResizedWell watch (upper.Bounds above bench.contents.size))
      (fun _ _ => True) := by
  refine (stepwise.resize requested minimal).ends_of_clear fun clear => ?_
  have resized :=
    (ranged.resize orderly accepted size).imp fun _ _ resized => resized
  refine ((bounds.resize rests hard orderly accepted size).both resized).imp ?_
  exact fun _ _ ended => ended.1.raise ended.2 (raises clear)

end Raising

theorem Heap.bounds_source {heap : Heap} (countable : heap.Countable) :
    heap.source.Bounds [] where
  allocate := by
    intro watch standing world requested minimal _ _ _ _ _
    refine allocate_rule (fun _ _ => Standing.bounds_none) (fun served _ => ?_)
    refine Standing.bounds_some (Standing.affords_of_unbounded
      (fun _ => ?_) rfl)
    show ((Contents.fresh requested).size : Int) ≤ Amount.greatest
    rw [Contents.size_fresh]
    exact countable requested served
  resize := by
    intro watch standing bench requested minimal _ _ _ _ _
    refine resize_rule (fun _ _ _ => Standing.bounds_none)
      (fun larger served _ => ?_) (fun smaller _ => ?_) (fun _ _ => ?_)
    · refine Standing.bounds_some (Standing.affords_of_unbounded
        (fun _ => ?_) rfl)
      rw [Contents.size_extend _ (Nat.le_of_lt larger)]
      exact countable requested served
    · refine Standing.bounds_some (Standing.affords_of_le ?_)
      rw [Contents.size_truncate _ (Nat.le_of_lt smaller)]
      exact Nat.le_of_lt smaller
    · exact Standing.bounds_some (Standing.affords_of_le (Nat.le_refl _))

namespace Mediated

variable {mediator : Nat}

/--
A grant is lent, lies within the request, and is no more than the
ceiling leaves.
-/
theorem bounds_grant
    {world : World}
    (rests : RestsAt watch standing world)
    (hard : standing.OnHardQuotas (.mediated mediator :: layers))
    (orderly : world.Orderly)
    (accepted : minimal ≤ requested) :
    Ends (Mediation.grant mediator requested minimal) world (fun answer later =>
      RestsAt watch (standing.lend mediator (answer.getD 0)) later ∧
        later.Orderly ∧ ∀ granted, answer = some granted →
          Within minimal requested granted ∧
          (watch.Clear later → granted ≤ (standing.mediators mediator).room))
      (fun _ _ => False) := by
  obtain ⟨quota, isQuota, enforced⟩ :=
    hard _ List.mem_cons_self mediator (decide_eq_true rfl)
  refine ((Mediation.decides_grant rests isQuota requested minimal).and
    (Mediation.ranged_grant orderly mediator accepted)).mono
    ?_ (fun _ _ stopped => stopped.2)
  rintro answer later ⟨⟨lent, answered⟩, ordered, within⟩
  refine ⟨lent, ordered, fun granted given =>
    ⟨within granted given, fun clear => ?_⟩⟩
  rw [isQuota]
  exact Quota.le_room_of_passes enforced ((answered clear).symm.trans given)

section Sources

variable
    (bounds : below.Bounds layers)
    (stepwise : below.Stepwise)
    (ranged : below.Ranged)

include bounds stepwise ranged

theorem bounds_allocate
    {world : World}
    (rests : RestsAt watch standing world)
    (hard : standing.OnHardQuotas (.mediated mediator :: layers))
    (orderly : world.Orderly)
    (accepted : minimal ≤ requested)
    (size : requested ≤ Size.limit) :
    Ends (allocate mediator below requested minimal) world
      (MadeWell watch (standing.Bounds (.mediated mediator :: layers) 0))
      (fun _ _ => True) := by
  refine allocate_rule (fun granted =>
    MadeWell watch (standing.Bounds (.mediated mediator :: layers) 0))
    ((bounds_grant rests hard orderly accepted).imp fun _ _ granted => granted)
    (fun _ _ _ => Standing.bounds_none) ?called
    (fun _ _ _ => ends_of_forall (fun _ _ _ => Standing.bounds_none) fun _ _ =>
      trivial) ?short (fun _ _ _ well _ => well)
  case called =>
    rintro granted later ⟨lent, ordered, given⟩
    obtain ⟨within, share⟩ := given granted rfl
    have fits := Nat.le_trans within.2 size
    refine bounds.allocate_raised stepwise ranged lent
      (hard.tail.lend mediator granted) ordered within.1 fits
      fun clear new served affords => affords.mediated (share clear) ?_
    exact Nat.le_trans served.2 (Nat.le_add_left _ _)
  case short =>
    exact fun granted contents later well _ =>
      (Mediation.acts_free mediator _).ends_keeping well

theorem bounds_grow
    {bench : Workbench}
    (rests : RestsAt watch standing bench.world)
    (hard : standing.OnHardQuotas (.mediated mediator :: layers))
    (orderly : bench.world.Orderly)
    (accepted : minimal ≤ requested)
    (larger : bench.contents.size < requested) :
    Ends (grow mediator below requested minimal) bench (ResizedWell watch
      (standing.Bounds (.mediated mediator :: layers) bench.contents.size))
      (fun _ _ => True) := by
  refine grow_rule (fun granted met later => ResizedWell watch
    (standing.Bounds (.mediated mediator :: layers) bench.contents.size) met
    later) larger
    ((bounds_grant rests hard orderly (Nat.sub_le_sub_right accepted _)).imp
      fun _ _ granted => granted)
    (fun _ _ _ => Standing.bounds_none) (fun _ _ _ _ => trivial) ?called
    (fun _ _ _ => ends_of_forall (fun _ _ _ => Standing.bounds_none) fun _ _ =>
      trivial) (fun _ _ _ _ => trivial) ?settled
  case called =>
    rintro granted later ⟨lent, ordered, given⟩ fits
    obtain ⟨within, share⟩ := given granted rfl
    have enough : minimal ≤ bench.contents.size + granted := by
      have least := within.1
      omega
    exact bounds.resize_raised stepwise ranged { bench with world := later }
      lent (hard.tail.lend mediator granted) ordered enough fits
      fun clear _ resized affords => affords.mediated (share clear) resized.2
  case settled =>
    exact fun granted later well _ =>
      (Mediation.acts_free mediator _).ends_keeping well

omit bounds stepwise in
/-- A buffer that is to be no larger comes back no larger. -/
theorem bounds_shrink
    {bench : Workbench}
    (orderly : bench.world.Orderly)
    (accepted : minimal ≤ requested)
    (size : requested ≤ Size.limit)
    (within : requested ≤ bench.contents.size) :
    Ends (shrink mediator below requested minimal) bench (ResizedWell watch
      (standing.Bounds (.mediated mediator :: layers) bench.contents.size))
      (fun _ _ => True) := by
  exact (ranged_shrink ranged orderly accepted size within).imp
    fun _ _ resized => resized.bounds_of_le within

theorem bounds_resize
    {bench : Workbench}
    (rests : RestsAt watch standing bench.world)
    (hard : standing.OnHardQuotas (.mediated mediator :: layers))
    (orderly : bench.world.Orderly)
    (accepted : minimal ≤ requested)
    (size : requested ≤ Size.limit) :
    Ends (resize mediator below requested minimal) bench (ResizedWell watch
      (standing.Bounds (.mediated mediator :: layers) bench.contents.size))
      (fun _ _ => True) :=
  resize_rule (bounds_shrink ranged orderly accepted size)
    (bounds_grow bounds stepwise ranged rests hard orderly accepted)

theorem bounds_source (mediator : Nat) :
    (source mediator below).Bounds (.mediated mediator :: layers) where
  allocate := bounds_allocate bounds stepwise ranged
  resize := bounds_resize bounds stepwise ranged

end Sources

end Mediated

namespace Bypass

variable {mediator amount : Nat}

section Sources

variable
    (bounds : below.Bounds layers)
    (stepwise : below.Stepwise)
    (ranged : below.Ranged)

include bounds stepwise ranged

/--
What either attempt gets through the counting quota is bounded by what the
bypass has left.
-/
theorem bounds_counting :
    (Mediated.source mediator below).Bounds
      (.bypass mediator amount :: layers) :=
  (Mediated.bounds_source bounds stepwise ranged mediator).weaken
    (fun _ hard => Standing.OnHardQuotas.bypass hard)
    fun _ _ _ affords => affords.bypass

variable (atomic : below.Atomic)

include atomic

theorem bounds_allocate
    {world : World}
    (rests : RestsAt watch standing world)
    (hard : standing.OnHardQuotas (.bypass mediator amount :: layers))
    (orderly : world.Orderly)
    (accepted : minimal ≤ requested)
    (size : requested ≤ Size.limit) :
    Ends (allocate mediator amount below requested minimal) world
      (MadeWell watch (standing.Bounds (.bypass mediator amount :: layers) 0))
      (fun _ _ => True) := by
  have counting := @bounds_counting _ _ mediator amount bounds stepwise ranged
  refine allocate_rule
    (fun result later => ReturnsTo watch standing result later ∧
      Served minimal requested result later ∧
      MadeWell watch
        (standing.Bounds (.bypass mediator amount :: layers) 0) result later)
    ((rests_readAvailable rests).both
      ((ranged_readAvailable stepwise ranged orderly).imp fun _ _ read => read))
    ?first (fun _ _ made => made.2.2) ?again
  case first =>
    rintro rest later ⟨read, ordered⟩
    have raised := raiseMinimal_le requested minimal rest
    refine (Mediated.atomic_allocate atomic requested _ read).both
      (Ends.both ?_ ?_)
    · exact (Mediated.ranged_allocate ranged ordered raised size).imp
        fun _ _ served => served.widen (le_raiseMinimal accepted rest)
    · exact counting.allocate read hard ordered raised size
  case again =>
    rintro later ⟨returns, served, -⟩
    exact counting.allocate returns.rests hard served.1 accepted size

theorem bounds_resize
    {bench : Workbench}
    (rests : RestsAt watch standing bench.world)
    (hard : standing.OnHardQuotas (.bypass mediator amount :: layers))
    (orderly : bench.world.Orderly)
    (accepted : minimal ≤ requested)
    (size : requested ≤ Size.limit) :
    Ends (resize mediator amount below requested minimal) bench
      (ResizedWell watch (standing.Bounds
        (.bypass mediator amount :: layers) bench.contents.size))
      (fun _ _ => True) := by
  have counting := @bounds_counting _ _ mediator amount bounds stepwise ranged
  refine resize_rule
    (fun _ later => RestsAt watch standing later ∧ later.Orderly)
    (fun met later =>
      ResizingReturnsTo watch standing bench.contents met later ∧
      Resized bench.contents minimal requested met later ∧
      ResizedWell watch (standing.Bounds
        (.bypass mediator amount :: layers) bench.contents.size) met later)
    ((rests_readAvailable rests).both
      ((ranged_readAvailable stepwise ranged orderly).imp fun _ _ read => read))
    ?first (fun _ made => made.2.2) ?again
  case first =>
    rintro rest later ⟨read, ordered⟩
    have raised := raiseMinimal_le requested minimal rest
    let found : Workbench := { bench with world := later }
    refine Ends.both ?_ (Ends.both ?_ ?_)
    · exact @Mediated.atomic_resize below watch standing mediator atomic found
        requested _ read
    · exact (@Mediated.ranged_resize below mediator _ _ ranged found ordered
        raised size).imp
        fun _ _ resized => resized.widen (le_raiseMinimal accepted rest)
    · exact @Source.Bounds.resize _ _ counting _ _ found _ _ read hard
        ordered raised size
  case again =>
    rintro ⟨later, contents⟩ ⟨returns, resized, -⟩
    obtain rfl : contents = bench.contents := returns.same
    exact @Source.Bounds.resize _ _ counting _ _ { bench with world := later } _
      _ returns.rests hard resized.1 accepted size

theorem bounds_source (mediator amount : Nat) :
    (source mediator amount below).Bounds
      (.bypass mediator amount :: layers) where
  allocate := bounds_allocate bounds stepwise ranged atomic
  resize := bounds_resize bounds stepwise ranged atomic

end Sources

end Bypass

namespace Guaranteed

variable {mediator amount : Nat}

section Sources

variable
    (bounds : below.Bounds layers)
    (stepwise : below.Stepwise)
    (ranged : below.Ranged)

include bounds stepwise ranged

/--
What a guarantee grants in full is within what it has left, and no
more is granted.
-/
theorem bounds_allocate
    {world : World}
    (rests : RestsAt watch standing world)
    (hard : standing.OnHardQuotas (.guaranteed mediator amount :: layers))
    (orderly : world.Orderly)
    (size : requested ≤ Size.limit) :
    Ends (allocate mediator amount below requested) world (MadeWell watch
      (standing.Bounds (.guaranteed mediator amount :: layers) 0))
      (fun _ _ => True) := by
  have counted := Standing.OnHardQuotas.guaranteed hard
  have counting := Mediated.bounds_source bounds stepwise ranged mediator
  obtain ⟨quota, isQuota, -⟩ :=
    hard _ List.mem_cons_self mediator (decide_eq_true rfl)
  have read := rests.noteAll (Mediation.readLocks world mediator)
  refine allocate_rule (fun _ _ => Standing.bounds_none) fun enough => ?_
  refine counting.allocate_raised (Mediated.stepwise_source stepwise mediator)
    (Mediated.ranged_source ranged mediator) read counted
    (orderly.read mediator) (Nat.le_refl requested) size
    fun clear new within affords => affords.guaranteed ?_
  have left := @available_of_rests _ _ _ amount _ _ read isQuota clear
  have fits : requested ≤ (standing.mediators mediator).rest amount :=
    Nat.le_trans enough (Nat.le_of_eq left)
  exact Nat.le_trans within.2 (Nat.le_trans fits (Nat.le_add_left _ _))

theorem bounds_resize
    {bench : Workbench}
    (rests : RestsAt watch standing bench.world)
    (hard : standing.OnHardQuotas (.guaranteed mediator amount :: layers))
    (orderly : bench.world.Orderly)
    (size : requested ≤ Size.limit) :
    Ends (resize mediator amount below requested) bench
      (ResizedWell watch (standing.Bounds
        (.guaranteed mediator amount :: layers) bench.contents.size))
      (fun _ _ => True) := by
  have counted := Standing.OnHardQuotas.guaranteed hard
  have counting := Mediated.bounds_source bounds stepwise ranged mediator
  obtain ⟨quota, isQuota, -⟩ :=
    hard _ List.mem_cons_self mediator (decide_eq_true rfl)
  have read := rests.noteAll (Mediation.readLocks bench.world mediator)
  refine resize_rule (fun _ _ _ => Standing.bounds_none) (fun within => ?unread)
    (fun larger enough => ?read)
  case unread =>
    exact
      (Mediated.ranged_resize ranged orderly (Nat.le_refl requested) size).imp
      fun _ _ resized => resized.bounds_of_le within
  case read =>
    refine counting.resize_raised (Mediated.stepwise_source stepwise mediator)
      (Mediated.ranged_source ranged mediator) { bench with world := _ } read
      counted (orderly.read mediator) (Nat.le_refl requested) size
      fun clear new within affords =>
      affords.guaranteed (Nat.le_trans within.2 ?_)
    have left := @available_of_rests _ _ _ amount _ _ read isQuota clear
    have fits : requested - bench.contents.size ≤
        (standing.mediators mediator).rest amount :=
      Nat.le_trans enough (Nat.le_of_eq left)
    show requested ≤
      bench.contents.size + (standing.mediators mediator).rest amount
    omega

theorem bounds_source (mediator amount : Nat) :
    (source mediator amount below).Bounds
      (.guaranteed mediator amount :: layers) where
  allocate := fun rests hard orderly _ size =>
    bounds_allocate bounds stepwise ranged rests hard orderly size
  resize := fun rests hard orderly _ size =>
    bounds_resize bounds stepwise ranged rests hard orderly size

end Sources

end Guaranteed

namespace Tracked

variable
    {lineage : Lineage}
    {enforcing : Bool}
    (bounds : below.Bounds layers)
    (stepwise : below.Stepwise)
    (ranged : below.Ranged)
    (distinct : lineage.members.Nodup)

include bounds stepwise ranged distinct

/-- A size that is tried is bounded by the limits that admit its growth. -/
theorem bounds_resizeTo
    {bench : Workbench}
    (rests : RestsAt watch standing bench.world)
    (hard : standing.OnHardQuotas layers)
    (orderly : bench.world.Orderly)
    {target : Nat}
    (size : target ≤ Size.limit) :
    Ends (resizeTo lineage enforcing below bench.contents.size target) bench
      (ResizedWell watch (standing.Bounds
        (.tracked lineage enforcing :: layers) bench.contents.size))
      (fun _ _ => True) := by
  by_cases within : target ≤ bench.contents.size
  · exact (ranged_resizeTo ranged orderly size).imp
      fun _ _ resized => resized.bounds_of_le within
  · have larger := Nat.not_le.mp within
    rw [resizeTo, if_neg within]
    refine growTo_rule
      (fun admitted later => RestsAt watch (if admitted then standing.charge
        (Amount.ofSize (target - bench.contents.size)) lineage.members
        else standing) later ∧
        Decided watch (enforcing = true → target - bench.contents.size = 0 ∨
          standing.Admits lineage.members
            (Amount.ofSize (target - bench.contents.size)))
          admitted later ∧ later.Orderly)
      (ResizedWell watch (standing.Bounds
        (.tracked lineage enforcing :: layers) bench.contents.size))
      larger ?charged (fun _ _ _ => Standing.bounds_none) ?called
        (fun _ well => well)
      (fun _ _ =>
        ends_of_forall (fun _ _ _ => Standing.bounds_none) fun _ _ => trivial)
    case charged =>
      refine (rests_charge rests _).both
        ((decides_charge rests distinct _).both ?_)
      exact ((tracks_charge lineage enforcing _).orderly orderly).imp
        fun _ _ ordered => ordered
    case called =>
      rintro later ⟨charged, decided, ordered⟩
      refine bounds.resize_raised stepwise ranged { bench with world := later }
        charged (hard.charge _ _) ordered (Nat.le_refl target) size
        fun clear new within affords => affords.tracked fun enforces _ => ?_
      obtain rfl : new = target := Nat.le_antisymm within.2 within.1
      exact ((decided clear).mp rfl enforces).resolve_left
        (Nat.sub_ne_zero_of_lt larger)

variable (atomic : below.Atomic)

include atomic

theorem bounds_resizeFirst
    {bench : Workbench}
    (rests : RestsAt watch standing bench.world)
    (hard : standing.OnHardQuotas layers)
    (orderly : bench.world.Orderly)
    {targets : List Nat}
    (sizes : ∀ target ∈ targets, target ≤ Size.limit) :
    Ends (resizeFirst lineage enforcing below bench.contents.size targets) bench
      (ResizedWell watch (standing.Bounds
        (.tracked lineage enforcing :: layers) bench.contents.size))
      (fun _ _ => True) := by
  induction targets generalizing bench with
  | nil => exact fun _ => Standing.bounds_none
  | cons target rest ih =>
      have others :=
        fun other member => sizes other (List.mem_cons_of_mem target member)
      have fits := sizes target List.mem_cons_self
      refine resizeFirst_rule (fun met later =>
        ResizingReturnsTo watch standing bench.contents met later ∧
          Resized bench.contents target target met later ∧
          ResizedWell watch (standing.Bounds
            (.tracked lineage enforcing :: layers) bench.contents.size)
            met later)
        ?tried (fun _ tried => tried.2.2) ?again
      case tried =>
        refine (atomic_resizeTo atomic rests _ target).both (Ends.both ?_ ?_)
        · exact (ranged_resizeTo ranged orderly fits).imp
            fun _ _ resized => resized
        · exact bounds_resizeTo bounds stepwise ranged distinct rests
            hard orderly fits
      case again =>
        rintro later ⟨returns, resized, -⟩
        rw [← returns.same]
        exact ih returns.rests resized.1 others

theorem bounds_allocateFirst
    {world : World}
    (rests : RestsAt watch standing world)
    (hard : standing.OnHardQuotas layers)
    (orderly : world.Orderly)
    {targets : List Nat}
    (sizes : ∀ target ∈ targets, target ≤ Size.limit) :
    Ends (allocateFirst lineage enforcing below targets) world (MadeWell watch
      (standing.Bounds (.tracked lineage enforcing :: layers) 0))
      (fun _ _ => True) := by
  induction targets generalizing world with
  | nil => exact fun _ => Standing.bounds_none
  | cons target rest ih =>
      have others :=
        fun other member => sizes other (List.mem_cons_of_mem target member)
      have fits := sizes target List.mem_cons_self
      refine allocateFirst_rule (fun result later =>
        ReturnsTo watch (standing.charge (Amount.ofSize target) lineage.members)
          result later ∧
            Served target target result later ∧
            MadeWell watch
              (standing.Bounds (.tracked lineage enforcing :: layers) 0)
              result later)
        (fun later => RestsAt watch standing later ∧ later.Orderly)
        ((rests_charge rests target).both
          ((decides_charge rests distinct target).both
            (((tracks_charge lineage enforcing target).orderly orderly).imp
              fun _ _ ordered => ordered)))
        ?called (fun _ _ made => made.2.2) ?undone ?again
      case called =>
        rintro later ⟨charged, decided, ordered⟩
        refine (atomic.allocate target target charged).both (Ends.both ?_ ?_)
        · exact (ranged.allocate ordered (Nat.le_refl target) fits).imp
            fun _ _ served => served
        · refine bounds.allocate_raised stepwise ranged charged
            (hard.charge _ _) ordered (Nat.le_refl target) fits
            fun clear new within affords =>
            affords.tracked fun enforces larger => ?_
          obtain rfl : new = target := Nat.le_antisymm within.2 within.1
          exact ((decided clear).mp rfl enforces).resolve_left
            (Nat.ne_of_gt larger)
      case undone =>
        rintro later ⟨returns, served, -⟩
        exact (rests_discharge returns.rests).both
          (((tracks_discharge lineage target).orderly served.1).imp
            fun _ _ ordered => ordered)
      case again =>
        rintro later (⟨uncharged, -, ordered⟩ | ⟨discharged, ordered⟩)
        · exact ih uncharged ordered others
        · exact ih discharged ordered others

theorem bounds_source :
    (source lineage enforcing below).Bounds
      (.tracked lineage enforcing :: layers) where
  allocate := by
    intro watch standing world requested minimal rests hard
      orderly accepted size
    refine bounds_allocateFirst bounds stepwise ranged distinct atomic rests
      hard.tail orderly fun target member => ?_
    exact Nat.le_trans (within_of_mem_targets accepted member).2 size
  resize := by
    intro watch standing bench requested minimal rests hard
      orderly accepted size
    refine (ends_bind Resizing.size _).mpr ?_
    refine bounds_resizeFirst bounds stepwise ranged distinct atomic rests
      hard.tail orderly fun target member => ?_
    exact Nat.le_trans (within_of_mem_targets accepted member).2 size

end Tracked

theorem Clearing.bounds_source (bounds : below.Bounds layers) :
    (source below).Bounds layers where
  allocate := by
    intro watch standing world requested minimal rests hard
      orderly accepted size
    refine allocate_rule
      ((bounds.allocate rests hard orderly accepted size).imp ?_)
    intro result later well clear new granted
    refine well clear new ?_
    rw [Option.map_map] at granted
    simpa only [Function.comp_def, Contents.size_fill] using granted
  resize := by
    intro watch standing bench requested minimal rests hard
      orderly accepted size
    refine resize_rule (bounds.resize rests hard orderly accepted size)
      (fun _ _ well _ => well) (fun later well _ clear => ?_)
    refine Standing.bounds_some ?_
    rw [Contents.size_zeroFrom]
    exact well clear later.contents.size rfl

theorem Tallied.bounds_source (bounds : below.Bounds layers) (tally : Nat) :
    (source tally below).Bounds layers where
  allocate := fun rests hard orderly accepted size =>
    allocate_rule (bounds.allocate rests hard orderly accepted size)
      (fun _ _ well => well) (fun _ well => well)
  resize := fun rests hard orderly accepted size => resize_rule
    (bounds.resize rests hard orderly accepted size) (fun _ _ well _ => well)
    (fun _ _ well _ => well) (fun _ well _ _ => well) (fun _ _ well _ _ => well)

theorem Locked.bounds_source (bounds : below.Bounds layers) (lock : Nat) :
    (source lock below).Bounds layers where
  allocate := by
    intro watch standing world requested minimal rests hard
      orderly accepted size
    refine (ends_holding _ _).mpr ?_
    have acquired : (world.note (.acquired (.layer lock))).Orderly :=
      orderly.note trivial
    refine (bounds.allocate (rests.note _) hard acquired accepted size).imp ?_
    intro result later well clear
    exact well (@Watch.Clear.of_append watch later _ clear [_] rfl)
  resize := by
    intro watch standing bench requested minimal rests hard
      orderly accepted size
    refine (ends_holdingResizing _ _).mpr ?_
    have acquired : (bench.world.note (.acquired (.layer lock))).Orderly :=
      orderly.note trivial
    refine (@Source.Bounds.resize _ _ bounds _ _ { bench with world := _ } _ _
      (rests.note _) hard acquired accepted size).imp ?_
    intro met later well clear
    exact well (@Watch.Clear.of_append watch later.world _ clear [_] rfl)

end Layers

/-- A layer over a source that bounds what it grants bounds it too. -/
theorem Layer.bounds_over
    {layer : Layer}
    (genuine : layer.Genuine)
    {below : Source}
    {layers : List Layer}
    (bounds : below.Bounds layers)
    (stepwise : below.Stepwise)
    (ranged : below.Ranged)
    (atomic : below.Atomic) :
    (layer.over below).Bounds (layer :: layers) := by
  cases layer with
  | mediated mediator =>
      exact Mediated.bounds_source bounds stepwise ranged mediator
  | clearing =>
      exact (Clearing.bounds_source bounds).congr fun _ => rfl
  | bypass mediator amount =>
      exact Bypass.bounds_source bounds stepwise ranged atomic mediator amount
  | tallied tally =>
      exact (Tallied.bounds_source bounds tally).congr fun _ => rfl
  | tracked lineage enforcing =>
      exact Tracked.bounds_source bounds stepwise ranged genuine atomic
  | locked lock =>
      exact (Locked.bounds_source bounds lock).congr fun _ => rfl
  | relay => exact bounds.congr fun _ => rfl
  | guaranteed mediator amount =>
      exact Guaranteed.bounds_source bounds stepwise ranged mediator amount
  | probe number screen => exact genuine.elim

/-- Every genuine allocator bounds what it grants by what it has left. -/
theorem Allocator.bounds_source
    {allocator : Allocator}
    (genuine : allocator.Genuine)
    (countable : allocator.heap.Countable) :
    allocator.source.Bounds allocator.layers := by
  obtain ⟨layers, heap⟩ := allocator
  induction layers with
  | nil => exact (Heap.bounds_source countable).noting .heap
  | cons layer layers ih =>
      have below := ih (fun other member =>
        genuine other (List.mem_cons_of_mem layer member)) countable
      exact (Layer.bounds_over (genuine layer List.mem_cons_self) below
        (Allocator.stepwise_source { layers, heap })
        (Allocator.ranged_source { layers, heap })
        (Allocator.atomic_source { layers, heap })).noting (.layer layer)

/-- The quotas that an allocator charges are all enforced. -/
def Allocator.OnHardQuotas (allocator : Allocator) (world : World) : Prop :=
  ∀ layer ∈ allocator.layers, ∀ mediator, layer.charges mediator = true →
    ∃ quota, world.Enforces mediator quota

namespace Session

variable {world : World} {allocator : Allocator}

/--
Enforced quotas are standings of enforced quotas, whatever sized calls are made.
-/
theorem onHardQuotas_standing
    (fresh : world.Fresh)
    {calls : List Call}
    (sized : ∀ call ∈ calls, call.Sized)
    (hard : allocator.OnHardQuotas world) :
    ((start world).performAll calls).world.standing.OnHardQuotas
      allocator.layers := by
  intro layer member key charges
  have enforced : ∀ other ∈ [key], ∃ quota, world.Enforces other quota :=
    List.forall_mem_singleton.mpr (hard layer member key charges)
  obtain ⟨quota, enforces, -⟩ :=
    limits_performAll fresh sized enforced key List.mem_cons_self
  exact ⟨quota, congrArg Mediator.standing enforces.entry, enforces.enforced⟩

theorem onQuotas_of_hard
    (fresh : world.Fresh)
    {calls : List Call}
    (sized : ∀ call ∈ calls, call.Sized)
    (hard : allocator.OnHardQuotas world) :
    allocator.OnQuotas ((start world).performAll calls).world := by
  intro layer member key charges
  have enforced : ∀ other ∈ [key], ∃ quota, world.Enforces other quota :=
    List.forall_mem_singleton.mpr (hard layer member key charges)
  obtain ⟨quota, enforces, -⟩ :=
    limits_performAll fresh sized enforced key List.mem_cons_self
  exact ⟨quota, enforces.entry⟩

/--
In a session that has come about by any sized calls, from any accounts that are
fresh, what an allocator reports to have left bounds every request that is put
to it next: a new buffer is no larger, and a buffer that is resized grows by no
more.  The quotas that its layers charge are enforced, the heap serves no size
that a tracker could not count, and the request takes no tracker past the
greatest amount where its limit would let that pass.
-/
theorem available_bounds_grants
    (fresh : world.Fresh)
    {calls : List Call}
    (sized : ∀ call ∈ calls, call.Sized)
    (genuine : allocator.Genuine)
    (countable : allocator.heap.Countable)
    (hard : allocator.OnHardQuotas world) :
    let session := (start world).performAll calls
    ∀ left, allocator.available session.world = .ok left →
      ∀ call held, session.Puts allocator call held →
        ∀ requested minimal, call.request? = some (requested, minimal) →
          minimal ≤ requested → requested ≤ Size.limit →
          (∀ event ∈ (session.perform call).2.world.since session.world.age,
            event.breaches session.limits = false) →
          ∀ size, (session.perform call).1.met? = some size →
            size ≤ held.getD 0 + left := by
  intro session left reported call held puts requested minimal request accepted
    fits contained size met
  have rests := rests_of_measured (measured_performAll fresh.measured calls)
  have bounds := Allocator.bounds_source genuine countable
  have standsHard := onHardQuotas_standing fresh sized hard
  have orderly := orderly_performAll fresh sized
  let good := session.world.standing.Bounds allocator.layers (held.getD 0)
  have told : Told (session.world.watch (Event.breaches session.limits)) good
      (fun _ => True) (session.perform call) := by
    refine puts.told request accepted ?made ?resized
    case made =>
      rintro rfl
      exact (bounds.allocate rests standsHard orderly accepted fits).mono
        (fun _ _ well => well) fun _ _ _ _ => trivial
    case resized =>
      rintro contents rfl
      exact (@Source.Bounds.resize _ _ bounds _ _
        { world := session.world, contents } _ _ rests
        standsHard orderly accepted fits).mono
        (fun _ _ well => well) fun _ _ _ _ => trivial
  have affords := (told (puts.changes.clear contained)).met size met size rfl
  refine affords.within left ?_
  rw [← Allocator.available_eq_standing (onQuotas_of_hard fresh sized hard)]
  exact reported

/--
Of 20 bytes that a ceiling has been lowered to, 8 are held, and 12 are reported
to be left: a request for 40 that can do with one byte gets those 12, and the
buffer grows by them.
-/
theorem available_bounds_grants_below_a_lowered_ceiling :
    let allocator : Allocator :=
      { layers := [.bypass 0 4, .mediated 1, .tracked ⟨0, [1]⟩ true,
        .guaranteed 2 60], heap := .standard }
    let world : World := .start [.unlimited,
      .ofQuota (.ofCeiling 30 true false), .ofQuota (.ofCeiling 60 true false)]
      [.fresh "" (some 50), .fresh "" none]
    let session :=
      (start world).performAll [.allocate 0 allocator 8 8, .setCeiling 1 20]
    allocator.available session.world = .ok 12 ∧
      (session.perform (.allocate 1 allocator 40 1)).1.met? = some 12 ∧
        12 ≤ 0 + 12 ∧
      (session.perform (.resizeSlot 0 allocator 40 1)).1.met? = some 20 ∧
        20 ≤ 8 + 12 := by
  intro allocator world session
  let calls : List Call := [.allocate 0 allocator 8 8, .setCeiling 1 20]
  have fresh : world.Fresh :=
    .start_quotas [.ofCeiling Size.limit true false, .ofCeiling 30 true false,
      .ofCeiling 60 true false] (by decide) (by decide)
  have sized : ∀ call ∈ calls, call.Sized := by
    simp [calls, Call.Sized, Size.limit]
  have genuine : allocator.Genuine := by
    simp [allocator, Allocator.Genuine, Layer.Genuine, Lineage.members]
  have countable : allocator.heap.Countable := by
    intro size serves
    have below : size < 281474976710656 := of_decide_eq_true serves
    unfold Amount.greatest
    omega
  have hard : allocator.OnHardQuotas world := by
    intro layer _ mediator _
    rcases mediator with _ | _ | _ | _
    all_goals exact ⟨_, rfl, rfl⟩
  have reported : allocator.available session.world =
      .ok 12 := by decide +kernel
  have empty : (session.shelf.find? 1).map Buffer.size =
      none := by decide +kernel
  have found : (session.shelf.find? 0).map Buffer.size =
      some 8 := by decide +kernel
  obtain ⟨buffer, held, size⟩ := Option.map_eq_some_iff.mp found
  have made :
      (session.perform (.allocate 1 allocator 40 1)).1.met? = some 12 := by
    decide +kernel
  have grown :
      (session.perform (.resizeSlot 0 allocator 40 1)).1.met? = some 20 := by
    decide +kernel
  have bounded :=
    available_bounds_grants fresh sized genuine countable hard 12 reported
  refine ⟨reported, made, ?_, grown, ?_⟩
  · exact bounded _ none (.allocate (Option.map_eq_none_iff.mp empty)) 40 1 rfl
      (by decide) (by decide) (by decide +kernel) 12 made
  · have resized :
        session.Puts allocator (.resizeSlot 0 allocator 40 1) (some 8) :=
      size ▸ .resizeSlot held
    exact bounded _ (some 8) resized 40 1 rfl
      (by decide) (by decide) (by decide +kernel) 20 grown

end Session

end BufferBudget
