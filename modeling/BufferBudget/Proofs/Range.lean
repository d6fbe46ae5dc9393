import BufferBudget.Proofs.Change
import BufferBudget.Proofs.Rules

/-!
# Sizes stay within what was asked for

A request names the least that it accepts and what it asks for, and every layer
rewrites both before it asks the source below.  The contract of a source is that
a request which accepts no more than it asks for is met, if at all, with a size
between the two; that every call made below in the course of it is again such a
request; and that no sum or difference of sizes leaves its range on the way.
The one kind of fault that is left is an overflow in the arithmetic of trackers.

`Ranged` states the contract.  The heap meets it, and every layer meets it over
a source that does.
-/

namespace BufferBudget

/--
The numbers of a quota are sizes, and any other mediator grants no more than
it is asked for.
-/
def Mediator.Sound : Mediator → Prop
  | .ofQuota quota => quota.usage ≤ Size.limit ∧ quota.ceiling ≤ Size.limit
  | .ofArbiter arbiter =>
      ∀ history requested minimal,
        arbiter.policy history requested minimal ≤ requested

namespace Mediator

/--
A sound mediator has an answer to every request that accepts no more
than it asks for.
-/
theorem allocate_of_sound
    {mediator : Mediator}
    (sound : mediator.Sound)
    {requested minimal : Nat}
    (accepted : minimal ≤ requested) :
    ∃ granted next, mediator.allocate requested minimal = .ok (granted, next) ∧
      granted ≤ requested ∧ next.Sound := by
  cases mediator with
  | ofQuota quota =>
      have fits := quota.usage_add_grant_le requested minimal sound.1 sound.2
      refine ⟨quota.grant requested minimal, .ofQuota
        { quota with usage := quota.usage + quota.grant requested minimal }, ?_,
        quota.grant_le accepted, fits, sound.2⟩
      have inOrder : ¬requested < minimal := Nat.not_lt.mpr accepted
      simp only [allocate, Quota.allocate, if_neg inOrder, Size.add_of_le fits]
      rfl
  | ofArbiter arbiter =>
      exact ⟨arbiter.grant requested minimal, _, rfl, sound _ _ _, sound⟩

theorem Sound.free
    {mediator : Mediator}
    (sound : mediator.Sound)
    (amount : Nat) :
    (mediator.free amount).Sound := by
  cases mediator with
  | ofQuota quota => exact ⟨Nat.le_trans (Nat.sub_le _ _) sound.1, sound.2⟩
  | ofArbiter arbiter => exact sound

theorem Sound.setCeiling
    {mediator : Mediator}
    (sound : mediator.Sound)
    {ceiling : Nat}
    (size : ceiling ≤ Size.limit) :
    (mediator.setCeiling ceiling).Sound := by
  cases mediator with
  | ofQuota quota => exact ⟨sound.1, size⟩
  | ofArbiter arbiter => exact sound

end Mediator

/--
A size lies between the least that a request accepts and what it asks for.
-/
def Within (minimal requested size : Nat) : Prop :=
  minimal ≤ size ∧ size ≤ requested

/--
What a request noted on the trail keeps to: it accepts no more than it asks for,
and what it is met with lies between the two.
-/
def Event.Proper : Event → Prop
  | .called _ (.allocated requested minimal size) =>
      minimal ≤ requested ∧ ∀ granted ∈ size, Within minimal requested granted
  | .called _ (.resized requested minimal met _ new) =>
      minimal ≤ requested ∧ (met = true → Within minimal requested new)
  | .mediated _ (.allocated requested minimal granted) =>
      minimal ≤ requested ∧ granted ≤ requested
  | _ => True

theorem Event.Aside.proper {event : Event} (aside : event.Aside) :
    event.Proper := by
  cases event with
  | called site call => exact aside.elim
  | mediated mediator call => exact aside.elim
  | emitted diagnostic => exact trivial
  | acquired lock => exact trivial
  | released lock => exact trivial
  | tracked tracker call => exact trivial
  | weighed tracker total => exact trivial

/-- All mediators are sound, and all requests so far were proper. -/
structure World.Orderly (world : World) : Prop where
  mediators : ∀ key, (world.mediators.entry key).Sound
  trail : ∀ event ∈ world.trail, event.Proper

namespace World.Orderly

variable {world : World}

theorem note (orderly : world.Orderly) {event : Event} (proper : event.Proper) :
    (world.note event).Orderly where
  mediators := orderly.mediators
  trail := by
    intro other member
    rcases List.mem_cons.mp member with rfl | earlier
    · exact proper
    · exact orderly.trail other earlier

theorem noteAll
    (orderly : world.Orderly)
    {events : List Event}
    (proper : ∀ event ∈ events, event.Proper) :
    (world.noteAll events).Orderly :=
  World.noteAll_preserves
    (fun event member _ ordered => ordered.note (proper event member)) orderly

theorem setMediator
    (orderly : world.Orderly)
    {mediator : Nat}
    {account : Mediator}
    (sound : account.Sound) :
    (world.setMediator mediator account).Orderly where
  mediators := by
    intro key
    rw [World.entry_mediators_setMediator]
    split
    · exact sound
    · exact orderly.mediators key
  trail := orderly.trail

theorem around
    {change : World → World}
    {later : World}
    (orderly : world.Orderly)
    (came : world.Around change later)
    (keeps : ∀ middle : World, middle.mediators = world.mediators →
      middle.Orderly → (change middle).Orderly) :
    later.Orderly := by
  obtain ⟨before, after, quietBefore, quietAfter, rfl⟩ := came
  have entered : (world.noteAll before).Orderly :=
    orderly.noteAll fun event member => (quietBefore event member).aside.proper
  exact (keeps (world.noteAll before) rfl entered).noteAll
    fun event member => (quietAfter event member).aside.proper

theorem repay (orderly : world.Orderly) (mediator amount : Nat) :
    (world.repay mediator amount).Orderly :=
  (orderly.setMediator ((orderly.mediators mediator).free amount)).note trivial

theorem grant
    (orderly : world.Orderly)
    {mediator requested minimal granted : Nat}
    {next : Mediator}
    (accepted : minimal ≤ requested)
    (capped : granted ≤ requested)
    (sound : next.Sound) :
    (world.grant mediator requested minimal granted next).Orderly :=
  (orderly.setMediator sound).note ⟨accepted, capped⟩

theorem read (orderly : world.Orderly) (mediator : Nat) :
    (world.noteAll (Mediation.readLocks world mediator)).Orderly :=
  orderly.noteAll fun _ member =>
    (Mediation.quiet_of_mem_readLocks member).aside.proper

/-- Order is a matter of the mediators and the trail alone. -/
theorem of_same
    {other : World}
    (orderly : world.Orderly)
    (sameMediators : other.mediators = world.mediators)
    (sameTrail : other.trail = world.trail) :
    other.Orderly where
  mediators := sameMediators ▸ orderly.mediators
  trail := sameTrail ▸ orderly.trail

/-- Nothing that is done to trackers puts a world out of order. -/
theorem trackerSteps
    {trackers : List Nat}
    {later : World}
    (orderly : world.Orderly)
    (steps : Relation.ReflTransGen (World.TrackerStep trackers) world later) :
    later.Orderly := by
  induction steps with
  | refl => exact orderly
  | tail _ step ih =>
      cases step with
      | note event aside => exact ih.note aside.proper
      | store member consumption => exact ih.of_same rfl rfl
      | reach member consumption => exact ih.of_same rfl rfl

end World.Orderly

/--
A request has ended in order, with a buffer of a size within the
request or with none.
-/
def Served
    (minimal requested : Nat)
    (result : Option Contents)
    (later : World) : Prop :=
  later.Orderly ∧ ∀ contents, result = some contents →
    Within minimal requested contents.size

/--
A resizing has ended in order: it has left a size within the request, or the
buffer as it was.
-/
def Resized
    (contents : Contents)
    (minimal requested : Nat)
    (met : Bool)
    (later : Workbench) : Prop :=
  later.world.Orderly ∧
    if met = true then Within minimal requested later.contents.size
    else later.contents = contents

/-- A call has stopped in order, at the arithmetic of a tracker. -/
def Stopped (fault : Fault) (later : World) : Prop :=
  later.Orderly ∧ fault.OfAmount

/--
A resizing has stopped in order, with a buffer that is not larger
than some size.
-/
def StoppedResizing (bound : Nat) (fault : Fault) (later : Workbench) : Prop :=
  Stopped fault later.world ∧ later.contents.size ≤ bound

/-- The contract of a source about sizes. -/
structure Source.Ranged (source : Source) : Prop where
  available : ∀ {world fault},
    source.available world = .error fault → fault.OfAmount
  allocate : ∀ {world requested minimal}, world.Orderly → minimal ≤ requested →
    requested ≤ Size.limit →
    Ends (source.allocate requested minimal) world
      (Served minimal requested) Stopped
  resize : ∀ {bench requested minimal}, bench.world.Orderly →
    minimal ≤ requested →
    requested ≤ Size.limit →
    Ends (source.resize requested minimal) bench
      (Resized bench.contents minimal requested)
      (StoppedResizing (max bench.contents.size requested))
  free : ∀ {world} size, world.Orderly →
    Ends (source.free size) world (fun _ later => later.Orderly) Stopped

section Postconditions

variable
    {minimal requested : Nat}
    {contents : Contents}
    {bench : Workbench}
    {world : World}

theorem served_none (orderly : world.Orderly) :
    Served minimal requested none world :=
  ⟨orderly, fun _ impossible => nomatch impossible⟩

theorem served_some
    (orderly : world.Orderly)
    (within : Within minimal requested contents.size) :
    Served minimal requested (some contents) world := by
  refine ⟨orderly, ?_⟩
  rintro _ ⟨⟩
  exact within

theorem Served.within
    (served : Served minimal requested (some contents) world) :
    Within minimal requested contents.size :=
  served.2 contents rfl

theorem resized_true
    (orderly : bench.world.Orderly)
    (within : Within minimal requested bench.contents.size) :
    Resized contents minimal requested true bench :=
  ⟨orderly, within⟩

theorem resized_false
    (orderly : bench.world.Orderly)
    (same : bench.contents = contents) :
    Resized contents minimal requested false bench :=
  ⟨orderly, same⟩

theorem Resized.within
    (resized : Resized contents minimal requested true bench) :
    Within minimal requested bench.contents.size :=
  resized.2

theorem Resized.same
    (resized : Resized contents minimal requested false bench) :
    bench.contents = contents :=
  resized.2

/-- A size within a narrower request is within the wider one. -/
theorem Within.widen
    {narrowMinimal narrowRequested size : Nat}
    (within : Within narrowMinimal narrowRequested size)
    (least : minimal ≤ narrowMinimal)
    (most : narrowRequested ≤ requested) :
    Within minimal requested size :=
  ⟨Nat.le_trans least within.1, Nat.le_trans within.2 most⟩

theorem Served.widen
    {narrowMinimal : Nat}
    {result : Option Contents}
    (served : Served narrowMinimal requested result world)
    (least : minimal ≤ narrowMinimal) :
    Served minimal requested result world :=
  ⟨served.1, fun contents made =>
    (served.2 contents made).widen least (Nat.le_refl requested)⟩

theorem Resized.widen
    {narrowMinimal : Nat}
    {met : Bool}
    (resized : Resized contents narrowMinimal requested met bench)
    (least : minimal ≤ narrowMinimal) :
    Resized contents minimal requested met bench := by
  cases met with
  | false => exact resized_false resized.1 resized.same
  | true => exact resized_true resized.1 (resized.within.widen least
    (Nat.le_refl requested))

theorem StoppedResizing.weaken
    {bound weaker : Nat}
    {fault : Fault}
    (stopped : StoppedResizing bound fault bench)
    (less : bound ≤ weaker) :
    StoppedResizing weaker fault bench :=
  ⟨stopped.1, Nat.le_trans stopped.2 less⟩

end Postconditions

/--
An operation that only does things to trackers ends in order where it
began in order.
-/
theorem Operation.Tracks.orderly
    {α : Type}
    {operation : Operation α}
    {world : World}
    {trackers : List Nat}
    (tracks : operation.Tracks trackers)
    (orderly : world.Orderly) :
    Ends operation world (fun _ later => later.Orderly) Stopped :=
  (tracks world).mono (fun _ _ steps => orderly.trackerSteps steps)
    (fun _ _ stopped => ⟨orderly.trackerSteps stopped.1, stopped.2⟩)

theorem Served.proper
    {minimal requested : Nat}
    {result : Option Contents}
    {later : World}
    (served : Served minimal requested result later)
    (accepted : minimal ≤ requested)
    (site : Site) :
    (Event.called site
      (.allocated requested minimal (result.map (·.size)))).Proper := by
  refine ⟨accepted, fun granted member => ?_⟩
  obtain ⟨contents, some, rfl⟩ := Option.map_eq_some_iff.mp member
  exact served.2 contents some

theorem Resized.proper
    {contents : Contents}
    {minimal requested : Nat}
    {met : Bool}
    {later : Workbench}
    (resized : Resized contents minimal requested met later)
    (accepted : minimal ≤ requested)
    (site : Site)
    (old : Nat) :
    (Event.called site
      (.resized requested minimal met old later.contents.size)).Proper := by
  refine ⟨accepted, ?_⟩
  rintro rfl
  exact resized.within

theorem Source.Ranged.noting
    {source : Source}
    (ranged : source.Ranged)
    (site : Site) :
    (source.noting site).Ranged where
  available := ranged.available
  allocate := by
    intro world requested minimal orderly accepted size
    apply noting_allocate_rule
    exact (ranged.allocate orderly accepted size).mono (fun _ _ served =>
      ⟨served.1.note (served.proper accepted site), served.2⟩)
      (fun _ _ stopped => stopped)
  resize := by
    intro bench requested minimal orderly accepted size
    apply noting_resize_rule
    exact (ranged.resize orderly accepted size).mono (fun _ _ resized =>
      ⟨resized.1.note (resized.proper accepted site _), resized.2⟩)
      (fun _ _ stopped => stopped)
  free := by
    intro world size orderly
    exact noting_free_rule (ranged.free size (orderly.note trivial))

theorem Heap.ranged_source (heap : Heap) : heap.source.Ranged where
  available := fun failed => nomatch failed
  allocate := by
    intro world requested minimal orderly accepted _
    refine allocate_rule (fun _ => served_none orderly)
      (fun _ => served_some orderly ?_)
    rw [Contents.size_fresh]
    exact ⟨accepted, Nat.le_refl requested⟩
  resize := by
    intro bench requested minimal orderly accepted _
    refine resize_rule (fun _ _ => resized_false orderly rfl)
      (fun larger _ => ?_) (fun smaller => ?_) (fun same => ?_)
    · refine resized_true orderly ?_
      rw [Contents.size_extend _ (Nat.le_of_lt larger)]
      exact ⟨accepted, Nat.le_refl requested⟩
    · refine resized_true orderly ?_
      rw [Contents.size_truncate _ (Nat.le_of_lt smaller)]
      exact ⟨accepted, Nat.le_refl requested⟩
    · exact resized_true orderly (same ▸ ⟨accepted, Nat.le_refl requested⟩)
  free := fun _ orderly => orderly

namespace Mediation

variable {world : World}

theorem orderly_allocate
    (orderly : world.Orderly)
    (mediator : Nat)
    {requested minimal : Nat}
    (accepted : minimal ≤ requested) :
    Ends (allocate mediator requested minimal) world
      (fun granted later => later.Orderly ∧ granted ≤ requested)
      (fun _ _ => False) := by
  obtain ⟨granted, next, answer, capped, sound⟩ :=
    Mediator.allocate_of_sound (orderly.mediators mediator) accepted
  refine (ends_allocate answer).sure ?_
  rintro value later ⟨rfl, came⟩
  exact ⟨orderly.around came fun _ _ ordered =>
    ordered.grant accepted capped sound, capped⟩

theorem orderly_free (orderly : world.Orderly) (mediator amount : Nat) :
    Ends (free mediator amount) world (fun _ later => later.Orderly)
      (fun _ _ => False) := by
  refine (ends_free mediator amount world).sure ?_
  intro _ later came
  exact orderly.around came fun _ _ ordered => ordered.repay mediator amount

/-- A grant that is passed on lies within the request. -/
theorem ranged_grant
    (orderly : world.Orderly)
    (mediator : Nat)
    {requested minimal : Nat}
    (accepted : minimal ≤ requested) :
    Ends (grant mediator requested minimal) world
      (fun answer later => later.Orderly ∧
        ∀ granted, answer = some granted → Within minimal requested granted)
      (fun _ _ => False) := by
  refine grant_rule (fun empty => ?_)
    (fun _ => orderly_allocate orderly mediator accepted) ?_ ?_ ?_
  · refine ⟨orderly, ?_⟩
    rintro _ ⟨⟩
    exact ⟨empty ▸ accepted, Nat.zero_le requested⟩
  · rintro granted later ⟨ordered, capped⟩ enough
    refine ⟨ordered, ?_⟩
    rintro _ ⟨⟩
    exact ⟨enough, capped⟩
  · rintro granted later ⟨ordered, -⟩ - -
    exact (orderly_free ordered mediator granted).sure
      (fun _ _ last => ⟨last, fun _ impossible => nomatch impossible⟩)
  · rintro later ⟨ordered, -⟩ -
    exact ⟨ordered, fun _ impossible => nomatch impossible⟩

end Mediation

namespace Mediated

variable {below : Source} {mediator requested minimal : Nat}

theorem ranged_allocate
    (ranged : below.Ranged)
    {world : World}
    (orderly : world.Orderly)
    (accepted : minimal ≤ requested)
    (size : requested ≤ Size.limit) :
    Ends (allocate mediator below requested minimal) world
      (Served minimal requested) Stopped := by
  refine allocate_rule (fun granted result later => granted ≤ requested ∧
    Served minimal granted result later)
    ((Mediation.ranged_grant orderly mediator accepted).sure
      (fun _ _ granted => granted)) ?denied ?called ?refused ?short ?full
  case denied =>
    rintro later ⟨ordered, -⟩
    exact served_none ordered
  case called =>
    rintro granted later ⟨ordered, capped⟩
    obtain ⟨enough, fitting⟩ := capped granted rfl
    exact (ranged.allocate ordered enough (Nat.le_trans fitting size)).mono
      (fun _ _ served => ⟨fitting, served⟩) (fun _ _ stopped => stopped)
  case refused =>
    rintro granted later ⟨-, ordered, -⟩
    exact (Mediation.orderly_free ordered mediator granted).sure
      (fun _ _ => served_none)
  case short =>
    rintro granted contents later ⟨fitting, served⟩ -
    have within := served.within.widen (Nat.le_refl minimal) fitting
    exact (Mediation.orderly_free served.1 mediator _).sure
      (fun _ _ ordered => served_some ordered within)
  case full =>
    rintro granted contents later ⟨fitting, served⟩ -
    exact served_some served.1
      (served.within.widen (Nat.le_refl minimal) fitting)

theorem ranged_shrink
    (ranged : below.Ranged)
    {bench : Workbench}
    (orderly : bench.world.Orderly)
    (accepted : minimal ≤ requested)
    (size : requested ≤ Size.limit)
    (smaller : requested ≤ bench.contents.size) :
    Ends (shrink mediator below requested minimal) bench
      (Resized bench.contents minimal requested)
      (StoppedResizing (max bench.contents.size requested)) := by
  refine shrink_rule (ranged.resize orderly accepted size) ?refused ?grown ?cut
  case refused => exact fun _ resized => resized
  case grown =>
    intro later resized larger
    exact absurd (Nat.le_trans resized.within.2 smaller) (Nat.not_le.mpr larger)
  case cut =>
    intro later resized _
    exact (Mediation.orderly_free resized.1 mediator _).sure
      (fun _ _ ordered => resized_true ordered resized.within)

theorem ranged_grow
    (ranged : below.Ranged)
    {bench : Workbench}
    (orderly : bench.world.Orderly)
    (accepted : minimal ≤ requested)
    (size : requested ≤ Size.limit)
    (larger : bench.contents.size < requested) :
    Ends (grow mediator below requested minimal) bench
      (Resized bench.contents minimal requested)
      (StoppedResizing (max bench.contents.size requested)) := by
  have inOrder : minimal - bench.contents.size ≤
      requested - bench.contents.size := by omega
  refine grow_rule
    (fun granted met later => bench.contents.size + granted ≤ requested ∧
      Resized bench.contents minimal (bench.contents.size + granted) met later)
    larger
    ((Mediation.ranged_grant orderly mediator inOrder).sure
      (fun _ _ granted => granted))
    ?denied ?beyond ?called ?refused ?excess ?settled
  case denied =>
    rintro later ⟨ordered, -⟩
    exact resized_false ordered rfl
  case beyond =>
    rintro granted later ⟨-, capped⟩ beyond
    have fitting := (capped granted rfl).2
    omega
  case called =>
    rintro granted later ⟨ordered, capped⟩ fits
    obtain ⟨enough, fitting⟩ := capped granted rfl
    have inside : bench.contents.size + granted ≤ requested := by omega
    refine (ranged.resize ordered (by omega) fits).mono
      (fun _ _ resized => ⟨inside, resized⟩)
      (fun _ _ stopped => stopped.weaken ?_)
    show max bench.contents.size (bench.contents.size + granted) ≤ _
    omega
  case refused =>
    rintro granted later ⟨-, resized⟩
    exact (Mediation.orderly_free resized.1 mediator granted).sure
      (fun _ _ ordered => resized_false ordered resized.same)
  case excess =>
    rintro granted later ⟨-, resized⟩ above
    exact absurd resized.within.2 (Nat.not_le.mpr above)
  case settled =>
    rintro granted later ⟨inside, resized⟩ -
    have within := resized.within.widen (Nat.le_refl minimal) inside
    exact (Mediation.orderly_free resized.1 mediator _).sure
      (fun _ _ ordered => resized_true ordered within)

theorem ranged_resize
    (ranged : below.Ranged)
    {bench : Workbench}
    (orderly : bench.world.Orderly)
    (accepted : minimal ≤ requested)
    (size : requested ≤ Size.limit) :
    Ends (resize mediator below requested minimal) bench
      (Resized bench.contents minimal requested)
      (StoppedResizing (max bench.contents.size requested)) :=
  resize_rule (ranged_shrink ranged orderly accepted size)
    (ranged_grow ranged orderly accepted size)

theorem ranged_free
    (ranged : below.Ranged)
    {world : World}
    (size : Nat)
    (orderly : world.Orderly) :
    Ends (free mediator below size) world
      (fun _ later => later.Orderly) Stopped :=
  free_rule ((Mediation.orderly_free orderly mediator size).sure
    (fun _ _ ordered => ordered)) fun _ ordered => ranged.free size ordered

theorem ofAmount_available
    (ranged : below.Ranged)
    {world : World}
    {fault : Fault}
    (failed : available mediator below world = .error fault) :
    fault.OfAmount := by
  rw [available] at failed
  cases left : below.available world with
  | ok rest =>
      rw [left] at failed
      exact nomatch failed
  | error stop =>
      rw [left] at failed
      obtain rfl : stop = fault := Except.error.inj failed
      exact ranged.available left

theorem ranged_source (ranged : below.Ranged) (mediator : Nat) :
    (source mediator below).Ranged where
  available := ofAmount_available ranged
  allocate := ranged_allocate ranged
  resize := ranged_resize ranged
  free := ranged_free ranged

end Mediated

namespace Clearing

theorem ranged_source {below : Source} (ranged : below.Ranged) :
    (source below).Ranged where
  available := ranged.available
  allocate := by
    intro world requested minimal orderly accepted size
    refine allocate_rule ((ranged.allocate orderly accepted size).mono ?_
      (fun _ _ stopped => stopped))
    intro result later served
    cases result with
    | none => exact served
    | some contents =>
        refine served_some served.1 ?_
        rw [Contents.size_fill]
        exact served.within
  resize := by
    intro bench requested minimal orderly accepted size
    refine resize_rule (ranged.resize orderly accepted size)
      (fun _ _ resized _ => resized) ?_
    intro later resized _
    refine resized_true resized.1 ?_
    rw [Contents.size_zeroFrom]
    exact resized.within
  free := ranged.free

end Clearing

namespace Bypass

variable {below : Source} {mediator amount requested minimal : Nat}

theorem ofAmount_available
    (ranged : below.Ranged)
    {world : World}
    {fault : Fault}
    (failed : available mediator amount below world = .error fault) :
    fault.OfAmount := by
  rw [available] at failed
  cases left : Mediated.available mediator below world with
  | ok rest =>
      rw [left] at failed
      exact nomatch failed
  | error stop =>
      rw [left] at failed
      obtain rfl : stop = fault := Except.error.inj failed
      exact Mediated.ofAmount_available ranged left

theorem ranged_readAvailable
    (stepwise : below.Stepwise)
    (ranged : below.Ranged)
    {world : World}
    (orderly : world.Orderly) :
    Ends (readAvailable mediator amount below) world
      (fun _ later => later.Orderly) Stopped := by
  have read := orderly.noteAll fun event member =>
    (quiet_readLocks stepwise mediator world event member).aside.proper
  exact readAvailable_rule (fun _ _ => read) fun _ failed =>
    ⟨read, ofAmount_available ranged failed⟩

theorem ranged_allocate
    (stepwise : below.Stepwise)
    (ranged : below.Ranged)
    {world : World}
    (orderly : world.Orderly)
    (accepted : minimal ≤ requested)
    (size : requested ≤ Size.limit) :
    Ends (allocate mediator amount below requested minimal) world
      (Served minimal requested) Stopped := by
  refine allocate_rule (Served minimal requested)
    (ranged_readAvailable stepwise ranged orderly) ?first ?met ?again
  case first =>
    intro rest later ordered
    exact (Mediated.ranged_allocate ranged ordered
      (raiseMinimal_le _ _ _) size).mono
      (fun _ _ served => served.widen (le_raiseMinimal accepted rest))
      (fun _ _ stopped => stopped)
  case met => exact fun _ _ served => served
  case again =>
    exact fun _ refused =>
      Mediated.ranged_allocate ranged refused.1 accepted size

theorem ranged_resize
    (stepwise : below.Stepwise)
    (ranged : below.Ranged)
    {bench : Workbench}
    (orderly : bench.world.Orderly)
    (accepted : minimal ≤ requested)
    (size : requested ≤ Size.limit) :
    Ends (resize mediator amount below requested minimal) bench
      (Resized bench.contents minimal requested)
      (StoppedResizing (max bench.contents.size requested)) := by
  refine resize_rule (fun _ later => later.Orderly)
    (Resized bench.contents minimal requested) ?read ?first ?met ?again
  case read =>
    exact (ranged_readAvailable stepwise ranged orderly).mono
      (fun _ _ ordered => ordered)
      (fun _ _ stopped => ⟨stopped, Nat.le_max_left _ _⟩)
  case first =>
    intro rest later ordered
    exact (@Mediated.ranged_resize below mediator _ _ ranged
      { bench with world := later } ordered (raiseMinimal_le _ _ _) size).mono
      (fun _ _ resized => resized.widen (le_raiseMinimal accepted rest))
      (fun _ _ stopped => stopped)
  case met => exact fun _ resized => resized
  case again =>
    intro later refused
    rw [← refused.same]
    exact Mediated.ranged_resize ranged refused.1 accepted size

theorem ranged_source
    (stepwise : below.Stepwise)
    (ranged : below.Ranged)
    (mediator amount : Nat) :
    (source mediator amount below).Ranged where
  available := ofAmount_available ranged
  allocate := ranged_allocate stepwise ranged
  resize := ranged_resize stepwise ranged
  free := Mediated.ranged_free ranged

end Bypass

namespace Guaranteed

variable {below : Source} {mediator amount requested minimal : Nat}

theorem ranged_allocate
    (ranged : below.Ranged)
    {world : World}
    (orderly : world.Orderly)
    (accepted : minimal ≤ requested)
    (size : requested ≤ Size.limit) :
    Ends (allocate mediator amount below requested) world
      (Served minimal requested) Stopped := by
  have read := orderly.read mediator
  refine allocate_rule (fun _ => served_none read) fun _ => ?_
  exact (Mediated.ranged_allocate ranged read (Nat.le_refl requested) size).mono
    (fun _ _ served => served.widen accepted) (fun _ _ stopped => stopped)

theorem ranged_resize
    (ranged : below.Ranged)
    {bench : Workbench}
    (orderly : bench.world.Orderly)
    (accepted : minimal ≤ requested)
    (size : requested ≤ Size.limit) :
    Ends (resize mediator amount below requested) bench
      (Resized bench.contents minimal requested)
      (StoppedResizing (max bench.contents.size requested)) := by
  have read := orderly.read mediator
  have inFull : ∀ world : World, world.Orderly →
      Ends (Mediated.resize mediator below requested requested)
        { bench with world } (Resized bench.contents minimal requested)
        (StoppedResizing (max bench.contents.size requested)) := by
    intro world ordered
    exact (@Mediated.ranged_resize below mediator _ _ ranged
      { bench with world } ordered (Nat.le_refl requested) size).mono
      (fun _ _ resized => resized.widen accepted) (fun _ _ stopped => stopped)
  exact resize_rule (fun _ _ => resized_false read rfl)
    (fun _ => inFull _ orderly) (fun _ _ => inFull _ read)

theorem ranged_source (ranged : below.Ranged) (mediator amount : Nat) :
    (source mediator amount below).Ranged where
  available := fun failed => nomatch failed
  allocate := ranged_allocate ranged
  resize := ranged_resize ranged
  free := Mediated.ranged_free ranged

end Guaranteed

namespace Tallied

theorem ranged_source {below : Source} (ranged : below.Ranged) (tally : Nat) :
    (source tally below).Ranged where
  available := ranged.available
  allocate := by
    intro world requested minimal orderly accepted size
    exact allocate_rule (ranged.allocate orderly accepted size)
      (fun _ _ served => served_some (served.1.of_same rfl rfl) served.within)
      (fun _ served => served_none (served.1.of_same rfl rfl))
  resize := by
    intro bench requested minimal orderly accepted size
    have reported : ∀ (met : Bool) (later : Workbench) (account : Tally),
        Resized bench.contents minimal requested met later →
        Resized bench.contents minimal requested met
          { later with world := later.world.setTally tally account } :=
      fun _ _ _ resized => ⟨resized.1.of_same rfl rfl, resized.2⟩
    exact resize_rule (ranged.resize orderly accepted size)
      (fun met later resized _ => reported met later _ resized)
      (fun met later resized _ => reported met later _ resized)
      (fun later resized _ _ => reported false later _ resized)
      (fun _ _ resized _ _ => resized)
  free := by
    intro world size orderly
    exact free_rule ((ranged.free size orderly).mono
      (fun _ _ ordered => ordered.of_same rfl rfl) (fun _ _ stopped => stopped))

end Tallied

namespace Charging

/--
What a tracker leaves cannot be read where its limit is too far from
its consumption.
-/
theorem illegible_of_headroom
    {tracker : Tracker}
    {fault : Fault}
    (failed : headroom tracker = .error fault) :
    fault.OfAmount ∧ ∃ limit, tracker.limit = some limit ∧
      ¬Amount.InRange (limit - tracker.consumption) := by
  rw [headroom] at failed
  split at failed
  · cases failed
  · rename_i limit limited
    rw [Amount.sub] at failed
    split at failed
    · cases failed
    · rename_i outside
      exact ⟨.inr (Except.error.inj failed).symm, limit, limited, outside⟩

/-- What some trackers leave cannot be read where one of them cannot be read. -/
theorem headroom_of_spareOf
    {trackers : Table Tracker}
    {members : List Nat}
    {fault : Fault}
    (failed : spareOf trackers members = .error fault) :
    ∃ tracker ∈ members, headroom (trackers.entry tracker) = .error fault := by
  induction members with
  | nil => exact nomatch failed
  | cons tracker rest ih =>
      rw [spareOf] at failed
      cases own : headroom (trackers.entry tracker) with
      | error stop =>
          rw [own] at failed
          obtain rfl : stop = fault := Except.error.inj failed
          exact ⟨tracker, List.mem_cons_self, own⟩
      | ok least =>
          rw [own] at failed
          cases others : spareOf trackers rest with
          | error stop =>
              rw [others] at failed
              obtain rfl : stop = fault := Except.error.inj failed
              obtain ⟨other, member, stopped⟩ := ih others
              exact ⟨other, List.mem_cons_of_mem tracker member, stopped⟩
          | ok spare =>
              rw [others] at failed
              exact nomatch failed

theorem ofAmount_spareOf
    {trackers : Table Tracker}
    {members : List Nat}
    {fault : Fault}
    (failed : spareOf trackers members = .error fault) :
    fault.OfAmount := by
  obtain ⟨tracker, -, stopped⟩ := headroom_of_spareOf failed
  exact (illegible_of_headroom stopped).1

end Charging

namespace Tracked

variable {below : Source} {lineage : Lineage} {enforcing : Bool}

theorem within_of_mem_targets
    {requested minimal target : Nat}
    (accepted : minimal ≤ requested)
    (member : target ∈ targets requested minimal) :
    Within minimal requested target := by
  have whole : Within minimal requested requested :=
    ⟨accepted, Nat.le_refl requested⟩
  have least : Within minimal requested minimal :=
    ⟨Nat.le_refl minimal, accepted⟩
  rw [targets] at member
  split at member
  · exact List.mem_singleton.mp member ▸ whole
  · rcases List.mem_cons.mp member with rfl | last
    · exact whole
    · exact List.mem_singleton.mp last ▸ least

theorem ofAmount_available
    {world : World}
    {fault : Fault}
    (failed : available lineage enforcing world = .error fault) :
    fault.OfAmount := by
  rw [available] at failed
  split at failed
  · cases left : Charging.spare world lineage with
    | ok spare =>
        rw [left] at failed
        exact nomatch failed
    | error stop =>
        rw [left] at failed
        obtain rfl : stop = fault := Except.error.inj failed
        exact Charging.ofAmount_spareOf left
  · exact nomatch failed

theorem ranged_allocateFirst
    (ranged : below.Ranged)
    {world : World}
    (orderly : world.Orderly)
    {requested minimal : Nat}
    {targets : List Nat}
    (size : requested ≤ Size.limit)
    (within : ∀ target ∈ targets, Within minimal requested target) :
    Ends (allocateFirst lineage enforcing below targets) world
      (Served minimal requested) Stopped := by
  induction targets generalizing world with
  | nil => exact served_none orderly
  | cons target rest ih =>
      obtain ⟨enough, fitting⟩ := within target List.mem_cons_self
      have others :=
        fun other member => within other (List.mem_cons_of_mem target member)
      refine allocateFirst_rule (Served target target) World.Orderly
        ((tracks_charge lineage enforcing target).orderly orderly) ?called
        ?met ?undone ?again
      case called =>
        exact fun _ ordered => ranged.allocate ordered (Nat.le_refl target)
          (Nat.le_trans fitting size)
      case met =>
        exact fun _ _ served =>
          served_some served.1 (served.within.widen enough fitting)
      case undone =>
        exact fun _ refused =>
          (tracks_discharge lineage target).orderly refused.1
      case again =>
        rintro later (ordered | ordered)
        · exact ih ordered others
        · exact ih ordered others

theorem ranged_resizeTo
    (ranged : below.Ranged)
    {bench : Workbench}
    (orderly : bench.world.Orderly)
    {target : Nat}
    (size : target ≤ Size.limit) :
    Ends (resizeTo lineage enforcing below bench.contents.size target) bench
      (Resized bench.contents target target)
      (StoppedResizing (max bench.contents.size target)) := by
  refine Ends.ite (fun smaller => ?_) (fun notSmaller => ?_)
  · refine shrinkTo_rule (ranged.resize orderly (Nat.le_refl target) size)
      (fun _ resized => resized) ?grown ?cut
    case grown =>
      intro later resized larger
      exact absurd (Nat.le_trans resized.within.2 smaller)
        (Nat.not_le.mpr larger)
    case cut =>
      intro later resized fewer
      exact ((tracks_discharge lineage _).orderly resized.1).mono
        (fun _ _ ordered => resized_true ordered resized.within)
        (fun _ _ stopped => ⟨stopped, Nat.le_trans fewer (Nat.le_max_left _ _)⟩)
  · refine growTo_rule
      (fun _ later => later.Orderly) _ (Nat.not_le.mp notSmaller) ?charged
      (fun _ ordered => resized_false ordered rfl) ?called
      (fun _ resized => resized) ?refused
    case charged =>
      exact ((tracks_charge lineage enforcing _).orderly orderly).mono
        (fun _ _ ordered => ordered)
        (fun _ _ stopped => ⟨stopped, Nat.le_max_left _ _⟩)
    case called =>
      intro later ordered
      exact @Source.Ranged.resize _ ranged
        { bench with world := later } _ _ ordered (Nat.le_refl target) size
    case refused =>
      intro later resized
      refine ((tracks_discharge lineage _).orderly resized.1).mono
        (fun _ _ ordered => resized_false ordered resized.same)
        (fun _ _ stopped => ⟨stopped, ?_⟩)
      exact resized.same ▸ Nat.le_max_left _ _

theorem ranged_resizeFirst
    (ranged : below.Ranged)
    {bench : Workbench}
    (orderly : bench.world.Orderly)
    {requested minimal : Nat}
    {targets : List Nat}
    (size : requested ≤ Size.limit)
    (within : ∀ target ∈ targets, Within minimal requested target) :
    Ends (resizeFirst lineage enforcing below bench.contents.size targets) bench
      (Resized bench.contents minimal requested)
      (StoppedResizing (max bench.contents.size requested)) := by
  induction targets generalizing bench with
  | nil => exact resized_false orderly rfl
  | cons target rest ih =>
      obtain ⟨enough, fitting⟩ := within target List.mem_cons_self
      have others :=
        fun other member => within other (List.mem_cons_of_mem target member)
      refine resizeFirst_rule (Resized bench.contents target target)
        ?tried ?met ?again
      case tried =>
        refine (ranged_resizeTo ranged orderly (Nat.le_trans fitting size)).mono
          (fun _ _ resized => resized) (fun _ _ stopped => stopped.weaken ?_)
        omega
      case met =>
        exact fun _ resized =>
          resized_true resized.1 (resized.within.widen enough fitting)
      case again =>
        intro later resized
        rw [← resized.same]
        exact ih resized.1 others

theorem ranged_source
    (ranged : below.Ranged)
    (lineage : Lineage)
    (enforcing : Bool) :
    (source lineage enforcing below).Ranged where
  available := ofAmount_available
  allocate := by
    intro world requested minimal orderly accepted size
    exact ranged_allocateFirst ranged orderly size fun _ =>
      within_of_mem_targets accepted
  resize := by
    intro bench requested minimal orderly accepted size
    refine (ends_bind Resizing.size _).mpr ?_
    exact ranged_resizeFirst ranged orderly size fun _ =>
      within_of_mem_targets accepted
  free := by
    intro world size orderly
    exact free_rule ((ranged.free size orderly).mono
      (fun _ _ ordered => ordered) (fun _ _ stopped => stopped))
      fun _ ordered => (tracks_discharge lineage size).orderly ordered

end Tracked

namespace Locked

theorem ranged_source {below : Source} (ranged : below.Ranged) (lock : Nat) :
    (source lock below).Ranged where
  available := ranged.available
  allocate := by
    intro world requested minimal orderly accepted size
    refine (ends_holding _ _).mpr ?_
    have acquired : (world.note (.acquired (.layer lock))).Orderly :=
      orderly.note trivial
    exact (ranged.allocate acquired accepted size).mono
      (fun _ _ served => ⟨served.1.note trivial, served.2⟩)
      (fun _ _ stopped => ⟨stopped.1.note trivial, stopped.2⟩)
  resize := by
    intro bench requested minimal orderly accepted size
    refine (ends_holdingResizing _ _).mpr ?_
    have acquired : (bench.world.note (.acquired (.layer lock))).Orderly :=
      orderly.note trivial
    exact (@Source.Ranged.resize _ ranged
      { bench with world := _ } _ _ acquired accepted size).mono
      (fun _ _ resized => ⟨resized.1.note trivial, resized.2⟩)
      (fun _ _ stopped => ⟨⟨stopped.1.1.note trivial, stopped.1.2⟩, stopped.2⟩)
  free := by
    intro world size orderly
    refine (ends_holding _ _).mpr ?_
    have acquired : (world.note (.acquired (.layer lock))).Orderly :=
      orderly.note trivial
    exact (ranged.free size acquired).mono
      (fun _ _ ordered => ordered.note trivial)
      (fun _ _ stopped => ⟨stopped.1.note trivial, stopped.2⟩)

end Locked

theorem Screen.lower_le (screen : Screen) (requested minimal : Nat) :
    screen.lower requested minimal ≤ requested := by
  rw [lower]
  split
  · exact Nat.le_refl requested
  · exact Nat.min_le_left _ _

theorem Screen.le_lower
    (screen : Screen)
    {requested minimal : Nat}
    (accepted : minimal ≤ requested) :
    minimal ≤ screen.lower requested minimal := by
  rw [lower]
  split
  · exact accepted
  · exact Nat.le_min.mpr ⟨accepted, Nat.le_max_left _ _⟩

namespace Probe

theorem ranged_source
    {below : Source}
    (ranged : below.Ranged)
    (probe : Nat)
    (screen : Screen) :
    (source probe screen below).Ranged where
  available := fun failed => nomatch failed
  allocate := by
    intro world requested minimal orderly accepted size
    have counted : (world.countProbe probe).Orderly := orderly.of_same rfl rfl
    have lowered := screen.lower_le requested minimal
    refine allocate_rule (served_none counted) ?_
    refine (ranged.allocate counted (screen.le_lower accepted)
      (Nat.le_trans lowered size)).mono ?_ (fun _ _ stopped => stopped)
    exact fun _ _ served => ⟨served.1, fun contents made =>
      (served.2 contents made).widen (Nat.le_refl minimal) lowered⟩
  resize := by
    intro bench requested minimal orderly accepted size
    have counted : (bench.world.countProbe probe).Orderly :=
      orderly.of_same rfl rfl
    have lowered := screen.lower_le requested minimal
    refine resize_rule (resized_false counted rfl) ?_
    refine (@Source.Ranged.resize _ ranged { bench with world := _ } _ _ counted
      (screen.le_lower accepted) (Nat.le_trans lowered size)).mono ?_
      (fun _ _ stopped => stopped.weaken ?_)
    · intro met later resized
      cases met with
      | false => exact resized_false resized.1 resized.same
      | true =>
          exact resized_true resized.1
            (resized.within.widen (Nat.le_refl minimal) lowered)
    · show max bench.contents.size _ ≤ _
      omega
  free := ranged.free

end Probe

/-- A layer over a source that keeps sizes within requests keeps them too. -/
theorem Layer.ranged_over
    (layer : Layer)
    {below : Source}
    (stepwise : below.Stepwise)
    (ranged : below.Ranged) :
    (layer.over below).Ranged := by
  cases layer with
  | mediated mediator => exact Mediated.ranged_source ranged mediator
  | clearing => exact Clearing.ranged_source ranged
  | bypass mediator amount =>
      exact Bypass.ranged_source stepwise ranged mediator amount
  | tallied tally => exact Tallied.ranged_source ranged tally
  | tracked lineage enforcing =>
      exact Tracked.ranged_source ranged lineage enforcing
  | locked lock => exact Locked.ranged_source ranged lock
  | relay => exact ranged
  | guaranteed mediator amount =>
      exact Guaranteed.ranged_source ranged mediator amount
  | probe number screen => exact Probe.ranged_source ranged number screen

/-- Every allocator keeps sizes within requests. -/
theorem Allocator.ranged_source (allocator : Allocator) :
    allocator.source.Ranged := by
  obtain ⟨layers, heap⟩ := allocator
  induction layers with
  | nil => exact (Heap.ranged_source heap).noting .heap
  | cons layer layers ih =>
      have stepwise := Allocator.stepwise_source { layers, heap }
      exact (layer.ranged_over stepwise ih).noting (.layer layer)

end BufferBudget
