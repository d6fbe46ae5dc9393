import Mathlib.Algebra.Ring.Int.Defs
import BufferBudget.Proofs.Range

/-!
# What mediators have granted

The trail keeps every grant of a mediator and every payment to it.  Their
balance is what is outstanding, and a world is in the books where no payment
was ever larger than what was outstanding at the time and the usage of a quota
is the balance.

`Stands` names the balance of one mediator in such a world.  The contract of a
source says how each call moves it: a buffer costs an amount that depends on its
size alone, and is charged and paid back to the byte, also where a request is
tried twice or a grant comes out larger than what is made of it.  A call that
stops at a fault may leave more outstanding than it should, but never less.
-/

namespace BufferBudget

namespace MediatorCall

/-- What the calls of a list, latest first, have left outstanding. -/
def outstanding (calls : List MediatorCall) : Int :=
  (calls.map balance).sum

/--
No payment in a list of calls, latest first, is larger than what was outstanding
when it was made.
-/
def Covered : List MediatorCall → Prop
  | [] => True
  | .allocated _ _ _ :: earlier => Covered earlier
  | .freed amount :: earlier =>
      (amount : Int) ≤ outstanding earlier ∧ Covered earlier

@[simp]
theorem outstanding_cons (call : MediatorCall) (earlier : List MediatorCall) :
    outstanding (call :: earlier) = call.balance + outstanding earlier :=
  rfl

end MediatorCall

namespace World

/-- The calls on a mediator so far, latest first. -/
def calls (world : World) (mediator : Nat) : List MediatorCall :=
  world.trail.filterMap (Event.mediatorCall? mediator)

/-- All that a mediator has granted, less all that it has been paid back. -/
def balance (world : World) (mediator : Nat) : Int :=
  MediatorCall.outstanding (world.calls mediator)

/--
The calls on a mediator are covered, and a quota has counted them rightly.
-/
structure Booked (world : World) (mediator : Nat) : Prop where
  covered : MediatorCall.Covered (world.calls mediator)
  usage : ∀ quota, world.mediators.entry mediator = .ofQuota quota →
    (quota.usage : Int) = world.balance mediator

end World

namespace World

variable {world : World} {mediator : Nat}

theorem calls_note_of_none
    {event : Event}
    (other : event.mediatorCall? mediator = none) :
    (world.note event).calls mediator = world.calls mediator :=
  List.filterMap_cons_none other

theorem calls_grant (own requested minimal granted : Nat) (next : Mediator) :
    (world.grant own requested minimal granted next).calls mediator =
      if own = mediator then
        .allocated requested minimal granted :: world.calls mediator
      else world.calls mediator := by
  simp only [calls, grant, trail_note, List.filterMap_cons, Event.mediatorCall?]
  by_cases same : own = mediator
  · rw [if_pos same, if_pos same]
    rfl
  · rw [if_neg same, if_neg same]
    rfl

theorem calls_repay (own amount : Nat) :
    (world.repay own amount).calls mediator =
      if own = mediator then .freed amount :: world.calls mediator
      else world.calls mediator := by
  simp only [calls, repay, trail_note, List.filterMap_cons, Event.mediatorCall?]
  by_cases same : own = mediator
  · rw [if_pos same, if_pos same]
    rfl
  · rw [if_neg same, if_neg same]
    rfl

end World

theorem Event.Aside.mediatorCall?
    {event : Event}
    (aside : event.Aside)
    (mediator : Nat) :
    event.mediatorCall? mediator = none := by
  cases event with
  | called site call => exact aside.elim
  | mediated own call => exact aside.elim
  | emitted diagnostic => rfl
  | acquired lock => rfl
  | released lock => rfl
  | tracked tracker call => rfl
  | weighed tracker total => rfl

/--
What of an amount charged to one mediator is charged to another: all of it if
they are the same.
-/
def share (own mediator amount : Nat) : Nat :=
  if own = mediator then amount else 0

theorem share_le (own mediator amount : Nat) :
    share own mediator amount ≤ amount := by
  rw [share]
  split
  · exact Nat.le_refl amount
  · exact Nat.zero_le amount

@[simp]
theorem share_zero (own mediator : Nat) : share own mediator 0 = 0 :=
  Nat.le_zero.mp (share_le own mediator 0)

theorem share_add (own mediator left right : Nat) :
    share own mediator (left + right) =
      share own mediator left + share own mediator right := by
  simp only [share]
  split <;> rfl

theorem share_mono
    (own mediator : Nat)
    {less more : Nat}
    (grows : less ≤ more) :
    share own mediator less ≤ share own mediator more := by
  simp only [share]
  split
  · exact grows
  · exact Nat.le_refl 0

/--
The world is in order and in the books for a mediator, which has an
amount outstanding.
-/
structure Stands (mediator amount : Nat) (world : World) : Prop where
  orderly : world.Orderly
  booked : world.Booked mediator
  balance : world.balance mediator = amount

namespace Stands

variable {mediator amount : Nat} {world : World}

theorem of_same
    {other : World}
    (stands : Stands mediator amount world)
    (sameEntry : other.mediators.entry mediator =
      world.mediators.entry mediator)
    (sameCalls : other.calls mediator = world.calls mediator)
    (orderly : other.Orderly) :
    Stands mediator amount other where
  orderly := orderly
  booked :=
    { covered := sameCalls ▸ stands.booked.covered
      usage := by
        rw [sameEntry, World.balance, sameCalls]
        exact stands.booked.usage }
  balance := by
    rw [World.balance, sameCalls]
    exact stands.balance

/-- The books are a matter of the mediators and the trail alone. -/
theorem of_sameTrail
    {other : World}
    (stands : Stands mediator amount world)
    (sameMediators : other.mediators = world.mediators)
    (sameTrail : other.trail = world.trail) :
    Stands mediator amount other := by
  refine stands.of_same ?_ ?_ (stands.orderly.of_same sameMediators sameTrail)
  · rw [sameMediators]
  · rw [World.calls, sameTrail]
    rfl

theorem note
    (stands : Stands mediator amount world)
    {event : Event}
    (proper : event.Proper)
    (other : event.mediatorCall? mediator = none) :
    Stands mediator amount (world.note event) :=
  stands.of_same rfl (World.calls_note_of_none other)
    (stands.orderly.note proper)

theorem noteAll
    (stands : Stands mediator amount world)
    {events : List Event}
    (aside : ∀ event ∈ events, event.Aside) :
    Stands mediator amount (world.noteAll events) := by
  refine World.noteAll_preserves (fun event member _ standing => ?_) stands
  have quiet := aside event member
  exact standing.note quiet.proper (quiet.mediatorCall? mediator)

theorem tell
    (stands : Stands mediator amount world)
    (diagnostics : List Diagnostic) :
    Stands mediator amount (world.noteAll (diagnostics.map .emitted)) := by
  refine stands.noteAll fun event member => ?_
  obtain ⟨diagnostic, -, rfl⟩ := List.mem_map.mp member
  exact trivial

theorem acquire (stands : Stands mediator amount world) (lock : Lock) :
    Stands mediator amount (world.note (.acquired lock)) :=
  stands.note trivial rfl

theorem release (stands : Stands mediator amount world) (lock : Lock) :
    Stands mediator amount (world.note (.released lock)) :=
  stands.note trivial rfl

theorem around
    {later : World}
    {change : World → World}
    {changed : Nat}
    (stands : Stands mediator amount world)
    (came : world.Around change later)
    (moves : ∀ middle : World, middle.mediators = world.mediators →
      Stands mediator amount middle → Stands mediator changed (change middle)) :
    Stands mediator changed later := by
  obtain ⟨before, after, quietBefore, quietAfter, rfl⟩ := came
  have entered := stands.noteAll fun event member =>
    (quietBefore event member).aside
  exact (moves (world.noteAll before) rfl entered).noteAll fun event member =>
    (quietAfter event member).aside

theorem trackerSteps
    {trackers : List Nat}
    {later : World}
    (stands : Stands mediator amount world)
    (steps : Relation.ReflTransGen (World.TrackerStep trackers) world later) :
    Stands mediator amount later := by
  induction steps with
  | refl => exact stands
  | tail _ step ih =>
      cases step with
      | note event aside =>
          exact ih.note aside.proper (aside.mediatorCall? mediator)
      | store member consumption => exact ih.of_sameTrail rfl rfl
      | reach member consumption => exact ih.of_sameTrail rfl rfl

/-- A grant adds to what is outstanding at its mediator. -/
theorem grant
    (stands : Stands mediator amount world)
    {own requested minimal granted : Nat}
    {next : Mediator}
    (accepted : minimal ≤ requested)
    (capped : granted ≤ requested)
    (sound : next.Sound)
    (answer : (world.mediators.entry own).allocate requested minimal =
      .ok (granted, next)) :
    Stands mediator (amount + share own mediator granted)
      (world.grant own requested minimal granted next) := by
  have ordered : (world.grant own requested minimal granted next).Orderly :=
    stands.orderly.grant accepted capped sound
  have calls :=
    @World.calls_grant world mediator own requested minimal granted next
  have before := stands.balance
  by_cases same : own = mediator
  · subst same
    rw [if_pos rfl] at calls
    have balance :
        (world.grant own requested minimal granted next).balance own =
          (amount + granted : Nat) := by
      rw [World.balance] at before ⊢
      rw [calls, MediatorCall.outstanding_cons, before, MediatorCall.balance]
      omega
    rw [share, if_pos rfl]
    refine ⟨ordered,
      ⟨calls ▸ stands.booked.covered, fun quota held => ?_⟩, balance⟩
    rw [World.grant, World.mediators_note, World.entry_mediators_setMediator,
      if_pos rfl] at held
    rcases Mediator.allocate_cases answer with ⟨old, was, -, rfl⟩ | ⟨_, _, rfl⟩
    · have usage := stands.booked.usage old was
      obtain rfl := Mediator.ofQuota.inj held
      rw [balance]
      show ((old.usage + granted : Nat) : Int) = _
      omega
    · cases held
  · rw [if_neg same] at calls
    rw [share, if_neg same]
    refine stands.of_same ?_ calls ordered
    rw [World.grant, World.mediators_note, World.entry_mediators_setMediator,
      if_neg (Ne.symm same)]

/--
A payment takes from what is outstanding at its mediator, which must cover it.
-/
theorem repay
    (stands : Stands mediator amount world)
    {own paid : Nat}
    (enough : share own mediator paid ≤ amount) :
    Stands mediator (amount - share own mediator paid)
      (world.repay own paid) := by
  have ordered := stands.orderly.repay own paid
  have calls := @World.calls_repay world mediator own paid
  have before := stands.balance
  by_cases same : own = mediator
  · subst same
    rw [if_pos rfl] at calls
    rw [share, if_pos rfl] at enough ⊢
    have balance : (world.repay own paid).balance own =
        (amount - paid : Nat) := by
      rw [World.balance] at before ⊢
      rw [calls, MediatorCall.outstanding_cons, before, MediatorCall.balance]
      omega
    refine ⟨ordered, ⟨?_, fun quota held => ?_⟩, balance⟩
    · rw [calls]
      refine ⟨?_, stands.booked.covered⟩
      rw [World.balance] at before
      omega
    · rw [World.repay, World.mediators_note, World.entry_mediators_setMediator,
        if_pos rfl] at held
      rw [balance]
      cases was : world.mediators.entry own with
      | ofArbiter arbiter =>
          rw [was] at held
          cases held
      | ofQuota old =>
          have usage := stands.booked.usage old was
          rw [was] at held
          obtain rfl := Mediator.ofQuota.inj held
          rw [Quota.usage_free]
          omega
  · rw [if_neg same] at calls
    rw [share, if_neg same]
    refine stands.of_same ?_ calls ordered
    rw [World.repay, World.mediators_note, World.entry_mediators_setMediator,
      if_neg (Ne.symm same)]

/-- Moving a ceiling does not touch the books. -/
theorem setCeiling
    (stands : Stands mediator amount world)
    (own : Nat)
    {ceiling : Nat}
    (size : ceiling ≤ Size.limit) :
    Stands mediator amount (world.setCeiling own ceiling) where
  orderly :=
    stands.orderly.setMediator ((stands.orderly.mediators own).setCeiling size)
  booked :=
    { covered := stands.booked.covered
      usage := by
        intro quota held
        rw [World.setCeiling, World.entry_mediators_setMediator] at held
        split at held
        · rename_i same
          cases was : world.mediators.entry own with
          | ofArbiter arbiter =>
              rw [was] at held
              exact nomatch held
          | ofQuota old =>
              rw [was] at held
              obtain rfl := Mediator.ofQuota.inj held
              exact stands.booked.usage old (same ▸ was)
        · exact stands.booked.usage quota held }
  balance := stands.balance

theorem congr
    {other : Nat}
    (stands : Stands mediator amount world)
    (same : amount = other) :
    Stands mediator other world :=
  same ▸ stands

end Stands

/-- At least an amount is outstanding at a mediator. -/
def Over (mediator least : Nat) (world : World) : Prop :=
  ∃ amount, least ≤ amount ∧ Stands mediator amount world

theorem Stands.over
    {mediator amount : Nat}
    {world : World}
    (stands : Stands mediator amount world)
    {least : Nat}
    (enough : least ≤ amount) :
    Over mediator least world :=
  ⟨amount, enough, stands⟩

theorem Over.weaken
    {mediator least less : Nat}
    {world : World}
    (above : Over mediator least world)
    (fewer : less ≤ least) :
    Over mediator less world := by
  obtain ⟨amount, enough, stands⟩ := above
  exact ⟨amount, Nat.le_trans fewer enough, stands⟩

theorem Over.release
    {mediator least : Nat}
    {world : World}
    (above : Over mediator least world)
    (lock : Lock) :
    Over mediator least (world.note (.released lock)) := by
  obtain ⟨amount, enough, stands⟩ := above
  exact ⟨amount, enough, stands.release lock⟩

/-- What the result of a request costs: nothing, if there is none. -/
def priceOf (cost : Nat → Nat) : Option Contents → Nat
  | none => 0
  | some contents => cost contents.size

/--
The contract of a source about what is outstanding at one mediator,
where a buffer of some size costs `cost` of it.  `rest` is outstanding
for other reasons.
-/
structure Source.Balanced
    (source : Source)
    (mediator : Nat)
    (cost : Nat → Nat) : Prop where
  allocate : ∀ {world rest requested minimal}, Stands mediator rest world →
    minimal ≤ requested → requested ≤ Size.limit →
    Ends (source.allocate requested minimal) world
      (fun result later => Stands mediator (rest + priceOf cost result) later)
      (fun _ later => Over mediator rest later)
  resize : ∀ {bench rest requested minimal},
    Stands mediator (rest + cost bench.contents.size) bench.world →
    minimal ≤ requested → requested ≤ Size.limit →
    Ends (source.resize requested minimal) bench (fun _ later =>
      Stands mediator (rest + cost later.contents.size) later.world)
      (fun _ later =>
        Over mediator (rest + cost later.contents.size) later.world)
  free : ∀ {world rest size}, Stands mediator (rest + cost size) world →
    Ends (source.free size) world (fun _ later => Stands mediator rest later)
      (fun _ later => Over mediator rest later)

theorem Operation.Tracks.stands
    {α : Type}
    {operation : Operation α}
    {world : World}
    {trackers : List Nat}
    {mediator amount : Nat}
    (tracks : operation.Tracks trackers)
    (stands : Stands mediator amount world) :
    Ends operation world (fun _ later => Stands mediator amount later)
      (fun _ later => Over mediator amount later) :=
  (tracks world).mono (fun _ _ steps => stands.trackerSteps steps)
    (fun _ _ stopped =>
      (stands.trackerSteps stopped.1).over (Nat.le_refl amount))

namespace Mediation

variable {own mediator amount : Nat} {world : World}

theorem stands_allocate
    (stands : Stands mediator amount world)
    {requested minimal : Nat}
    (accepted : minimal ≤ requested) :
    Ends (allocate own requested minimal) world (fun granted later =>
      Stands mediator (amount + share own mediator granted) later)
      (fun _ _ => False) := by
  obtain ⟨granted, next, answer, capped, sound⟩ :=
    Mediator.allocate_of_sound (stands.orderly.mediators own) accepted
  refine (ends_allocate answer).sure ?_
  rintro value later ⟨rfl, came⟩
  exact stands.around came fun middle same standing =>
    standing.grant accepted capped sound (same ▸ answer)

theorem stands_free
    {paid : Nat}
    (stands : Stands mediator (amount + share own mediator paid) world) :
    Ends (free own paid) world (fun _ later => Stands mediator amount later)
      (fun _ _ => False) := by
  refine (ends_free own paid world).sure ?_
  intro _ later came
  refine stands.around came fun middle _ standing => ?_
  exact (standing.repay (Nat.le_add_left _ _)).congr (Nat.add_sub_cancel _ _)

/--
What is granted and passed on is outstanding, and what is granted and
denied is not.
-/
theorem stands_grant
    (stands : Stands mediator amount world)
    {requested minimal : Nat}
    (accepted : minimal ≤ requested) :
    Ends (grant own requested minimal) world (fun answer later =>
      Stands mediator (amount + share own mediator (answer.getD 0)) later)
      (fun _ _ => False) := by
  have denied : ∀ later : World, Stands mediator amount later →
      Stands mediator
        (amount + share own mediator ((none : Option Nat).getD 0)) later :=
    fun _ standing =>
      standing.congr (by rw [Option.getD_none, share_zero, Nat.add_zero])
  refine grant_rule (fun _ => denied world stands)
    (fun _ => stands_allocate stands accepted)
    (fun _ _ standing _ => standing) ?_ ?_
  · intro granted later standing _ _
    exact (stands_free standing).sure (fun _ last => denied last)
  · exact fun later standing _ =>
      denied later (standing.congr (by rw [share_zero, Nat.add_zero]))

end Mediation

theorem Source.Balanced.noting
    {source : Source}
    {mediator : Nat}
    {cost : Nat → Nat}
    (balanced : source.Balanced mediator cost)
    (ranged : source.Ranged)
    (site : Site) :
    (source.noting site).Balanced mediator cost where
  allocate := by
    intro world rest requested minimal stands accepted size
    apply noting_allocate_rule
    refine ((balanced.allocate stands accepted size).and
      (ranged.allocate stands.orderly accepted size)).mono
      ?_ (fun _ _ stopped => stopped.1)
    rintro result later ⟨standing, served⟩
    exact standing.note (served.proper accepted site) rfl
  resize := by
    intro bench rest requested minimal stands accepted size
    apply noting_resize_rule
    refine ((balanced.resize stands accepted size).and
      (ranged.resize stands.orderly accepted size)).mono
      ?_ (fun _ _ stopped => stopped.1)
    rintro met later ⟨standing, resized⟩
    exact standing.note (resized.proper accepted site _) rfl
  free := by
    intro world rest size stands
    exact noting_free_rule (balanced.free (stands.note trivial rfl))

/-- Memory of the heap costs nothing. -/
theorem Heap.balanced_source (heap : Heap) (mediator : Nat) :
    heap.source.Balanced mediator (fun _ => 0) where
  allocate := by
    intro world rest requested minimal stands _ _
    exact allocate_rule (fun _ => stands) (fun _ => stands)
  resize := by
    intro bench rest requested minimal stands _ _
    exact resize_rule (fun _ _ => stands) (fun _ _ => stands) (fun _ => stands)
      (fun _ => stands)
  free := fun stands => stands

/--
What a buffer costs where a layer that charges a mediator of its own lies
over a source.
-/
def surcharge (own mediator : Nat) (cost : Nat → Nat) (size : Nat) : Nat :=
  cost size + share own mediator size

namespace Mediated

variable
    {below : Source}
    {own mediator rest requested minimal : Nat}
    {cost : Nat → Nat}

theorem balanced_allocate
    (ranged : below.Ranged)
    (balanced : below.Balanced mediator cost)
    {world : World}
    (stands : Stands mediator rest world)
    (accepted : minimal ≤ requested)
    (size : requested ≤ Size.limit) :
    Ends (allocate own below requested minimal) world (fun result later =>
        Stands mediator
          (rest + priceOf (surcharge own mediator cost) result) later)
      (fun _ later => Over mediator rest later) := by
  refine allocate_rule (fun granted result later => Stands mediator
      (rest + share own mediator granted + priceOf cost result) later ∧
        Served minimal granted result later)
    (((Mediation.stands_grant stands accepted).and
      (Mediation.ranged_grant stands.orderly own accepted)).mono
      (fun _ _ granted => granted) (fun _ _ impossible => impossible.1.elim))
    ?denied ?called ?refused ?short ?full
  case denied =>
    rintro later ⟨standing, -⟩
    exact standing.congr (by rw [Option.getD_none, share_zero]; rfl)
  case called =>
    rintro granted later ⟨standing, ordered, capped⟩
    obtain ⟨enough, fitting⟩ := capped granted rfl
    have inside := Nat.le_trans fitting size
    exact ((balanced.allocate standing enough inside).and
      (ranged.allocate ordered enough inside)).mono (fun _ _ served => served)
      (fun _ _ stopped => stopped.1.weaken (Nat.le_add_right _ _))
  case refused =>
    rintro granted later ⟨standing, -⟩
    exact (Mediation.stands_free standing).sure (fun _ _ last => last)
  case short =>
    rintro granted contents later ⟨standing, -⟩ less
    have parts := share_add own mediator contents.size (granted - contents.size)
    rw [Nat.add_sub_cancel' (Nat.le_of_lt less)] at parts
    refine (Mediation.stands_free (standing.congr ?_)).sure
      (fun _ _ last => last)
    simp only [priceOf, surcharge]
    omega
  case full =>
    rintro granted contents later ⟨standing, served⟩ enough
    obtain rfl : granted = contents.size :=
      Nat.le_antisymm enough served.within.2
    refine standing.congr ?_
    simp only [priceOf, surcharge]
    omega

theorem balanced_shrink
    (ranged : below.Ranged)
    (balanced : below.Balanced mediator cost)
    {bench : Workbench}
    (stands : Stands mediator
      (rest + surcharge own mediator cost bench.contents.size) bench.world)
    (accepted : minimal ≤ requested)
    (size : requested ≤ Size.limit)
    (smaller : requested ≤ bench.contents.size) :
    Ends (shrink own below requested minimal) bench
      (fun _ later => Stands mediator
        (rest + surcharge own mediator cost later.contents.size) later.world)
      (fun _ later => Over mediator
        (rest + surcharge own mediator cost later.contents.size)
        later.world) := by
  have begins : Stands mediator (rest + share own mediator bench.contents.size +
      cost bench.contents.size) bench.world :=
    stands.congr (by simp only [surcharge]; omega)
  refine shrink_rule (((balanced.resize begins accepted size).and
    (ranged.resize begins.orderly accepted size)).mono
    (fun _ _ resized => resized) ?stopped) ?refused ?grown ?cut
  case stopped =>
    rintro fault later ⟨above, -, bound⟩
    have less : later.contents.size ≤ bench.contents.size := by omega
    have parts := share_mono own mediator less
    exact above.weaken (by simp only [surcharge]; omega)
  case refused =>
    rintro later ⟨standing, resized⟩
    rw [resized.same] at standing ⊢
    exact standing.congr (by simp only [surcharge]; omega)
  case grown =>
    rintro later ⟨-, resized⟩ larger
    exact absurd (Nat.le_trans resized.within.2 smaller) (Nat.not_le.mpr larger)
  case cut =>
    rintro later ⟨standing, -⟩ less
    have parts := share_add own mediator later.contents.size
      (bench.contents.size - later.contents.size)
    rw [Nat.add_sub_cancel' less] at parts
    have owed : Stands mediator
        (rest + surcharge own mediator cost later.contents.size + share own
          mediator (bench.contents.size - later.contents.size)) later.world :=
      standing.congr (by simp only [surcharge]; omega)
    exact (Mediation.stands_free owed).sure (fun _ _ last => last)

theorem balanced_grow
    (ranged : below.Ranged)
    (balanced : below.Balanced mediator cost)
    {bench : Workbench}
    (stands : Stands mediator
      (rest + surcharge own mediator cost bench.contents.size) bench.world)
    (accepted : minimal ≤ requested)
    (size : requested ≤ Size.limit)
    (larger : bench.contents.size < requested) :
    Ends (grow own below requested minimal) bench
      (fun _ later => Stands mediator
        (rest + surcharge own mediator cost later.contents.size) later.world)
      (fun _ later => Over mediator
        (rest + surcharge own mediator cost later.contents.size)
        later.world) := by
  have inOrder : minimal - bench.contents.size ≤
      requested - bench.contents.size := by omega
  refine grow_rule (fun granted met later => Stands mediator
      (rest + share own mediator (bench.contents.size + granted) +
        cost later.contents.size) later.world ∧
      Resized bench.contents minimal (bench.contents.size + granted) met later)
    larger
    (((Mediation.stands_grant stands inOrder).and
      (Mediation.ranged_grant stands.orderly own inOrder)).mono
      (fun _ _ granted => granted) (fun _ _ impossible => impossible.1.elim))
    ?denied ?beyond ?called ?refused ?excess ?settled
  case denied =>
    rintro later ⟨standing, -⟩
    exact standing.congr (by rw [Option.getD_none, share_zero]; rfl)
  case beyond =>
    rintro granted later ⟨-, -, capped⟩ beyond
    have fitting := (capped granted rfl).2
    omega
  case called =>
    rintro granted later ⟨standing, ordered, capped⟩ fits
    obtain ⟨enough, fitting⟩ := capped granted rfl
    have parts := share_add own mediator bench.contents.size granted
    have begins : Stands mediator (rest + share own mediator
          (bench.contents.size + granted) + cost bench.contents.size) later :=
      standing.congr (by simp only [surcharge, Option.getD_some]; omega)
    have least : minimal ≤ bench.contents.size + granted := by omega
    refine ((@Source.Balanced.resize _ _ _ balanced
      { bench with world := later } _ _ _ begins least fits).and
      (@Source.Ranged.resize _ ranged { bench with world := later } _ _ ordered
        least fits)).mono (fun _ _ resized => resized) ?_
    rintro fault last ⟨above, -, bound⟩
    have less : last.contents.size ≤ bench.contents.size + granted :=
      Nat.le_trans bound (Nat.max_le.mpr ⟨Nat.le_add_right _ _, Nat.le_refl _⟩)
    have shares := share_mono own mediator less
    exact above.weaken (by simp only [surcharge]; omega)
  case refused =>
    rintro granted later ⟨standing, resized⟩
    have parts := share_add own mediator bench.contents.size granted
    have owed : Stands mediator
        (rest + surcharge own mediator cost later.contents.size +
          share own mediator granted) later.world :=
      standing.congr (by rw [resized.same]; simp only [surcharge]; omega)
    exact (Mediation.stands_free owed).sure (fun _ _ last => last)
  case excess =>
    rintro granted later ⟨-, resized⟩ above
    exact absurd resized.within.2 (Nat.not_le.mpr above)
  case settled =>
    rintro granted later ⟨standing, -⟩ less
    have parts := share_add own mediator later.contents.size
      (bench.contents.size + granted - later.contents.size)
    rw [Nat.add_sub_cancel' less] at parts
    have owed : Stands mediator (rest +
        surcharge own mediator cost later.contents.size + share own mediator
        (bench.contents.size + granted - later.contents.size)) later.world :=
      standing.congr (by simp only [surcharge]; omega)
    exact (Mediation.stands_free owed).sure (fun _ _ last => last)

theorem balanced_resize
    (ranged : below.Ranged)
    (balanced : below.Balanced mediator cost)
    {bench : Workbench}
    (stands : Stands mediator
      (rest + surcharge own mediator cost bench.contents.size) bench.world)
    (accepted : minimal ≤ requested)
    (size : requested ≤ Size.limit) :
    Ends (resize own below requested minimal) bench
      (fun _ later => Stands mediator
        (rest + surcharge own mediator cost later.contents.size) later.world)
      (fun _ later => Over mediator
        (rest + surcharge own mediator cost later.contents.size) later.world) :=
  resize_rule (balanced_shrink ranged balanced stands accepted size)
    (balanced_grow ranged balanced stands accepted size)

theorem balanced_free
    (balanced : below.Balanced mediator cost)
    {world : World}
    {size : Nat}
    (stands : Stands mediator (rest + surcharge own mediator cost size) world) :
    Ends (free own below size) world (fun _ later => Stands mediator rest later)
      (fun _ later => Over mediator rest later) := by
  have owed :
      Stands mediator (rest + cost size + share own mediator size) world :=
    stands.congr (by simp only [surcharge]; omega)
  exact free_rule
    ((Mediation.stands_free owed).sure (fun _ _ standing => standing))
    fun _ standing => balanced.free standing

theorem balanced_source
    (ranged : below.Ranged)
    (balanced : below.Balanced mediator cost)
    (own : Nat) :
    (source own below).Balanced mediator (surcharge own mediator cost) where
  allocate := balanced_allocate ranged balanced
  resize := balanced_resize ranged balanced
  free := balanced_free balanced

end Mediated

namespace Bypass

variable
    {below : Source}
    {own amount mediator rest requested minimal : Nat}
    {cost : Nat → Nat}

theorem stands_readAvailable
    (stepwise : below.Stepwise)
    {world : World}
    (stands : Stands mediator rest world) :
    Ends (readAvailable own amount below) world
      (fun _ later => Stands mediator rest later)
      (fun _ later => Over mediator rest later) := by
  have read := stands.noteAll fun event member =>
    (quiet_readLocks stepwise own world event member).aside
  exact readAvailable_rule (fun _ _ => read) fun _ _ =>
    read.over (Nat.le_refl rest)

theorem balanced_allocate
    (stepwise : below.Stepwise)
    (ranged : below.Ranged)
    (balanced : below.Balanced mediator cost)
    {world : World}
    (stands : Stands mediator rest world)
    (accepted : minimal ≤ requested)
    (size : requested ≤ Size.limit) :
    Ends (allocate own amount below requested minimal) world
      (fun result later =>
        Stands mediator
          (rest + priceOf (surcharge own mediator cost) result) later)
      (fun _ later => Over mediator rest later) :=
  allocate_rule _ (stands_readAvailable stepwise stands)
    (fun _ _ standing => Mediated.balanced_allocate ranged balanced standing
      (raiseMinimal_le _ _ _) size)
    (fun _ _ standing => standing) (fun _ standing =>
      Mediated.balanced_allocate ranged balanced standing accepted size)

theorem balanced_resize
    (stepwise : below.Stepwise)
    (ranged : below.Ranged)
    (balanced : below.Balanced mediator cost)
    {bench : Workbench}
    (stands : Stands mediator
      (rest + surcharge own mediator cost bench.contents.size) bench.world)
    (accepted : minimal ≤ requested)
    (size : requested ≤ Size.limit) :
    Ends (resize own amount below requested minimal) bench
      (fun _ later => Stands mediator
        (rest + surcharge own mediator cost later.contents.size) later.world)
      (fun _ later => Over mediator
        (rest + surcharge own mediator cost later.contents.size) later.world) :=
  resize_rule _ _ (stands_readAvailable stepwise stands)
    (fun _ later standing =>
      @Mediated.balanced_resize below own mediator rest _ _ cost ranged balanced
        { bench with world := later } standing (raiseMinimal_le _ _ _) size)
    (fun _ standing => standing) (fun _ standing =>
      Mediated.balanced_resize ranged balanced standing accepted size)

theorem balanced_source
    (stepwise : below.Stepwise)
    (ranged : below.Ranged)
    (balanced : below.Balanced mediator cost)
    (own amount : Nat) :
    (source own amount below).Balanced mediator
      (surcharge own mediator cost) where
  allocate := balanced_allocate stepwise ranged balanced
  resize := balanced_resize stepwise ranged balanced
  free := Mediated.balanced_free balanced

end Bypass

namespace Guaranteed

variable {below : Source} {mediator : Nat} {cost : Nat → Nat}

theorem balanced_source
    (ranged : below.Ranged)
    (balanced : below.Balanced mediator cost)
    (own amount : Nat) :
    (source own amount below).Balanced mediator
      (surcharge own mediator cost) where
  allocate := by
    intro world rest requested minimal stands _ size
    have read := stands.noteAll
      fun event (member : event ∈ Mediation.readLocks world own) =>
      (Mediation.quiet_of_mem_readLocks member).aside
    exact allocate_rule (fun _ => read) fun _ =>
      Mediated.balanced_allocate ranged balanced read
        (Nat.le_refl requested) size
  resize := by
    intro bench rest requested minimal stands _ size
    have read := stands.noteAll fun event
        (member : event ∈ Mediation.readLocks bench.world own) =>
      (Mediation.quiet_of_mem_readLocks member).aside
    exact resize_rule (fun _ _ => read)
      (fun _ => Mediated.balanced_resize ranged balanced stands
        (Nat.le_refl requested) size)
      (fun _ _ => @Mediated.balanced_resize below own mediator rest _ _ cost
        ranged balanced
        { bench with world := _ } read (Nat.le_refl requested) size)
  free := Mediated.balanced_free balanced

end Guaranteed

namespace Clearing

theorem balanced_source
    {below : Source}
    {mediator : Nat}
    {cost : Nat → Nat}
    (balanced : below.Balanced mediator cost) :
    (source below).Balanced mediator cost where
  allocate := by
    intro world rest requested minimal stands accepted size
    refine allocate_rule ((balanced.allocate stands accepted size).mono ?_
      (fun _ _ stopped => stopped))
    intro result later standing
    cases result with
    | none => exact standing
    | some contents =>
        exact standing.congr
          (by simp only [Option.map, priceOf, Contents.size_fill])
  resize := by
    intro bench rest requested minimal stands accepted size
    refine resize_rule (balanced.resize stands accepted size)
      (fun _ _ standing _ => standing) ?_
    exact fun later standing _ =>
      standing.congr (by rw [Contents.size_zeroFrom])
  free := balanced.free

end Clearing

namespace Tallied

theorem balanced_source
    {below : Source}
    {mediator : Nat}
    {cost : Nat → Nat}
    (balanced : below.Balanced mediator cost)
    (tally : Nat) :
    (source tally below).Balanced mediator cost where
  allocate := by
    intro world rest requested minimal stands accepted size
    exact allocate_rule (balanced.allocate stands accepted size)
      (fun _ _ standing => standing.of_sameTrail rfl rfl)
      (fun _ standing => standing.of_sameTrail rfl rfl)
  resize := by
    intro bench rest requested minimal stands accepted size
    exact resize_rule (balanced.resize stands accepted size)
      (fun _ _ standing _ => standing.of_sameTrail rfl rfl)
      (fun _ _ standing _ => standing.of_sameTrail rfl rfl)
      (fun _ standing _ _ => standing.of_sameTrail rfl rfl)
      (fun _ _ standing _ _ => standing)
  free := by
    intro world rest size stands
    exact free_rule ((balanced.free stands).mono
      (fun _ _ standing => standing.of_sameTrail rfl rfl)
      (fun _ _ stopped => stopped))

end Tallied

namespace Tracked

variable
    {below : Source}
    {lineage : Lineage}
    {enforcing : Bool}
    {mediator rest : Nat}
    {cost : Nat → Nat}

theorem balanced_allocateFirst
    (balanced : below.Balanced mediator cost)
    {world : World}
    (stands : Stands mediator rest world)
    {targets : List Nat}
    (sizes : ∀ target ∈ targets, target ≤ Size.limit) :
    Ends (allocateFirst lineage enforcing below targets) world
      (fun result later => Stands mediator (rest + priceOf cost result) later)
      (fun _ later => Over mediator rest later) := by
  induction targets generalizing world with
  | nil => exact stands
  | cons target others ih =>
      have later :=
        fun other member => sizes other (List.mem_cons_of_mem target member)
      refine allocateFirst_rule
        (fun result later => Stands mediator (rest + priceOf cost result) later)
        (Stands mediator rest)
        ((tracks_charge lineage enforcing target).stands stands) ?called
        ?met ?undone ?again
      case called =>
        exact fun _ standing => balanced.allocate standing (Nat.le_refl target)
          (sizes target List.mem_cons_self)
      case met => exact fun _ _ standing => standing
      case undone =>
        exact fun _ standing =>
          (tracks_discharge lineage target).stands standing
      case again =>
        rintro _ (standing | standing)
        · exact ih standing later
        · exact ih standing later

theorem balanced_resizeTo
    (ranged : below.Ranged)
    (balanced : below.Balanced mediator cost)
    {bench : Workbench}
    (stands : Stands mediator (rest + cost bench.contents.size) bench.world)
    {target : Nat}
    (size : target ≤ Size.limit) :
    Ends (resizeTo lineage enforcing below bench.contents.size target) bench
      (fun _ later =>
        Stands mediator (rest + cost later.contents.size) later.world)
      (fun _ later =>
        Over mediator (rest + cost later.contents.size) later.world) := by
  refine Ends.ite (fun smaller => ?_) (fun notSmaller => ?_)
  · refine shrinkTo_rule
      (((balanced.resize stands (Nat.le_refl target) size).and
        (ranged.resize stands.orderly (Nat.le_refl target) size)).mono
        (fun _ _ resized => resized) (fun _ _ stopped => stopped.1))
      ?refused ?grown ?cut
    case refused => exact fun _ resized => resized.1
    case grown =>
      rintro later ⟨-, resized⟩ larger
      exact absurd (Nat.le_trans resized.within.2 smaller)
        (Nat.not_le.mpr larger)
    case cut =>
      rintro later ⟨standing, -⟩ -
      exact (tracks_discharge lineage _).stands standing
  · refine growTo_rule
      (fun _ later => Stands mediator (rest + cost bench.contents.size) later)
      (fun _ later =>
        Stands mediator (rest + cost later.contents.size) later.world)
      (Nat.not_le.mp notSmaller)
      ((tracks_charge lineage enforcing _).stands stands)
      (fun _ standing => standing) ?called (fun _ standing => standing) ?refused
    case called =>
      intro later standing
      exact @Source.Balanced.resize _ _ _ balanced
        { bench with world := later } _ _ _ standing (Nat.le_refl target) size
    case refused =>
      exact fun _ standing => (tracks_discharge lineage _).stands standing

theorem balanced_resizeFirst
    (ranged : below.Ranged)
    (balanced : below.Balanced mediator cost)
    {bench : Workbench}
    (stands : Stands mediator (rest + cost bench.contents.size) bench.world)
    {targets : List Nat}
    (sizes : ∀ target ∈ targets, target ≤ Size.limit) :
    Ends (resizeFirst lineage enforcing below bench.contents.size targets) bench
      (fun _ later =>
        Stands mediator (rest + cost later.contents.size) later.world)
      (fun _ later =>
        Over mediator (rest + cost later.contents.size) later.world) := by
  induction targets generalizing bench with
  | nil => exact stands
  | cons target others ih =>
      have later :=
        fun other member => sizes other (List.mem_cons_of_mem target member)
      have inside := sizes target List.mem_cons_self
      refine resizeFirst_rule _
        (((balanced_resizeTo ranged balanced stands inside).and
          (ranged_resizeTo ranged stands.orderly inside)).mono
          (fun _ _ resized => resized) (fun _ _ stopped => stopped.1))
        ?met ?again
      case met => exact fun _ resized => resized.1
      case again =>
        rintro last ⟨standing, resized⟩
        rw [← resized.same]
        exact ih standing later

theorem balanced_source
    (ranged : below.Ranged)
    (balanced : below.Balanced mediator cost)
    (lineage : Lineage)
    (enforcing : Bool) :
    (source lineage enforcing below).Balanced mediator cost where
  allocate := by
    intro world rest requested minimal stands accepted size
    exact balanced_allocateFirst balanced stands fun _ member =>
      Nat.le_trans (within_of_mem_targets accepted member).2 size
  resize := by
    intro bench rest requested minimal stands accepted size
    refine (ends_bind Resizing.size _).mpr ?_
    exact balanced_resizeFirst ranged balanced stands fun _ member =>
      Nat.le_trans (within_of_mem_targets accepted member).2 size
  free := by
    intro world rest size stands
    exact free_rule (balanced.free stands)
      fun _ standing => (tracks_discharge lineage size).stands standing

end Tracked

namespace Locked

theorem balanced_source
    {below : Source}
    {mediator : Nat}
    {cost : Nat → Nat}
    (balanced : below.Balanced mediator cost)
    (lock : Nat) :
    (source lock below).Balanced mediator cost where
  allocate := by
    intro world rest requested minimal stands accepted size
    refine (ends_holding _ _).mpr ?_
    exact (balanced.allocate (stands.acquire (.layer lock)) accepted size).mono
      (fun _ _ standing => standing.release _)
      (fun _ _ above => above.release _)
  resize := by
    intro bench rest requested minimal stands accepted size
    refine (ends_holdingResizing _ _).mpr ?_
    exact (@Source.Balanced.resize _ _ _ balanced { bench with world := _ } _
      _ _ (stands.acquire (.layer lock)) accepted size).mono
      (fun _ _ standing => standing.release _)
      (fun _ _ above => above.release _)
  free := by
    intro world rest size stands
    refine (ends_holding _ _).mpr ?_
    exact (balanced.free (stands.acquire (.layer lock))).mono
      (fun _ _ standing => standing.release _)
      (fun _ _ above => above.release _)

end Locked

namespace Probe

theorem balanced_source
    {below : Source}
    {mediator : Nat}
    {cost : Nat → Nat}
    (balanced : below.Balanced mediator cost)
    (probe : Nat)
    (screen : Screen) :
    (source probe screen below).Balanced mediator cost where
  allocate := by
    intro world rest requested minimal stands accepted size
    have counted : Stands mediator rest (world.countProbe probe) :=
      stands.of_sameTrail rfl rfl
    have lowered := Nat.le_trans (screen.lower_le requested minimal) size
    exact allocate_rule counted
      (balanced.allocate counted (screen.le_lower accepted) lowered)
  resize := by
    intro bench rest requested minimal stands accepted size
    have counted : Stands mediator (rest + cost bench.contents.size)
        (bench.world.countProbe probe) := stands.of_sameTrail rfl rfl
    have lowered := Nat.le_trans (screen.lower_le requested minimal) size
    exact resize_rule counted
      (@Source.Balanced.resize _ _ _ balanced { bench with world := _ }
        _ _ _ counted (screen.le_lower accepted) lowered)
  free := balanced.free

end Probe

/--
What a buffer of some size costs of a mediator under a layer, given what
it costs below.
-/
def Layer.cost
    (layer : Layer)
    (mediator : Nat)
    (below : Nat → Nat)
    (size : Nat) : Nat :=
  below size + if layer.charges mediator then size else 0

theorem Layer.balanced_over
    (layer : Layer)
    {below : Source}
    {mediator : Nat}
    {cost : Nat → Nat}
    (stepwise : below.Stepwise)
    (ranged : below.Ranged)
    (balanced : below.Balanced mediator cost) :
    (layer.over below).Balanced mediator (layer.cost mediator cost) := by
  have free : ∀ layer : Layer, layer.charges mediator = false →
      layer.cost mediator cost = cost := by
    intro layer free
    funext size
    rw [Layer.cost, free]
    rfl
  have charged : ∀ (layer : Layer) (own : Nat),
      layer.charges mediator = decide (own = mediator) →
      layer.cost mediator cost = surcharge own mediator cost := by
    intro layer own charges
    funext size
    rw [Layer.cost, charges, surcharge, share]
    simp only [decide_eq_true_eq]
  cases layer with
  | mediated own =>
      exact charged (.mediated own) own rfl ▸
        Mediated.balanced_source ranged balanced own
  | clearing => exact free .clearing rfl ▸ Clearing.balanced_source balanced
  | bypass own amount =>
      exact charged (.bypass own amount) own rfl ▸
        Bypass.balanced_source stepwise ranged balanced own amount
  | tallied tally =>
      exact free (.tallied tally) rfl ▸ Tallied.balanced_source balanced tally
  | tracked lineage enforcing =>
      exact free (.tracked lineage enforcing) rfl ▸
        Tracked.balanced_source ranged balanced lineage enforcing
  | locked lock =>
      exact free (.locked lock) rfl ▸ Locked.balanced_source balanced lock
  | relay => exact free .relay rfl ▸ balanced
  | guaranteed own amount =>
      exact charged (.guaranteed own amount) own rfl ▸
        Guaranteed.balanced_source ranged balanced own amount
  | probe number screen =>
      exact free (.probe number screen) rfl ▸
        Probe.balanced_source balanced number screen

namespace Allocator

/--
What a buffer of some size costs of a mediator: its size, once for each layer
that charges the mediator.
-/
def cost (allocator : Allocator) (mediator size : Nat) : Nat :=
  size * allocator.countLayers (·.charges mediator)

/-- Every allocator keeps the books. -/
theorem balanced_source (allocator : Allocator) (mediator : Nat) :
    allocator.source.Balanced mediator (allocator.cost mediator) := by
  obtain ⟨layers, heap⟩ := allocator
  induction layers with
  | nil =>
      have nothing :
          ({ layers := [], heap } : Allocator).cost mediator = fun _ => 0 :=
        funext fun size => Nat.mul_zero size
      exact nothing ▸ (Heap.balanced_source heap mediator).noting
        (Heap.ranged_source heap) .heap
  | cons layer layers ih =>
      have ranged := ranged_source { layers, heap }
      have more :
          ({ layers := layer :: layers, heap } : Allocator).cost mediator =
            layer.cost mediator
            (({ layers, heap } : Allocator).cost mediator) := by
        funext size
        simp only [cost, countLayers, Layer.cost, List.countP_cons, Nat.mul_add]
        split
        · rw [Nat.mul_one]
        · rw [Nat.mul_zero]
      have stepwise := stepwise_source { layers, heap }
      exact more ▸ (layer.balanced_over stepwise ranged ih).noting
        (layer.ranged_over stepwise ranged) (.layer layer)

end Allocator

end BufferBudget
