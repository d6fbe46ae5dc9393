import BufferBudget.Proofs.Asking
import BufferBudget.Proofs.Enduring
import BufferBudget.Proofs.HardStack

/-!
# A request that can do with nothing is met

A request that accepts a buffer of no bytes is never refused, however little is
left anywhere.  Each layer has a way to see to it: a quota that grants nothing
has not denied what accepts nothing, a tracked layer tries no bytes in the end,
which no limit can turn away, and a bypass asks again as it was asked.

`Source.Yields` adds that such a request stops at no fault, unless a tracker has
been overrun.  One reading stands in the way: a bypass asks how much is left
below it, and what is left below the limit of a tracker is a difference that may
leave the range of amounts.  `Standing.Legible` says of a tracker that it does
not, whatever is charged to it besides.
-/

namespace BufferBudget

/--
What a tracker leaves below its limit is an amount, however much more is
charged to it.
-/
def Standing.Legible (standing : Standing) (tracker : Nat) : Prop :=
  ∀ limit, standing.limits tracker = some limit →
    -1 ≤ limit ∧ limit - standing.consumption tracker ≤ Amount.greatest

namespace Layer

/--
The trackers whose limits are read to find out what some layers have left.
-/
def read : List Layer → List Nat
  | [] => []
  | .tracked lineage enforcing :: _ => if enforcing then lineage.members else []
  | .guaranteed _ _ :: _ | .probe _ _ :: _ => []
  | _ :: below => read below

/--
The trackers whose limits are read in the course of a request to some layers.
-/
def consulted : List Layer → List Nat
  | [] => []
  | .bypass _ _ :: below => read below ++ consulted below
  | _ :: below => consulted below

/--
A layer never refuses a request for up to some bytes that accepts nothing.  A
guarantee grants in full, and so it is such a layer for no bytes only.
-/
def Yielding (most : Nat) : Layer → Prop
  | .guaranteed _ _ => most = 0
  | .probe _ _ => False
  | _ => True

end Layer

/-- A request for up to some bytes that accepts nothing has been met. -/
def Given (most requested minimal : Nat) (result : Option Contents) : Prop :=
  minimal = 0 → requested ≤ most → result.isSome = true

/--
The world is in order and at a standing, unless a tracker has been overrun, and
some trackers can be read there.
-/
structure Ready
    (watch : Watch)
    (standing : Standing)
    (trackers : List Nat)
    (world : World) : Prop where
  heeds : watch.Heeds
  rests : RestsAt watch standing world
  orderly : world.Orderly
  legible : ∀ tracker ∈ trackers, standing.Legible tracker

namespace Standing.Legible

variable {standing : Standing} {tracker : Nat}

theorem charge
    (legible : standing.Legible tracker)
    {bytes : Int}
    (positive : 0 ≤ bytes)
    (trackers : List Nat) :
    (standing.charge bytes trackers).Legible tracker := by
  intro limit limited
  obtain ⟨least, left⟩ := legible limit limited
  refine ⟨least, ?_⟩
  have more : 0 ≤ bytes * (trackers.count tracker : Int) :=
    Int.mul_nonneg positive (by omega)
  show limit - (standing.consumption tracker +
    bytes * (trackers.count tracker : Int)) ≤ _
  omega

end Standing.Legible

/-- What is left below legible limits can be read. -/
theorem World.spareOf_ne_error
    {world : World}
    {members : List Nat}
    {fault : Fault}
    (measured : world.Measured)
    (legible : ∀ tracker ∈ members, world.standing.Legible tracker) :
    Charging.spareOf world.trackers members ≠ .error fault := by
  intro failed
  obtain ⟨tracker, member, stopped⟩ := Charging.headroom_of_spareOf failed
  obtain ⟨-, limit, limited, outside⟩ := Charging.illegible_of_headroom stopped
  obtain ⟨least, left⟩ := legible tracker member limit limited
  have most := (measured tracker).2
  refine outside ⟨?_, left⟩
  unfold Amount.greatest at most
  unfold Amount.least
  omega

section Given

variable {most requested minimal : Nat} {result : Option Contents}

theorem given_some (contents : Contents) :
    Given most requested minimal (some contents) :=
  fun _ _ => rfl

/-- What is met of a smaller request is met of a larger one. -/
theorem Given.widen
    {fewer : Nat}
    (given : Given most fewer minimal result)
    (less : fewer ≤ requested) :
    Given most requested minimal result :=
  fun nothing fits => given nothing (Nat.le_trans less fits)

end Given

namespace Ready

variable
    {watch : Watch}
    {standing : Standing}
    {trackers : List Nat}
    {world : World}

theorem of_subset
    {others : List Nat}
    (ready : Ready watch standing trackers world)
    (subset : others ⊆ trackers) :
    Ready watch standing others world :=
  { ready with
      legible := fun tracker member => ready.legible tracker (subset member) }

theorem note
    (ready : Ready watch standing trackers world)
    {event : Event}
    (proper : event.Proper) :
    Ready watch standing trackers (world.note event) :=
  { ready with
      rests := ready.rests.note event, orderly := ready.orderly.note proper }

theorem noteAll
    (ready : Ready watch standing trackers world)
    {events : List Event}
    (aside : ∀ event ∈ events, event.Aside) :
    Ready watch standing trackers (world.noteAll events) :=
  { ready with
    rests := ready.rests.noteAll events
    orderly := ready.orderly.noteAll fun event member =>
      (aside event member).proper }

end Ready

/-- The contract of a source about requests that can do with nothing. -/
structure Source.Yields
    (source : Source)
    (most : Nat)
    (read consulted : List Nat) : Prop where
  available : ∀ {world fault}, world.Measured →
    (∀ tracker ∈ read, world.standing.Legible tracker) →
      source.available world ≠ .error fault
  allocate : ∀ {watch standing world requested minimal},
    Ready watch standing consulted world → minimal ≤ requested →
    requested ≤ Size.limit →
    Ends (source.allocate requested minimal) world
      (fun result _ => Given most requested minimal result)
      (fun _ later => ¬watch.Clear later)

section Layers

variable
    {below : Source}
    {most : Nat}
    {read consulted : List Nat}
    {watch : Watch}
    {standing : Standing}
    {world : World}
    {requested minimal : Nat}

theorem Source.Yields.noting
    {source : Source}
    (yields : source.Yields most read consulted)
    (site : Site) :
    (source.noting site).Yields most read consulted where
  available := yields.available
  allocate := fun ready accepted size =>
    noting_allocate_rule (yields.allocate ready accepted size)

theorem Heap.yields_source {heap : Heap} (serves : heap.ServesUpTo most) :
    heap.source.Yields most [] [] where
  available := nofun
  allocate := by
    intro watch standing world requested minimal _ _ _
    refine allocate_rule (fun refused _ fits => ?_) (fun _ => given_some _)
    exact nomatch refused.symm.trans (serves requested fits)

/-- A grant of nothing is no denial of what accepts nothing. -/
theorem Mediation.yields_grant
    (mediator requested minimal : Nat)
    (world : World) :
    Ends (grant mediator requested minimal) world
      (fun answer _ => minimal = 0 → answer.isSome = true)
      (fun _ _ => True) := by
  refine grant_rule (fun _ _ => rfl) (fun _ => ends_somehow)
    (fun _ _ _ _ _ => rfl)
    (fun _ _ _ less _ => ?_) (fun _ _ positive nothing => ?_)
  · exact ends_of_forall (fun _ _ nothing => by omega) fun _ _ => trivial
  · omega

namespace Mediated

variable
    {mediator : Nat}
    (yields : below.Yields most read consulted)
    (ranged : below.Ranged)

include yields

theorem available_ne_error
    {fault : Fault}
    (measured : world.Measured)
    (legible : ∀ tracker ∈ read, world.standing.Legible tracker) :
    available mediator below world ≠ .error fault := by
  intro failed
  rw [available] at failed
  cases left : below.available world with
  | ok rest =>
      rw [left] at failed
      cases failed
  | error stop => exact yields.available measured legible left

include ranged

theorem yields_allocate
    (ready : Ready watch standing consulted world)
    (accepted : minimal ≤ requested)
    (size : requested ≤ Size.limit) :
    Ends (allocate mediator below requested minimal) world
      (fun result _ => Given most requested minimal result)
      (fun _ later => ¬watch.Clear later) := by
  have settled : ∀ (later : World) (amount : Nat) (result : Option Contents),
      later.Orderly →
      Given most requested minimal result →
      Ends (Mediation.free mediator amount) later
        (fun _ _ => Given most requested minimal result)
        (fun _ last => ¬watch.Clear last) :=
    fun later amount result ordered given =>
      (Mediation.orderly_free ordered mediator amount).sure (fun _ _ _ => given)
  refine allocate_rule
    (fun _ result later => later.Orderly ∧ Given most requested minimal result)
    (Ends.stopping (((Mediation.rests_grant ready.rests).both
      (Mediation.yields_grant mediator requested minimal world)).both
      ((Mediation.ranged_grant ready.orderly mediator accepted).imp
        fun _ _ granted => granted))
      ((Mediation.ranged_grant ready.orderly mediator accepted).sure
        fun _ _ _ => trivial)) ?denied ?called ?refused ?short
    (fun _ contents _ _ _ => given_some contents)
  case denied =>
    rintro later ⟨⟨-, granted⟩, -⟩ nothing
    exact nomatch granted nothing
  case called =>
    rintro granted later ⟨⟨lent, -⟩, ordered, given⟩
    obtain ⟨enough, fitting⟩ := given granted rfl
    have fits := Nat.le_trans fitting size
    have further :
        Ready watch (standing.lend mediator granted) consulted later :=
      ⟨ready.heeds, lent, ordered, ready.legible⟩
    refine Ends.stopping (Ends.both ?_ ?_) ?_
    · exact (ranged.allocate ordered enough fits).imp fun _ _ served => served.1
    · exact (yields.allocate further enough fits).imp fun _ _ given =>
        given.widen fitting
    · exact (yields.allocate further enough fits).mono (fun _ _ _ => trivial)
        fun _ _ stopped => stopped
  case refused =>
    exact fun granted later ended => settled later granted none ended.1 ended.2
  case short =>
    exact fun granted contents later ended _ =>
      settled later _ _ ended.1 ended.2

theorem yields_source (mediator : Nat) :
    (source mediator below).Yields most read consulted where
  available := available_ne_error yields
  allocate := yields_allocate yields ranged

end Mediated

theorem Clearing.yields_source (yields : below.Yields most read consulted) :
    (source below).Yields most read consulted where
  available := yields.available
  allocate := by
    intro watch standing world requested minimal ready accepted size
    refine allocate_rule ((yields.allocate ready accepted size).mono ?_
      fun _ _ stopped => stopped)
    intro result _ given
    rw [Given, Option.isSome_map]
    exact given

theorem Tallied.yields_source
    (yields : below.Yields most read consulted)
    (tally : Nat) :
    (source tally below).Yields most read consulted where
  available := yields.available
  allocate := fun ready accepted size =>
    allocate_rule (yields.allocate ready accepted size) (fun _ _ given => given)
      (fun _ given => given)

theorem Locked.yields_source
    (yields : below.Yields most read consulted)
    (lock : Nat) :
    (source lock below).Yields most read consulted where
  available := yields.available
  allocate := by
    intro watch standing world requested minimal ready accepted size
    refine (ends_holding _ _).mpr ?_
    have acquired :
        Ready watch standing consulted (world.note (.acquired (.layer lock))) :=
      ready.note trivial
    refine (yields.allocate acquired accepted size).mono
      (fun _ _ given => given) ?_
    exact fun _ later stopped clear =>
      stopped (@Watch.Clear.of_append watch later _ clear [_] rfl)

namespace Bypass

/--
The second attempt is the one that a request which can do with
nothing relies on.
-/
theorem yields_source
    (yields : below.Yields most read consulted)
    (stepwise : below.Stepwise)
    (ranged : below.Ranged)
    (atomic : below.Atomic)
    (mediator amount : Nat) :
    (source mediator amount below).Yields most read (read ++ consulted) where
  available := by
    intro world fault measured legible failed
    cases left : Mediated.available mediator below world with
    | error stop =>
        exact Mediated.available_ne_error yields measured legible left
    | ok rest =>
        simp only [source, available, left] at failed
        cases failed
  allocate := by
    intro watch standing world requested minimal ready accepted size
    have others : Ready watch standing consulted world :=
      ready.of_subset (List.subset_append_right _ _)
    have read : Ends (readAvailable mediator amount below) world
        (fun _ later => Ready watch standing consulted later)
        (fun _ later => ¬watch.Clear later) :=
      readAvailable_rule ?read ?stopped
    refine allocate_rule
      (fun result later => result = none → Ready watch standing consulted later)
      read ?first (fun contents _ _ => given_some contents) ?again
    case read =>
      exact fun _ _ => others.noteAll fun event member =>
        (quiet_readLocks stepwise mediator world event member).aside
    case stopped =>
      intro fault failed clear
      have before : watch.Clear world :=
        @Watch.Clear.of_append watch world _ clear _ rfl
      obtain rfl := ready.rests.standing before
      cases left : Mediated.available mediator below world with
      | ok rest =>
          rw [available, left] at failed
          cases failed
      | error stop =>
          exact Mediated.available_ne_error yields ready.rests.measured
            (fun tracker member =>
              ready.legible tracker (List.mem_append_left _ member)) left
    case first =>
      intro rest later again
      refine Ends.stopping
        (((Mediated.atomic_allocate atomic requested _ again.rests).both
          ((Mediated.ranged_allocate ranged again.orderly
            (raiseMinimal_le _ _ _) size).imp
            fun _ _ served => served.1)).imp ?_) ?_
      · exact fun result last ended refused => { again with
          rests := ended.1 refused, orderly := ended.2 }
      · exact (Mediated.yields_allocate yields ranged again
          (raiseMinimal_le _ _ _) size).mono
          (fun _ _ _ => trivial) fun _ _ stopped => stopped
    case again =>
      exact fun later refused =>
        Mediated.yields_allocate yields ranged (refused rfl) accepted size

end Bypass

/-- A guarantee grants no bytes whatever is left of it. -/
theorem Guaranteed.yields_source
    (yields : below.Yields most read consulted)
    (ranged : below.Ranged)
    (none : most = 0)
    (mediator amount : Nat) :
    (source mediator amount below).Yields most [] consulted where
  available := nofun
  allocate := by
    intro watch standing world requested minimal ready accepted size
    have again := ready.noteAll fun event member =>
      (@Mediation.quiet_of_mem_readLocks world mediator event member).aside
    refine allocate_rule (fun short _ fits => ?_) (fun _ => ?_)
    · omega
    · refine (Mediated.yields_allocate yields ranged again
        (Nat.le_refl requested) size).mono
        (fun result _ given _ fits => ?_) fun _ _ stopped => stopped
      exact given (by omega) fits

namespace Tracked

variable {lineage : Lineage} {enforcing : Bool}

/--
No bytes are charged without fail, and a charge that is not past what is watched
for comes to its end.
-/
theorem yields_charge
    (ready : Ready watch standing consulted world)
    (target : Nat) :
    Ends (charge lineage enforcing target) world
      (fun admitted later =>
        RestsAt watch
          (if admitted then
            standing.charge (Amount.ofSize target) lineage.members
          else standing) later ∧
        later.Orderly ∧ (watch.Clear later → standing.Measured) ∧
          (target = 0 → admitted = true))
      (fun _ later => ¬watch.Clear later) := by
  have tracks := tracks_charge lineage enforcing target
  have nothing : Ends (charge lineage enforcing target) world
      (fun admitted _ => target = 0 → admitted = true) (fun _ _ => True) := by
    by_cases zero : target = 0
    · subst zero
      exact (charge_zero_admits lineage enforcing world).imp
        fun _ _ admitted _ => admitted
    · exact ends_of_forall (fun _ _ same => absurd same zero) fun _ _ => trivial
  refine Ends.stopping ((rests_charge ready.rests target).both
    (Ends.both ?_ (Ends.both ?_ nothing)))
    (endures_charge ready.heeds ready.rests)
  · exact (tracks.orderly ready.orderly).imp fun _ _ ordered => ordered
  · exact tracks.acts.ends_keeping ready.rests.base_measured

/-- Once they are charged, no bytes are met without fail. -/
theorem yields_charged
    (yields : below.Yields most read consulted)
    (stepwise : below.Stepwise)
    (ranged : below.Ranged)
    (atomic : below.Atomic)
    {target : Nat}
    (ready : Ready watch
      (standing.charge (Amount.ofSize target) lineage.members) consulted world)
    (based : watch.Clear world → standing.Measured)
    (size : target ≤ Size.limit) :
    Ends (below.allocate target target) world (fun result later =>
        ReturnsTo watch (standing.charge (Amount.ofSize target) lineage.members)
            result later ∧
        later.Orderly ∧ (watch.Clear later → standing.Measured) ∧
        (target = 0 → result.isSome = true))
      (fun _ later => ¬watch.Clear later) := by
  have met := yields.allocate ready (Nat.le_refl target) size
  refine Ends.stopping (Ends.both ?_ (Ends.both ?_ (Ends.both ?_ ?_))) ?_
  · exact atomic.allocate target target ready.rests
  · exact (ranged.allocate ready.orderly (Nat.le_refl target) size).imp
      fun _ _ served => served.1
  · exact (stepwise.allocate target target).ends_keeping based
  · exact met.imp fun _ _ given zero => given zero (zero ▸ Nat.zero_le most)
  · exact met.mono (fun _ _ _ => trivial) fun _ _ stopped => stopped

/--
A size that is not met is not the last one that could have been: it asks
for some bytes.
-/
theorem yields_allocateFirst
    (yields : below.Yields most read consulted)
    (stepwise : below.Stepwise)
    (ranged : below.Ranged)
    (atomic : below.Atomic)
    (ready : Ready watch standing consulted world)
    {targets : List Nat}
    (sizes : ∀ target ∈ targets, target ≤ Size.limit) :
    Ends (allocateFirst lineage enforcing below targets) world
      (fun result _ => 0 ∈ targets → result.isSome = true)
      (fun _ later => ¬watch.Clear later) := by
  induction targets generalizing world with
  | nil => exact fun impossible => absurd impossible List.not_mem_nil
  | cons target rest ih =>
      have others :=
        fun other member => sizes other (List.mem_cons_of_mem target member)
      have fits := sizes target List.mem_cons_self
      refine allocateFirst_rule (fun result later =>
        ReturnsTo watch (standing.charge (Amount.ofSize target) lineage.members)
          result later ∧
            later.Orderly ∧ (watch.Clear later → standing.Measured) ∧
            (target = 0 → result.isSome = true))
        (fun later => RestsAt watch standing later ∧ later.Orderly ∧ target ≠ 0)
        (yields_charge ready target) ?called
          (fun contents _ _ _ => rfl) ?undone ?again
      case called =>
        rintro later ⟨charged, ordered, based, -⟩
        refine yields_charged yields stepwise ranged atomic
          ⟨ready.heeds, charged, ordered, ?_⟩ based fits
        exact fun tracker member => (ready.legible tracker member).charge
          (Amount.ofSize_nonneg target) lineage.members
      case undone =>
        rintro later ⟨returns, ordered, based, given⟩
        refine Ends.stopping ((rests_discharge returns.rests).both ?_)
          (endures_discharge returns.rests based)
        exact ((tracks_discharge lineage target).orderly ordered).imp
          fun _ _ last => ⟨last, fun zero => nomatch given zero⟩
      case again =>
        intro later after
        have ⟨resting, ordered, positive⟩ :
            RestsAt watch standing later ∧ later.Orderly ∧ target ≠ 0 := by
          rcases after with ⟨uncharged, ordered, -, admitted⟩ | undone
          · exact ⟨uncharged, ordered, fun zero => nomatch admitted zero⟩
          · exact undone
        refine (ih { ready with rests := resting, orderly := ordered }
          others).mono ?_ fun _ _ stopped => stopped
        intro result _ given member
        rcases List.mem_cons.mp member with zero | further
        · exact absurd zero.symm positive
        · exact given further

theorem yields_source
    (yields : below.Yields most read consulted)
    (stepwise : below.Stepwise)
    (ranged : below.Ranged)
    (atomic : below.Atomic)
    (lineage : Lineage)
    (enforcing : Bool) :
    (source lineage enforcing below).Yields most
      (if enforcing then lineage.members else []) consulted where
  available := by
    intro world fault measured legible failed
    cases enforcing with
    | false => cases failed
    | true =>
        cases left : Charging.spare world lineage with
        | error stop => exact World.spareOf_ne_error measured legible left
        | ok spare =>
            simp only [source, available, left] at failed
            cases failed
  allocate := by
    intro watch standing world requested minimal ready accepted size
    refine (yields_allocateFirst yields stepwise ranged atomic ready
      fun target member =>
      Nat.le_trans (within_of_mem_targets accepted member).2 size).mono
      ?_ fun _ _ stopped => stopped
    exact fun result _ given nothing _ =>
      given (mem_targets.mpr (.inr nothing.symm))

end Tracked

end Layers

/--
A layer that never refuses a request which can do with nothing, over a source
that does not, makes one that does not.
-/
theorem Layer.yields_over
    {layer : Layer}
    {most : Nat}
    (yielding : layer.Yielding most)
    {below : Source}
    {layers : List Layer}
    (yields : below.Yields most (read layers) (consulted layers))
    (stepwise : below.Stepwise)
    (ranged : below.Ranged)
    (atomic : below.Atomic) :
    (layer.over below).Yields most
      (read (layer :: layers)) (consulted (layer :: layers)) := by
  cases layer with
  | mediated mediator => exact Mediated.yields_source yields ranged mediator
  | clearing => exact Clearing.yields_source yields
  | bypass mediator amount =>
      exact Bypass.yields_source yields stepwise ranged atomic mediator amount
  | tallied tally => exact Tallied.yields_source yields tally
  | tracked lineage enforcing =>
      exact Tracked.yields_source yields stepwise ranged atomic
        lineage enforcing
  | locked lock => exact Locked.yields_source yields lock
  | relay => exact yields
  | guaranteed mediator amount =>
      exact Guaranteed.yields_source yields ranged yielding mediator amount
  | probe number screen => exact yielding.elim

/-- An allocator of such layers meets every request that can do with nothing. -/
theorem Allocator.yields_source
    {allocator : Allocator}
    {most : Nat}
    (yielding : ∀ layer ∈ allocator.layers, layer.Yielding most)
    (serves : allocator.heap.ServesUpTo most) :
    allocator.source.Yields most (Layer.read allocator.layers)
      (Layer.consulted allocator.layers) := by
  obtain ⟨layers, heap⟩ := allocator
  induction layers with
  | nil => exact (Heap.yields_source serves).noting .heap
  | cons layer layers ih =>
      have below := ih (fun other member =>
        yielding other (List.mem_cons_of_mem layer member)) serves
      exact (Layer.yields_over (yielding layer List.mem_cons_self) below
        (Allocator.stepwise_source { layers, heap })
        (Allocator.ranged_source { layers, heap })
        (Allocator.atomic_source { layers, heap })).noting (.layer layer)

/-- What such a source makes is no larger than what it is asked for. -/
theorem Source.Yields.makes
    {source : Source}
    {most : Nat}
    {read consulted : List Nat}
    (yields : source.Yields most read consulted)
    (ranged : source.Ranged)
    {watch : Watch}
    {standing : Standing}
    {world : World}
    (ready : Ready watch standing consulted world)
    (size : most ≤ Size.limit) :
    Ends (source.allocate most 0) world
      (MadeWell watch fun made => ∃ granted ≤ most, made = some granted)
      (StoppedFor watch fun _ => False) := by
  refine ((yields.allocate ready (Nat.zero_le most) size).and
    (ranged.allocate ready.orderly (Nat.zero_le most) size)).mono
    ?_ fun _ _ stopped => stopped.1
  rintro result later ⟨given, served⟩ -
  obtain ⟨contents, rfl⟩ :=
    Option.isSome_iff_exists.mp (given rfl (Nat.le_refl most))
  exact ⟨contents.size, served.within.2, rfl⟩

namespace Session

variable {world : World} {allocator : Allocator} {requested : Nat}

theorem rests_of_overruns
    {session : Session}
    (measured : session.world.Measured) :
    RestsAt (session.world.watch fun event => decide event.Overruns)
      session.world.standing session.world :=
  .now measured fun _ _ _ _ _ beyond => decide_eq_true beyond

/--
In a session that has come about by any sized calls, from any accounts that are
fresh, a request for a new buffer that can do with nothing is met, with no more
than it asks for.  Its layers may charge any mediators and trackers, whatever is
left of them, but for guarantees, which may be among them where no bytes are
asked for; the heap serves every size up to the request; no tracker is overrun
in the course of it; and the limits that a bypass reads are legible.
-/
theorem zero_minimal_is_met
    (fresh : world.Fresh)
    {calls : List Call}
    (sized : ∀ call ∈ calls, call.Sized)
    (yielding : ∀ layer ∈ allocator.layers, layer.Yielding requested)
    (serves : allocator.heap.ServesUpTo requested)
    (size : requested ≤ Size.limit) :
    let session := (start world).performAll calls
    (∀ tracker ∈ Layer.consulted allocator.layers,
      session.world.standing.Legible tracker) →
      ∀ call, session.Puts allocator call none →
        call.request? = some (requested, 0) →
        (∀ event ∈ (session.perform call).2.world.since session.world.age,
          ¬event.Overruns) →
        ∃ granted ≤ requested, (session.perform call).1.met? =
          some granted := by
  intro session legible call puts request contained
  have ready : Ready (session.world.watch fun event => decide event.Overruns)
      session.world.standing (Layer.consulted allocator.layers) session.world :=
    { heeds := fun _ overruns => decide_eq_true overruns
      rests := rests_of_overruns (measured_performAll fresh.measured calls)
      orderly := orderly_performAll fresh sized
      legible }
  have yields := Allocator.yields_source yielding serves
  have told := puts.told request (Nat.zero_le requested)
    (fun _ => yields.makes allocator.ranged_source ready size) nofun
  have clear := puts.changes.clear fun event member =>
    decide_eq_false (contained event member)
  obtain ⟨granted, met, most, within, same⟩ :=
    (told clear).exists_met nofun fun _ => id
  obtain rfl := Option.some.inj same
  exact ⟨granted, within, met⟩

/--
A quota that is charged twice is used up and lowered, and a tracker is past its
limit: 40 bytes that can do with none are met with none.
-/
theorem zero_minimal_is_met_past_every_limit :
    let forced : Allocator :=
      { layers := [.tracked ⟨0, [1]⟩ false, .mediated 1], heap := .standard }
    let allocator : Allocator :=
      { layers := [.bypass 0 4, .tracked ⟨0, [1]⟩ true, .mediated 1, .tallied 0,
        .mediated 1], heap := .standard }
    let session :=
      (start (.start [.unlimited, .ofQuota (.ofCeiling 10 true false)]
        [.fresh "" (some 5), .fresh "" none])).performAll
        [.allocate 0 forced 10 10, .setCeiling 1 3]
    ∃ granted ≤ 40, (session.perform (.allocate 1 allocator 40 0)).1.met? =
      some granted := by
  intro forced allocator session
  let world : World := .start [.unlimited, .ofQuota (.ofCeiling 10 true false)]
    [.fresh "" (some 5), .fresh "" none]
  let calls : List Call := [.allocate 0 forced 10 10, .setCeiling 1 3]
  have fresh : world.Fresh :=
    .start_quotas [.ofCeiling Size.limit true false, .ofCeiling 10 true false]
      (by decide) (by decide)
  have sized : ∀ call ∈ calls, call.Sized := by
    simp [calls, Call.Sized, Size.limit]
  have yielding : ∀ layer ∈ allocator.layers, layer.Yielding 40 := by
    simp [allocator, Layer.Yielding]
  have serves : allocator.heap.ServesUpTo 40 := fun size fits =>
    decide_eq_true (Nat.lt_of_le_of_lt fits (by decide))
  have counted : (session.world.trackers.entry 0).consumption =
      10 := by decide +kernel
  have legible : ∀ tracker ∈ Layer.consulted allocator.layers,
      session.world.standing.Legible tracker := by
    have limits : (session.world.trackers.entry 0).limit = some 5 ∧
        (session.world.trackers.entry 1).limit = none := by
      decide +kernel
    intro tracker member limit limited
    simp only [allocator, Layer.consulted, Layer.read, Lineage.members, if_true,
      List.append_nil, List.mem_cons, List.not_mem_nil, or_false] at member
    rcases member with rfl | rfl
    · obtain rfl := Option.some.inj (limits.1.symm.trans limited)
      refine ⟨by decide, ?_⟩
      show 5 - (session.world.trackers.entry 0).consumption ≤ Amount.greatest
      rw [counted]
      decide
    · cases limits.2.symm.trans limited
  have empty : (session.shelf.find? 1).map Buffer.size =
      none := by decide +kernel
  exact zero_minimal_is_met fresh sized yielding serves (by decide) legible _
    (.allocate (Option.map_eq_none_iff.mp empty)) rfl (by decide +kernel)

/--
Below a limit that is the least amount there is no amount left once a byte has
been counted: a bypass that reads what is left stops there, and so does a
request that can do with nothing.
-/
theorem zero_minimal_stops_at_illegible_limit :
    ¬∀ (world : World) (calls : List Call) (allocator : Allocator)
        (requested : Nat),
      world.Fresh → (∀ call ∈ calls, call.Sized) →
      (∀ layer ∈ allocator.layers, layer.Yielding requested) →
      allocator.heap.ServesUpTo requested → requested ≤ Size.limit →
      ∀ call, ((start world).performAll calls).Puts allocator call none →
        call.request? = some (requested, 0) →
        (∀ event ∈ (((start world).performAll calls).perform call).2.world.since
          ((start world).performAll calls).world.age, ¬event.Overruns) →
        ∃ granted ≤ requested,
          (((start world).performAll calls).perform call).1.met? =
            some granted := by
  intro meets
  let forced : Allocator :=
    { layers := [.tracked ⟨0, []⟩ false], heap := .standard }
  let allocator : Allocator :=
    { layers := [.bypass 0 1, .tracked ⟨0, []⟩ true], heap := .standard }
  let world : World := .start [.unlimited] [.fresh "" (some Amount.least)]
  let calls : List Call := [.allocate 0 forced 1 1]
  have fresh : world.Fresh :=
    .start_quotas [.ofCeiling Size.limit true false] (by decide) (by decide)
  have sized : ∀ call ∈ calls, call.Sized := by
    simp [calls, Call.Sized, Size.limit]
  have yielding : ∀ layer ∈ allocator.layers, layer.Yielding 1 := by
    simp [allocator, Layer.Yielding]
  have serves : allocator.heap.ServesUpTo 1 := fun size fits =>
    decide_eq_true (Nat.lt_of_le_of_lt fits (by decide))
  have empty : (((start world).performAll calls).shelf.find? 1).map
        Buffer.size = none := by
    decide +kernel
  obtain ⟨granted, -, met⟩ := meets world calls allocator 1 fresh sized yielding
    serves (by decide) (.allocate 1 allocator 1 0)
    (.allocate (Option.map_eq_none_iff.mp empty)) rfl (by decide +kernel)
  have unmet : (((start world).performAll calls).perform
      (.allocate 1 allocator 1 0)).1.met? = none := by
    decide +kernel
  cases unmet.symm.trans met

end Session

end BufferBudget
