import BufferBudget.Proofs.Deciding
import BufferBudget.Proofs.Requests
import Mathlib.Data.List.Basic

/-!
# Asking for less never turns a grant into a refusal

The contract of sources about which requests are met, for layers that charge
trackers, and with it for every stack whose layers charge accounts apart from
each other.  A stack then meets a request just where the verdict says so, at
whatever standing it is asked, and the verdict is monotone: of two requests put
in the same state, the one that asks for less and accepts less is met if the
other is.

A tracker that is taken past the greatest amount is excluded: where its limit
would let that pass, the counter no longer says what has been charged
(`Event.Breaches`), and where it has none the call stops.
-/

namespace BufferBudget

namespace Standing

variable
    {standing : Standing}
    {tracker : Nat}
    {rest accepted : List Nat}
    {bytes : Int}

theorem admits_cons :
    standing.Admits (tracker :: rest) bytes ↔
      standing.Admits [tracker] bytes ∧ standing.Admits rest bytes := by
  simp only [Admits, List.forall_mem_cons, List.not_mem_nil, false_implies,
    implies_true, and_true]

/-- What has been charged to others leaves a tracker the room that it had. -/
theorem admits_charge_iff (apart : tracker ∉ accepted) (charged : Int) :
    (standing.charge charged accepted).Admits [tracker] bytes ↔
      standing.Admits [tracker] bytes := by
  have same : (standing.charge charged accepted).consumption tracker =
      standing.consumption tracker := by
    show standing.consumption tracker + charged * accepted.count tracker = _
    rw [List.count_eq_zero_of_not_mem apart, Int.natCast_zero,
      Int.mul_zero, Int.add_zero]
  simp only [Admits, List.forall_mem_singleton, same]
  rfl

end Standing

/--
A tracker decides on the very sum, unless it is past the greatest amount and
would be let pass.
-/
theorem RestsAt.admits_iff
    {watch : Watch}
    {standing : Standing}
    {world : World}
    {tracker : Nat}
    {bytes limit : Int}
    (rests : RestsAt watch standing world)
    (positive : 0 ≤ bytes)
    (limited : (world.trackers.entry tracker).limit = some limit)
    (clear : watch.Clear (world.note (.weighed tracker
      ((world.trackers.entry tracker).consumption + bytes)))) :
    (world.trackers.entry tracker).admits bytes = true ↔
      (world.trackers.entry tracker).consumption + bytes ≤ limit := by
  rw [Tracker.admits, limited, decide_eq_true_eq, Tracker.target]
  by_cases beyond : Amount.greatest <
    (world.trackers.entry tracker).consumption + bytes
  · rw [Amount.saturate_of_lt beyond]
    have below : limit < Amount.greatest := by
      refine Int.not_le.mp fun atLimit => ?_
      have watched := rests.covers tracker limit _ limited atLimit beyond
      have already := rests.bound_le
      rw [Watch.Clear, World.trail_note, List.countP_cons, if_pos watched]
        at clear
      omega
    omega
  · have least := (rests.measured tracker).1
    rw [Amount.saturate_of_inRange ⟨by omega, Int.not_lt.mp beyond⟩]

namespace Charging

variable {watch : Watch} {standing : Standing} {world : World} {bytes : Int}

theorem decides_tryAdd
    (rests : RestsAt watch standing world)
    (positive : 0 ≤ bytes)
    (tracker : Nat) :
    Ends (tryAdd bytes tracker) world (fun admitted later =>
      Decided watch (standing.Admits [tracker] bytes) admitted later)
      (fun _ _ => True) := by
  refine (Operation.Tracks.acts
    (@tracks_tryAdd [tracker] tracker bytes List.mem_cons_self)).ends_of_clear
    fun clear => ?_
  obtain rfl := rests.standing clear
  have admits_iff : ∀ limit, (world.trackers.entry tracker).limit = some limit →
      (world.standing.Admits [tracker] bytes ↔
        (world.trackers.entry tracker).consumption + bytes ≤ limit) := by
    intro limit limited
    simp only [Standing.Admits, List.forall_mem_singleton]
    refine ⟨fun all => all limit limited, fun within other same => ?_⟩
    obtain rfl := Option.some.inj (limited.symm.trans same)
    exact within
  rw [tryAdd, ends_bind, ends_get]
  by_cases unlimited : (world.trackers.entry tracker).limit.isNone = true
  · rw [if_pos unlimited]
    refine ends_somehow.bind fun _ _ _ => decided_true fun _ => ?_
    intro key member limit limited
    rw [List.mem_singleton.mp member] at limited
    cases limited.symm.trans (Option.isNone_iff_eq_none.mp unlimited)
  · rw [if_neg unlimited, ends_bind, ends_note]
    obtain ⟨limit, limited⟩ := Option.ne_none_iff_exists'.mp
      fun none => unlimited (Option.isNone_iff_eq_none.mpr none)
    refine Ends.ite (fun refused => ?_) (fun admitted => ?_)
    · refine decided_false fun clearLater => ?_
      rw [admits_iff limit limited,
        ← rests.admits_iff positive limited clearLater]
      simpa using refused
    · have within : watch.Clear (world.note (.weighed tracker
          ((world.trackers.entry tracker).consumption + bytes))) →
            world.standing.Admits [tracker] bytes := by
        intro clearLater
        rw [admits_iff limit limited,
          ← rests.admits_iff positive limited clearLater]
        simpa using admitted
      rw [ends_bind, ends_modify]
      have reaching := Operation.Tracks.acts (@tracks_reach [tracker] tracker
        List.mem_cons_self ((world.trackers.entry tracker).target bytes))
      exact Ends.bind (Leads.ends_keeping reaching within) fun _ _ kept =>
        decided_true kept

theorem decides_tryAddAll
    {accepted rest : List Nat}
    (positive : 0 ≤ bytes)
    (rests : RestsAt watch (standing.charge bytes accepted) world)
    (distinct : (accepted ++ rest).Nodup) :
    Ends (tryAddAll bytes accepted rest) world (fun admitted later =>
      Decided watch (standing.Admits rest bytes) admitted later)
      (fun _ _ => True) := by
  induction rest generalizing accepted world with
  | nil => exact decided_true fun _ => nofun
  | cons tracker rest ih =>
      have apart : tracker ∉ accepted :=
        fun member => (List.nodup_append.mp distinct).2.2 tracker member tracker
          List.mem_cons_self rfl
      refine ((rests_tryAdd rests positive tracker).both
        (decides_tryAdd rests positive tracker)).bind ?_
      rintro admitted later ⟨tried, decided⟩
      rw [Decided, Standing.admits_charge_iff apart] at decided
      cases admitted with
      | true =>
          rw [List.append_cons] at distinct
          have further : RestsAt watch
              (standing.charge bytes (accepted ++ [tracker])) later :=
            tried.congr (standing.charge_append bytes accepted [tracker]).symm
          refine (Operation.Tracks.acts
            (@tracks_tryAddAll (accepted ++ [tracker] ++ rest) bytes
              (accepted ++ [tracker]) rest (fun _ => List.mem_append_left rest)
              (fun _ => List.mem_append_right _))).ends_of_clear fun clear => ?_
          refine (ih further distinct).decided_congr ?_
          rw [Standing.admits_cons, and_iff_right ((decided clear).mp rfl)]
      | false =>
          have returned : Operation.Acts (accepted.forM (subtract bytes)) :=
            Operation.Tracks.acts (Operation.leads_forM fun _ =>
              tracks_subtract bytes)
          refine (returned.ends_keeping fun clear => ?_).bind fun _ _ kept =>
            decided_false kept
          rw [Standing.admits_cons]
          exact fun admits => Bool.false_ne_true ((decided clear).mpr admits.1)

theorem decides_tryConsume
    (rests : RestsAt watch standing world)
    (positive : 0 ≤ bytes)
    {lineage : Lineage}
    (distinct : lineage.members.Nodup) :
    Ends (tryConsume lineage bytes) world (fun admitted later =>
        Decided watch
          (bytes ≤ 0 ∨ standing.Admits lineage.members bytes) admitted later)
      (fun _ _ => True) := by
  rw [tryConsume, ends_bind, ends_note]
  have noted := rests.note (.tracked lineage.tracker (.tryConsume bytes))
  refine Ends.ite (fun empty => ?_) (fun notEmpty => ?_)
  · exact ends_somehow.bind fun _ _ _ => decided_true fun _ => .inl empty
  · have charged := noted.congr (standing.charge_nil bytes).symm
    exact (decides_tryAddAll positive charged distinct).decided_congr
      (or_iff_right notEmpty).symm

end Charging

namespace Tracked

variable
    {below : Source}
    {heap : Heap}
    {layers : List Layer}
    {watch : Watch}
    {standing : Standing}
    {lineage : Lineage}
    {enforcing : Bool}

theorem decides_charge
    {world : World}
    (rests : RestsAt watch standing world)
    (distinct : lineage.members.Nodup)
    (size : Nat) :
    Ends (charge lineage enforcing size) world (fun admitted later =>
        Decided watch (enforcing = true → size = 0 ∨
          standing.Admits lineage.members (Amount.ofSize size)) admitted later)
      (fun _ _ => True) := by
  have empty : Amount.ofSize size ≤ 0 ↔ size = 0 := by
    unfold Amount.ofSize Amount.greatest
    omega
  have tried :=
    Charging.decides_tryConsume rests (Amount.ofSize_nonneg size) distinct
  rw [empty] at tried
  refine charge_rule tried ?admitted ?refused ?forced
  case admitted =>
    exact fun later decided =>
      decided_true fun clear _ => (decided clear).mp rfl
  case refused =>
    intro later decided strict
    exact decided_false fun clear admits =>
      Bool.false_ne_true ((decided clear).mpr (admits strict))
  case forced =>
    intro later _ lenient
    exact ends_of_forall (fun _ _ => decided_true fun _ strict =>
      absurd (lenient.symm.trans strict) nofun) (fun _ _ => trivial)

/-- A size is tried with success in front of layers over a heap. -/
abbrev Succeeds
    (standing : Standing)
    (heap : Heap)
    (held : Option Nat)
    (layers : List Layer)
    (lineage : Lineage)
    (enforcing : Bool)
    (target : Nat) : Prop :=
  standing.Takes lineage enforcing (held.getD 0)
    (standing.Meets heap held layers) target

/--
Whatever has been charged by then, a size that is admitted is tried with success
just where it is met below.
-/
theorem succeeds_iff_of_admitted
    {held : Option Nat}
    {target : Nat}
    {bytes : Int}
    (apart : ∀ layer ∈ layers, ∀ tracker ∈ lineage.members,
      layer.chargesTracker tracker = false)
    (admitted : enforcing = true → target - held.getD 0 = 0 ∨
      standing.Admits lineage.members (Amount.ofSize (target - held.getD 0))) :
    (standing.charge bytes lineage.members).Meets heap held
        layers target target ↔
      Succeeds standing heap held layers lineage enforcing target := by
  rw [Standing.meets_congr (Standing.agreesOn_charge apart standing bytes),
    Succeeds, Standing.Takes, ← Nat.sub_eq_zero_iff_le]
  exact (and_iff_right admitted).symm

theorem not_succeeds_of_refused
    {held : Option Nat}
    {target : Nat}
    (refused : ¬(enforcing = true → target - held.getD 0 = 0 ∨
      standing.Admits lineage.members (Amount.ofSize (target - held.getD 0)))) :
    ¬Succeeds standing heap held layers lineage enforcing target := by
  rw [Succeeds, Standing.Takes, ← Nat.sub_eq_zero_iff_le]
  exact fun succeeds => refused succeeds.1

/-- A size within a buffer that is held is always tried with success. -/
theorem succeeds_of_owned
    {held : Option Nat}
    {target : Nat}
    (owned : Owned held target) :
    Succeeds standing heap held layers lineage enforcing target := by
  obtain ⟨old, rfl, within⟩ := owned
  exact ⟨fun _ => .inl within, Standing.meets_of_owned ⟨old, rfl, within⟩⟩

theorem meets_tracked_iff {held : Option Nat} {requested minimal : Nat} :
    (∃ target ∈ targets requested minimal,
      Succeeds standing heap held layers lineage enforcing target) ↔
        standing.Meets heap held
          (.tracked lineage enforcing :: layers) requested minimal := by
  refine ⟨.inr, fun met => met.elim (fun owned => ?_) id⟩
  exact ⟨requested, mem_targets.mpr (.inl rfl), succeeds_of_owned owned⟩

section Sources

variable
    (decides : below.Decides heap layers)
    (stepwise : below.Stepwise)
    (distinct : lineage.members.Nodup)
    (apart : ∀ layer ∈ layers, ∀ tracker ∈ lineage.members,
      layer.chargesTracker tracker = false)

include decides stepwise distinct apart

theorem decides_resizeTo
    {bench : Workbench}
    (rests : RestsAt watch standing bench.world)
    (onQuotas : standing.OnQuotas layers)
    (target : Nat) :
    Ends (resizeTo lineage enforcing below bench.contents.size target) bench
      (fun met later =>
        Decided watch (Succeeds standing heap
          (some bench.contents.size) layers lineage enforcing target)
          met later.world)
      (fun _ _ => True) := by
  refine Ends.ite (fun within => ?shrunk) (fun notWithin => ?grown)
  case shrunk =>
    have owned : Owned (some bench.contents.size) target := ⟨_, rfl, within⟩
    have asked :=
      (decides.resize rests onQuotas (Nat.le_refl target)).decided_congr
        (iff_of_true (Standing.meets_of_owned owned) (@succeeds_of_owned heap
          layers standing lineage enforcing _ target owned))
    exact shrinkTo_rule asked (fun _ decided => decided)
      (fun _ _ _ => trivial) fun _ decided _ =>
      (Operation.Tracks.acts (tracks_discharge lineage _)).ends_keeping decided
  case grown =>
    have larger := Nat.not_le.mp notWithin
    refine growTo_rule _ (fun met later => Decided watch (Succeeds standing heap
      (some bench.contents.size) layers lineage enforcing target)
      met later.world)
      larger ((rests_charge rests (target - bench.contents.size)).both
        (decides_charge rests distinct (target - bench.contents.size)))
      ?turnedAway ?called (fun _ decided => decided) ?refused
    case turnedAway =>
      rintro later ⟨-, decided⟩
      refine decided_false fun clear => not_succeeds_of_refused fun admits => ?_
      exact Bool.false_ne_true ((decided clear).mpr admits)
    case called =>
      rintro later ⟨charged, decided⟩
      refine (stepwise.resize target target).ends_of_clear fun clear => ?_
      have onQuotasBelow := onQuotas.congr (Standing.agreesOn_charge apart
        standing (Amount.ofSize (target - bench.contents.size)))
      refine (@Source.Decides.resize _ _ _ decides _ _
        { bench with world := later } _ _ charged
        onQuotasBelow (Nat.le_refl target)).decided_congr ?_
      exact succeeds_iff_of_admitted apart ((decided clear).mp rfl)
    case refused =>
      exact fun later decided =>
        (Operation.Tracks.acts (tracks_discharge lineage _)).ends_keeping
        decided

variable (atomic : below.Atomic)

include atomic

theorem decides_allocateFirst
    {world : World}
    (rests : RestsAt watch standing world)
    (onQuotas : standing.OnQuotas layers)
    (targets : List Nat) :
    Ends (allocateFirst lineage enforcing below targets) world
      (fun result later =>
        Decided watch (∃ target ∈ targets,
          Succeeds standing heap none layers lineage enforcing target)
          result.isSome later)
      (fun _ _ => True) := by
  induction targets generalizing world with
  | nil => exact decided_false fun _ => nofun
  | cons target rest ih =>
      refine allocateFirst_rule (fun result later =>
        ReturnsTo watch (standing.charge (Amount.ofSize target) lineage.members)
          result later ∧
            Decided watch
              (Succeeds standing heap none layers lineage enforcing target)
              result.isSome later)
        (fun later => RestsAt watch standing later ∧ (watch.Clear later →
          ¬Succeeds standing heap none layers lineage enforcing target))
        ((rests_charge rests target).both
          (decides_charge rests distinct target)) ?called ?met
        ?undone ?again
      case called =>
        rintro later ⟨charged, decided⟩
        refine (atomic.allocate target target charged).both ?_
        refine (stepwise.allocate target target).ends_of_clear fun clear => ?_
        have onQuotasBelow := onQuotas.congr
          (Standing.agreesOn_charge apart standing (Amount.ofSize target))
        refine (decides.allocate charged onQuotasBelow
          (Nat.le_refl target)).decided_congr ?_
        exact succeeds_iff_of_admitted apart ((decided clear).mp rfl)
      case met =>
        rintro contents later ⟨-, decided⟩
        exact decided_true fun clear =>
          ⟨target, List.mem_cons_self, (decided clear).mp rfl⟩
      case undone =>
        rintro later ⟨returns, decided⟩
        refine (rests_discharge returns.rests).both ?_
        exact
          (Operation.Tracks.acts (tracks_discharge lineage target)).ends_keeping
          fun clear succeeds =>
          Bool.false_ne_true ((decided clear).mpr succeeds)
      case again =>
        intro later after
        have ⟨resting, failed⟩ : RestsAt watch standing later ∧
          (watch.Clear later →
            ¬Succeeds standing heap none layers lineage enforcing target) := by
          rcases after with ⟨uncharged, decided⟩ | undone
          · refine ⟨uncharged, fun clear =>
              not_succeeds_of_refused fun admits => ?_⟩
            exact Bool.false_ne_true ((decided clear).mpr admits)
          · exact undone
        refine (acts_allocateFirst stepwise lineage enforcing
          rest).ends_of_clear fun clear => ?_
        refine (ih resting).decided_congr ?_
        rw [List.exists_mem_cons_iff]
        exact (or_iff_right (failed clear)).symm

theorem decides_resizeFirst
    {bench : Workbench}
    (rests : RestsAt watch standing bench.world)
    (onQuotas : standing.OnQuotas layers)
    (targets : List Nat) :
    Ends (resizeFirst lineage enforcing below bench.contents.size targets) bench
      (fun met later =>
        Decided watch (∃ target ∈ targets, Succeeds standing heap
          (some bench.contents.size) layers lineage enforcing target)
          met later.world)
      (fun _ _ => True) := by
  induction targets generalizing bench with
  | nil => exact decided_false fun _ => nofun
  | cons target rest ih =>
      refine resizeFirst_rule (fun met later =>
        ResizingReturnsTo watch standing bench.contents met later ∧
          Decided watch (Succeeds standing heap
            (some bench.contents.size) layers lineage enforcing target)
            met later.world)
        ((atomic_resizeTo atomic rests _ target).both (decides_resizeTo decides
          stepwise distinct apart rests onQuotas target))
        ?met ?again
      case met =>
        rintro later ⟨-, decided⟩
        exact decided_true fun clear =>
          ⟨target, List.mem_cons_self, (decided clear).mp rfl⟩
      case again =>
        rintro later ⟨returns, decided⟩
        refine (acts_resizeFirst stepwise lineage enforcing _
          rest).ends_of_clear fun clear => ?_
        rw [← returns.same]
        refine (ih returns.rests).decided_congr ?_
        rw [List.exists_mem_cons_iff]
        refine (or_iff_right fun succeeds => ?_).symm
        exact Bool.false_ne_true ((decided clear).mpr (returns.same ▸ succeeds))

theorem decides_source :
    (source lineage enforcing below).Decides heap
      (.tracked lineage enforcing :: layers) where
  allocate := by
    intro watch standing world requested minimal rests onQuotas _
    exact (decides_allocateFirst decides stepwise distinct apart atomic rests
      onQuotas.tail (targets requested minimal)).decided_congr meets_tracked_iff
  resize := by
    intro watch standing bench requested minimal rests onQuotas _
    refine (ends_bind Resizing.size _).mpr ?_
    exact (decides_resizeFirst decides stepwise distinct apart atomic rests
      onQuotas.tail (targets requested minimal)).decided_congr meets_tracked_iff

end Sources

end Tracked

/--
A layer decides as the verdict says over a source that does, if it is apart from
the layers of that source.
-/
theorem Layer.decides_over
    {layer : Layer}
    (genuine : layer.Genuine)
    {below : Source}
    {heap : Heap}
    {layers : List Layer}
    (decides : below.Decides heap layers)
    (stepwise : below.Stepwise)
    (atomic : below.Atomic)
    (downward : heap.Downward)
    (apart : ∀ lower ∈ layers, layer.Apart lower) :
    (layer.over below).Decides heap (layer :: layers) := by
  have mediators : ∀ mediator, layer.charges mediator = true →
      ∀ lower ∈ layers, lower.charges mediator = false :=
    fun mediator charges lower member =>
      (apart lower member).mediators mediator charges
  cases layer with
  | mediated mediator =>
      exact Mediated.decides_source decides stepwise
        (mediators mediator (decide_eq_true rfl))
  | clearing => exact Clearing.decides_source decides
  | bypass mediator amount =>
      exact Bypass.decides_source decides stepwise atomic downward
        (mediators mediator (decide_eq_true rfl)) amount
  | tallied tally => exact Tallied.decides_source decides tally
  | tracked lineage enforcing =>
      refine Tracked.decides_source decides stepwise genuine
        (fun lower member tracker among => ?_) atomic
      exact (apart lower member).trackers tracker
        (List.contains_iff_mem.mpr among)
  | locked lock => exact Locked.decides_source decides lock
  | relay => exact decides.relay
  | guaranteed mediator amount =>
      exact Guaranteed.decides_source decides stepwise
        (mediators mediator (decide_eq_true rfl)) amount
  | probe number screen => exact genuine.elim

/--
Every genuine allocator whose layers are apart from each other decides as
the verdict says.
-/
theorem Allocator.decides_source
    {allocator : Allocator}
    (genuine : allocator.Genuine)
    (downward : allocator.heap.Downward)
    (apart : allocator.layers.Pairwise Layer.Apart) :
    allocator.source.Decides allocator.heap allocator.layers := by
  obtain ⟨layers, heap⟩ := allocator
  induction layers with
  | nil => exact (Heap.decides_source heap).noting .heap
  | cons layer layers ih =>
      obtain ⟨apartFirst, apartRest⟩ := List.pairwise_cons.mp apart
      have below := ih
        (fun other member => genuine other (List.mem_cons_of_mem layer member))
        downward apartRest
      exact (Layer.decides_over (genuine layer List.mem_cons_self) below
        (Allocator.stepwise_source { layers, heap })
        (Allocator.atomic_source { layers, heap }) downward apartFirst).noting
        (.layer layer)

namespace Allocator

variable
    {allocator : Allocator}
    {watch : Watch}
    {standing : Standing}
    {requested minimal : Nat}

theorem decides_allocate
    {world : World}
    (decides : allocator.source.Decides allocator.heap allocator.layers)
    (rests : RestsAt watch standing world)
    (onQuotas : standing.OnQuotas allocator.layers) :
    Ends (allocator.allocate requested minimal) world (fun result later =>
        Decided watch (standing.Meets allocator.heap none allocator.layers
          requested minimal) result.isSome later)
      (fun _ _ => True) := by
  refine allocate_rule _ (fun _ => trivial) (decides.allocate rests onQuotas) ?_
  intro result later decided diagnostics
  rw [Option.isSome_map]
  exact decided.noteAll _

theorem decides_resize
    {bench : Workbench}
    (decides : allocator.source.Decides allocator.heap allocator.layers)
    (rests : RestsAt watch standing bench.world)
    (onQuotas : standing.OnQuotas allocator.layers) :
    Ends (allocator.resize requested minimal) bench (fun met later =>
        Decided watch (standing.Meets allocator.heap (some bench.contents.size)
          allocator.layers requested minimal) met later.world)
      (fun _ _ => True) :=
  resize_rule _ (fun _ => trivial) (decides.resize rests onQuotas)
    fun _ _ decided _ => decided.noteAll _

end Allocator

/--
Whether a charge is put to a tracker that would take it past the greatest
amount, and its limit would let that pass.
-/
def Event.breaches (limits : Nat → Option Int) : Event → Bool
  | .weighed tracker total =>
      Amount.greatest < total && (limits tracker).any (Amount.greatest ≤ ·)
  | _ => false

namespace Session

/-- Where the trackers of a session have their limits. -/
def limits (session : Session) (tracker : Nat) : Option Int :=
  (session.world.trackers.entry tracker).limit

/-- A call takes no tracker out of the range of amounts. -/
structure KeepsRange (session : Session) (outcome : Answer × Session) :
    Prop where
  ended : ∀ fault, outcome.1.fault? = some fault → ¬fault.OfAmount
  contained : ∀ event ∈ outcome.2.world.since session.world.age,
    event.breaches session.limits = false

theorem keepsRange_of_ended
    {session : Session}
    {outcome : Answer × Session}
    (ended : outcome.1.fault? = none)
    (contained : ∀ event ∈ outcome.2.world.since session.world.age,
      event.breaches session.limits = false) :
    session.KeepsRange outcome where
  ended := fun fault stopped => by cases ended.symm.trans stopped
  contained := contained

/--
A way of asking an allocator: for a buffer under an empty handle, or for another
size of a buffer that is held, of which the size is given.
-/
inductive Asks (session : Session) (allocator : Allocator) :
    (Nat → Nat → Call) → Option Nat → Prop where
  | allocate {handle : Nat} (vacant : session.shelf.find? handle = none) :
      Asks session allocator (.allocate handle allocator) none
  | resize
      {handle : Nat}
      {through : Option Allocator}
      {buffer : Buffer}
      (held : session.shelf.find? handle = some buffer)
      (own : through.getD buffer.originator = allocator) :
      Asks session allocator (.resize handle through) (some buffer.size)

/--
A request that has stopped at no fault is met just where a verdict says so.
-/
def Judged (watch : Watch) (verdict : Prop) (outcome : Answer × Session) :
    Prop :=
  outcome.1.fault? = none → watch.Clear outcome.2.world →
    (outcome.1.met?.isSome = true ↔ verdict)

variable
    {session : Session}
    {allocator : Allocator}
    {ask : Nat → Nat → Call}
    {held : Option Nat}
    {watch : Watch}
    {standing : Standing}

theorem judged_perform
    (asks : session.Asks allocator ask held)
    (decides : allocator.source.Decides allocator.heap allocator.layers)
    (rests : RestsAt watch standing session.world)
    (onQuotas : standing.OnQuotas allocator.layers)
    (requested minimal : Nat) :
    Judged watch
      (standing.Meets allocator.heap held allocator.layers requested minimal)
      (session.perform (ask requested minimal)) := by
  cases asks with
  | @allocate handle vacant =>
      rw [perform_allocate_of_vacant vacant]
      refine allocateInto_rule
        (fun result later => Judged watch _ (.allocated result, later)) ?_
      refine (Allocator.decides_allocate decides rests onQuotas).mono ?_
        (fun _ _ _ => nofun)
      intro result later decided
      refine ⟨?refused, fun buffer made => ?given⟩
      case refused =>
        rintro rfl - clear
        exact decided clear
      case given =>
        rintro - clear
        rw [made] at decided
        exact decided clear
  | @resize handle through buffer found own =>
      rw [perform_resize_of_held found own]
      refine resizeHeld_rule (fun result contents later =>
        Judged watch _ (.resized result (some contents), later)) ?_
      have resized :=
        @Allocator.decides_resize allocator watch standing requested minimal
          { world := session.world, contents := buffer.contents }
          decides rests onQuotas
      refine resized.mono ?_ (fun _ _ _ => nofun)
      intro met later decided _ clear
      cases met with
      | true => exact decided clear
      | false => exact decided clear

/-- What is met has stopped at no fault. -/
theorem fault?_of_met {answer : Answer} (met : answer.met?.isSome = true) :
    answer.fault? = none := by
  unfold Answer.met? at met
  split at met
  · rfl
  · rfl
  · rfl
  · rfl
  · exact nomatch met

/--
Where trackers keep their range, none of what is watched for has happened.
-/
theorem KeepsRange.clear
    {outcome : Answer × Session}
    (keeps : session.KeepsRange outcome)
    (changes : session.world.Changes outcome.2.world) :
    (session.world.watch (Event.breaches session.limits)).Clear
      outcome.2.world :=
  changes.clear keeps.contained

theorem rests_of_measured (measured : session.world.Measured) :
    RestsAt (session.world.watch (Event.breaches session.limits))
      session.world.standing session.world := by
  refine .now measured fun tracker limit total limited atLimit beyond => ?_
  have passes : (session.limits tracker).any (Amount.greatest ≤ ·) = true := by
    rw [limits, limited]
    exact decide_eq_true atLimit
  exact Bool.and_eq_true_iff.mpr ⟨decide_eq_true beyond, passes⟩

theorem onQuotas_standing
    {world : World}
    (onQuotas : allocator.OnQuotas world)
    (calls : List Call) :
    ((start world).performAll calls).world.standing.OnQuotas
      allocator.layers := by
  intro layer member key charges
  obtain ⟨quota, entry⟩ :=
    isQuota_performAll (onQuotas layer member key charges) calls
  exact ⟨quota, congrArg Mediator.standing entry⟩

theorem Asks.changes
    (asks : session.Asks allocator ask held)
    (requested minimal : Nat) :
    session.world.Changes
      (session.perform (ask requested minimal)).2.world := by
  cases asks with
  | allocate vacant => exact changes_perform nofun
  | resize found own => exact changes_perform nofun

theorem Asks.request?
    (asks : session.Asks allocator ask held)
    (requested minimal : Nat) :
    (ask requested minimal).request? = some (requested, minimal) := by
  cases asks with
  | allocate vacant => rfl
  | resize found own => rfl

/--
In a session that has come about by any calls, from any accounts that are fresh,
of two requests for a buffer, or of two requests about the same buffer, the one
that asks for no more and accepts no more than the other is met if the other
would be in its place.  The layers of the allocator that is asked charge quotas,
enforced or not, and trackers, and no two of them the same account; the heap
serves every size below one that it serves; and neither request takes a tracker
out of its range.
-/
theorem admission_is_monotone
    {world : World}
    (fresh : world.Fresh)
    {calls : List Call}
    (sized : ∀ call ∈ calls, call.Sized)
    {allocator : Allocator}
    (genuine : allocator.Genuine)
    (downward : allocator.heap.Downward)
    (apart : allocator.layers.Pairwise Layer.Apart)
    (onQuotas : allocator.OnQuotas world) :
    let session := (start world).performAll calls
    ∀ ask held, session.Asks allocator ask held →
      ∀ requested minimal fewer less, requested ≤ Size.limit →
        fewer ≤ requested → less ≤ minimal → less ≤ fewer →
        let dearer := session.perform (ask requested minimal)
        let cheaper := session.perform (ask fewer less)
        session.KeepsRange dearer → session.KeepsRange cheaper →
          dearer.1.met?.isSome = true → cheaper.1.met?.isSome = true := by
  intro session ask held asks requested minimal fewer less size smaller lower
    accepted dearer cheaper keepsDearer keepsCheaper met
  have rests := rests_of_measured (measured_performAll fresh.measured calls)
  have decides := Allocator.decides_source genuine downward apart
  have standsOnQuotas := onQuotas_standing onQuotas calls
  have verdict : session.world.standing.Meets allocator.heap held
      allocator.layers requested minimal :=
    (judged_perform asks decides rests standsOnQuotas requested minimal
      (fault?_of_met met)
      (keepsDearer.clear (asks.changes requested minimal))).mp met
  -- the cheaper request can stop at a fault of a tracker only,
  -- which is excluded
  have serves := serves_perform (orderly_performAll fresh sized)
    (Call.sized_of_request (asks.request? fewer less)
      (Nat.le_trans smaller size))
  have ended : cheaper.1.fault? = none := by
    cases stopped : cheaper.1.fault? with
    | none => rfl
    | some fault =>
        have keeps := serves.2 fewer less (asks.request? fewer less) accepted
        exact absurd (keeps.2 fault stopped) (keepsCheaper.ended fault stopped)
  refine (judged_perform asks decides rests standsOnQuotas fewer less ended
    (keepsCheaper.clear (asks.changes fewer less))).mpr ?_
  exact session.world.standing.meets_lowers downward held allocator.layers
    requested minimal fewer less smaller lower accepted verdict

/--
Past its ceiling a quota that is not enforced grants the 20 bytes that a request
for 40 cannot do without, and to a request for 30 that can do with one it grants
the 2 that it has left.  What the trackers and the guarantee below are asked for
is smaller then.  The same holds of the growth of a buffer.
-/
theorem admission_is_monotone_past_a_soft_ceiling :
    let allocator : Allocator :=
      { layers := [.bypass 0 4, .mediated 1, .tracked ⟨0, [1]⟩ true,
        .guaranteed 2 60], heap := .standard }
    let world : World :=
      .start [.unlimited, .ofQuota (.ofCeiling 10 false false), .unlimited]
        [.fresh "" (some 50), .fresh "" none]
    let calls : List Call := [.allocate 0 allocator 8 8]
    (((start world).performAll calls).perform
      (.allocate 1 allocator 40 20)).1.met? = some 20 ∧
      (((start world).performAll calls).perform
        (.allocate 1 allocator 30 1)).1.met?.isSome = true ∧
      (((start world).performAll calls).perform
        (.resize 0 (some allocator) 40 28)).1.met? = some 28 ∧
      (((start world).performAll calls).perform
        (.resize 0 (some allocator) 30 9)).1.met?.isSome = true := by
  intro allocator world calls
  have fresh : world.Fresh :=
    .start_quotas
      [.ofCeiling Size.limit true false, .ofCeiling 10 false false,
        .ofCeiling Size.limit true false]
      (by decide) (by decide)
  have sized : ∀ call ∈ calls, call.Sized := by
    simp [calls, Call.Sized, Size.limit]
  have genuine : allocator.Genuine := by
    simp [allocator, Allocator.Genuine, Layer.Genuine, Lineage.members]
  have downward : allocator.heap.Downward := by
    intro size fewer smaller serves
    exact decide_eq_true (Nat.lt_of_le_of_lt smaller (of_decide_eq_true serves))
  have apart : allocator.layers.Pairwise Layer.Apart := by
    simp only [allocator, List.pairwise_cons, List.forall_mem_cons,
      List.not_mem_nil,
      false_implies, implies_true, List.Pairwise.nil, and_true]
    refine ⟨⟨?_, ?_, ?_⟩, ⟨?_, ?_⟩, ?_⟩
    all_goals constructor
    all_goals grind [Layer.charges, Layer.chargesTracker]
  have onQuotas : allocator.OnQuotas world := by
    intro layer _ mediator _
    rcases mediator with _ | _ | _ | _
    all_goals exact ⟨_, rfl⟩
  have empty : (((start world).performAll calls).shelf.find? 1).map
        Buffer.size = none := by
    decide +kernel
  let asked : List Call :=
    [.allocate 1 allocator 40 20, .allocate 1 allocator 30 1,
      .resize 0 (some allocator) 40 28, .resize 0 (some allocator) 30 9]
  have found : (((start world).performAll calls).shelf.find? 0).map
        Buffer.size = some 8 := by
    decide +kernel
  obtain ⟨buffer, held, -⟩ := Option.map_eq_some_iff.mp found
  have new := @Asks.allocate _ allocator _ (Option.map_eq_none_iff.mp empty)
  have more := @Asks.resize _ allocator 0 (some allocator) buffer held rfl
  have ended : ∀ call ∈ asked,
      (((start world).performAll calls).perform call).1.fault? = none := by
    simp only [asked, List.forall_mem_cons]
    decide +kernel
  have contained : ∀ call ∈ asked,
      ∀ event ∈ (((start world).performAll calls).perform call).2.world.since
          ((start world).performAll calls).world.age,
        event.breaches ((start world).performAll calls).limits = false := by
    simp only [asked, List.forall_mem_cons]
    decide +kernel
  have keeps : ∀ call ∈ asked, ((start world).performAll calls).KeepsRange
      (((start world).performAll calls).perform call) := fun call member =>
    keepsRange_of_ended (ended call member) (contained call member)
  have met : (((start world).performAll calls).perform
      (.allocate 1 allocator 40 20)).1.met? = some 20 := by
    decide +kernel
  have grown : (((start world).performAll calls).perform
      (.resize 0 (some allocator) 40 28)).1.met? = some 28 := by
    decide +kernel
  have monotone :=
    admission_is_monotone fresh sized genuine downward apart onQuotas
  refine ⟨met, ?_, grown, ?_⟩
  · exact monotone _ none new 40 20 30 1
      (by decide) (by decide) (by decide) (by decide)
      (keeps _ (by simp [asked])) (keeps _ (by simp [asked])) (met ▸ rfl)
  · exact monotone _ _ more 40 28 30 9
      (by decide) (by decide) (by decide) (by decide)
      (keeps _ (by simp [asked])) (keeps _ (by simp [asked])) (grown ▸ rfl)

end Session

end BufferBudget
