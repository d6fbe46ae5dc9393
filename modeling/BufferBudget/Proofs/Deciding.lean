import BufferBudget.Proofs.Refusal
import BufferBudget.Proofs.Verdict

/-!
# Sources answer as the verdict says

A source that is asked at some standing meets the request just where `Meets`
says so of its layers at that standing.  Each layer asks the source below at
another standing, that of what it has lent or charged by then; but the layers
below charge other accounts, so that their verdict is the same.

`Decides` states this as a contract of sources.  It says nothing of a request
that stops at a fault, and nothing where more has happened in the end than is
watched for.  Nothing that has happened is ever undone, so that where the end
is clear the beginning has been (`Leads.ends_of_clear`): what is said of a world
at rest may then be taken to hold all along.
-/

namespace BufferBudget

open Relation

section Watching

variable
    {σ α : Type}
    {view : σ → World}
    {stops : Fault → Prop}
    {action : EStateM Fault σ α}
    {state : σ}
    {watch : Watch}

theorem Watch.Clear.of_changes
    {world later : World}
    (clear : watch.Clear later)
    (changes : world.Changes later) :
    watch.Clear world := by
  obtain ⟨events, trail⟩ := changes.trail
  exact clear.of_append trail

/--
What has to hold of an ending that is clear may be shown as if the
beginning were.
-/
theorem Leads.ends_of_clear
    (acts : Leads view World.Step stops action)
    {onValue : α → σ → Prop}
    (fromClear : watch.Clear (view state) → Ends action state
      (fun value later => watch.Clear (view later) → onValue value later)
      (fun _ _ => True)) :
    Ends action state
      (fun value later => watch.Clear (view later) → onValue value later)
      (fun _ _ => True) := by
  by_cases clear : watch.Clear (view state)
  · exact fromClear clear
  · exact (acts state).imp (fun _ _ changes clearLater =>
      absurd (clearLater.of_changes changes) clear)

/-- What holds of a beginning that is clear holds of an ending that is. -/
theorem Leads.ends_keeping
    (acts : Leads view World.Step stops action)
    {fact : Prop}
    (holds : watch.Clear (view state) → fact) :
    Ends action state (fun _ later => watch.Clear (view later) → fact)
      (fun _ _ => True) :=
  (acts state).imp (fun _ _ changes clear => holds (clear.of_changes changes))

/--
An answer is what a verdict says, unless more has happened by then than
is watched for.
-/
def Decided (watch : Watch) (verdict : Prop) (answer : Bool) (later : World) :
    Prop :=
  watch.Clear later → (answer = true ↔ verdict)

theorem Decided.congr
    {verdict other : Prop}
    {answer : Bool}
    {later : World}
    (decided : Decided watch verdict answer later)
    (same : verdict ↔ other) :
    Decided watch other answer later :=
  fun clear => (decided clear).trans same

theorem Ends.decided_congr
    {answer : α → Bool}
    {verdict other : Prop}
    {onFault : Fault → σ → Prop}
    (ends : Ends action state (fun value later =>
      Decided watch verdict (answer value) (view later)) onFault)
    (same : verdict ↔ other) :
    Ends action state
      (fun value later => Decided watch other (answer value) (view later))
      (fun _ _ => True) :=
  ends.imp fun _ _ decided => decided.congr same

theorem Decided.note
    {verdict : Prop}
    {answer : Bool}
    {later : World}
    (decided : Decided watch verdict answer later)
    (event : Event) :
    Decided watch verdict answer (later.note event) :=
  fun clear => decided (@Watch.Clear.of_append watch later _ clear [event] rfl)

theorem Decided.noteAll
    {verdict : Prop}
    {answer : Bool}
    {later : World}
    (decided : Decided watch verdict answer later)
    (events : List Event) :
    Decided watch verdict answer (later.noteAll events) :=
  fun clear =>
    decided (@Watch.Clear.of_append watch later _ clear events.reverse rfl)

theorem decided_true
    {verdict : Prop}
    {later : World}
    (holds : watch.Clear later → verdict) :
    Decided watch verdict true later :=
  fun clear => iff_of_true rfl (holds clear)

theorem decided_false
    {verdict : Prop}
    {later : World}
    (fails : watch.Clear later → ¬verdict) :
    Decided watch verdict false later :=
  fun clear => iff_of_false Bool.false_ne_true (fails clear)

end Watching

/-- The layers that charge a mediator charge a quota. -/
def Standing.OnQuotas (standing : Standing) (layers : List Layer) : Prop :=
  ∀ layer ∈ layers, ∀ key, layer.charges key = true →
    ∃ quota, standing.mediators key = .ofQuota quota

namespace Standing

variable
    {standing other : Standing}
    {heap : Heap}
    {held : Option Nat}
    {layer : Layer}
    {layers : List Layer}
    {requested minimal : Nat}

theorem OnQuotas.tail (onQuotas : standing.OnQuotas (layer :: layers)) :
    standing.OnQuotas layers :=
  fun lower member => onQuotas lower (List.mem_cons_of_mem layer member)

theorem OnQuotas.congr
    (onQuotas : standing.OnQuotas layers)
    (agrees : AgreesOn layers other standing) :
    other.OnQuotas layers := by
  intro lower member key charges
  rw [agrees.mediators lower member key charges]
  exact onQuotas lower member key charges

theorem not_owned_none : ¬Owned none requested := by
  rintro ⟨old, impossible, -⟩
  exact nomatch impossible

theorem not_owned_some {size : Nat} (larger : size < requested) :
    ¬Owned (some size) requested := by
  rintro ⟨old, same, within⟩
  obtain rfl := Option.some.inj same
  exact Nat.not_le_of_lt larger within

/-- Of a buffer that is held no less is had. -/
theorem meets_of_owned (owned : Owned held requested) :
    standing.Meets heap held layers requested minimal := by
  cases layers with
  | nil => exact .inl owned
  | cons layer below => exact .inl owned

/-- A layer that asks below as it is asked makes no difference. -/
theorem meets_cons_of_passes_eq
    (same : layer.Passes standing (held.getD 0)
        (standing.Meets heap held layers) requested
        minimal = standing.Meets heap held layers requested minimal) :
    standing.Meets heap held (layer :: layers) requested minimal ↔
      standing.Meets heap held layers requested minimal := by
  rw [Meets, same]
  exact ⟨fun either => either.elim meets_of_owned id, .inr⟩

section Mediated

variable {mediator granted amount : Nat} {quota : Quota}

/--
What a quota lets pass is what is asked below, whatever has been lent
of it by then.
-/
theorem meets_mediated_of_passes
    (isQuota : standing.mediators mediator = .ofQuota quota)
    (apart : ∀ lower ∈ layers, lower.charges mediator = false)
    (notOwned : ¬Owned held requested)
    (passes : quota.passes (requested - held.getD 0) (minimal - held.getD 0) =
      some granted) :
    standing.Meets heap held (.mediated mediator :: layers) requested minimal ↔
      (standing.lend mediator amount).Meets heap held layers
        (held.getD 0 + granted) minimal := by
  rw [meets_congr (agreesOn_lend apart standing amount)]
  have answered : (standing.mediators mediator).passes (requested - held.getD 0)
      (minimal - held.getD 0) = some granted := isQuota ▸ passes
  refine ⟨?_, fun met => .inr ⟨granted, answered, met⟩⟩
  rintro (owned | ⟨own, given, met⟩)
  · exact absurd owned notOwned
  · obtain rfl := Option.some.inj (given.symm.trans answered)
    exact met

theorem not_meets_mediated
    (isQuota : standing.mediators mediator = .ofQuota quota)
    (notOwned : ¬Owned held requested)
    (denied :
      quota.passes (requested - held.getD 0) (minimal - held.getD 0) = none) :
    ¬standing.Meets heap held
      (.mediated mediator :: layers) requested minimal := by
  rintro (owned | ⟨granted, given, -⟩)
  · exact notOwned owned
  · rw [isQuota] at given
    exact nomatch given.symm.trans denied

end Mediated

end Standing

theorem Quota.le_of_passes
    {quota : Quota}
    {requested minimal granted : Nat}
    (accepted : minimal ≤ requested)
    (given : quota.passes requested minimal = some granted) :
    minimal ≤ granted := by
  rw [passes] at given
  split at given
  · rename_i empty
    exact Nat.le_trans accepted (empty ▸ Nat.zero_le granted)
  · split at given
    · rename_i enough
      exact Option.some.inj given ▸ enough
    · cases given

/-- The contract of a source about which requests are met. -/
structure Source.Decides (source : Source) (heap : Heap) (layers : List Layer) :
    Prop where
  allocate : ∀ {watch standing world requested minimal},
    RestsAt watch standing world →
    standing.OnQuotas layers → minimal ≤ requested →
    Ends (source.allocate requested minimal) world
      (fun result later => Decided watch
        (standing.Meets heap none layers requested minimal) result.isSome later)
      (fun _ _ => True)
  resize : ∀ {watch standing bench requested minimal},
    RestsAt watch standing bench.world →
    standing.OnQuotas layers → minimal ≤ requested →
    Ends (source.resize requested minimal) bench (fun met later => Decided watch
      (standing.Meets heap (some bench.contents.size) layers requested minimal)
      met later.world) (fun _ _ => True)

theorem Source.Decides.noting
    {source : Source}
    {heap : Heap}
    {layers : List Layer}
    (decides : source.Decides heap layers)
    (site : Site) :
    (source.noting site).Decides heap layers where
  allocate := by
    intro watch standing world requested minimal rests onQuotas accepted
    apply noting_allocate_rule
    exact (decides.allocate rests onQuotas accepted).imp
      (fun _ _ decided => decided.note _)
  resize := by
    intro watch standing bench requested minimal rests onQuotas accepted
    apply noting_resize_rule
    exact (decides.resize rests onQuotas accepted).imp
      (fun _ _ decided => decided.note _)

theorem Heap.decides_source (heap : Heap) : heap.source.Decides heap [] where
  allocate := by
    intro watch standing world requested minimal _ _ _
    refine allocate_rule (fun refused => ?_) (fun served => ?_)
    · refine decided_false fun _ met => ?_
      rcases met with owned | serves
      · exact Standing.not_owned_none owned
      · exact Bool.false_ne_true (refused.symm.trans serves)
    · exact decided_true fun _ => .inr served
  resize := by
    intro watch standing bench requested minimal _ _ _
    refine resize_rule (fun larger refused => ?_) (fun _ served => ?_)
      (fun smaller => ?_) (fun same => ?_)
    · refine decided_false fun _ met => ?_
      rcases met with owned | serves
      · exact Standing.not_owned_some larger owned
      · exact Bool.false_ne_true (refused.symm.trans serves)
    · exact decided_true fun _ => .inr served
    · exact decided_true fun _ => .inl ⟨_, rfl, Nat.le_of_lt smaller⟩
    · exact decided_true fun _ => .inl ⟨_, rfl, Nat.le_of_eq same⟩

theorem Mediation.decides_grant
    {watch : Watch}
    {standing : Standing}
    {world : World}
    {mediator : Nat}
    {quota : Quota}
    (rests : RestsAt watch standing world)
    (isQuota : standing.mediators mediator = .ofQuota quota)
    (requested minimal : Nat) :
    Ends (grant mediator requested minimal) world (fun answer later =>
      RestsAt watch (standing.lend mediator (answer.getD 0)) later ∧
        (watch.Clear later → answer = quota.passes requested minimal))
      (fun _ _ => True) := by
  refine (rests_grant rests).both ?_
  refine (acts_grant mediator requested minimal).ends_of_clear fun clear => ?_
  have stands :=
    congrFun (congrArg Standing.mediators (rests.standing clear)) mediator
  have held := Mediator.eq_ofQuota_of_standing (stands.trans isQuota)
  have asked : requested ≠ 0 → Ends (allocate mediator requested minimal) world
      (fun granted _ => requested ≠ 0 ∧ granted = quota.grant requested minimal)
      (fun _ _ => True) := by
    intro notEmpty
    cases answer :
      (world.mediators.entry mediator).allocate requested minimal with
    | error fault =>
        exact (ends_allocate_error answer).imp
          (fun _ _ impossible => impossible.elim)
    | ok result =>
        refine (ends_allocate answer).imp ?_
        rintro granted later ⟨rfl, -⟩
        rw [held] at answer
        rcases Mediator.allocate_cases answer with
          ⟨own, same, granted, -⟩ | ⟨_, other, -⟩
        · exact ⟨notEmpty, Mediator.ofQuota.inj same ▸ granted⟩
        · exact nomatch other
  refine grant_rule
    (fun empty _ => (if_pos empty).symm) asked ?enough ?short ?nothing
  case enough =>
    rintro granted later ⟨notEmpty, rfl⟩ enough -
    rw [Quota.passes, if_neg notEmpty, if_pos enough]
  case short =>
    rintro granted later ⟨notEmpty, rfl⟩ notEnough -
    refine ends_of_forall (fun _ _ _ => ?_) (fun _ _ => trivial)
    rw [Quota.passes, if_neg notEmpty, if_neg (Nat.not_le_of_lt notEnough)]
  case nothing =>
    rintro later ⟨notEmpty, nothing⟩ positive -
    rw [Quota.passes, if_neg notEmpty,
      if_neg (nothing ▸ Nat.not_le_of_lt positive)]

namespace Mediated

variable
    {below : Source}
    {heap : Heap}
    {layers : List Layer}
    {watch : Watch}
    {standing : Standing}
    {mediator requested minimal : Nat}
    {quota : Quota}

theorem decides_allocate
    (decides : below.Decides heap layers)
    (stepwise : below.Stepwise)
    (apart : ∀ lower ∈ layers, lower.charges mediator = false)
    {world : World}
    (rests : RestsAt watch standing world)
    (isQuota : standing.mediators mediator = .ofQuota quota)
    (onQuotas : standing.OnQuotas layers)
    (accepted : minimal ≤ requested) :
    Ends (allocate mediator below requested minimal) world (fun result later =>
        Decided watch (standing.Meets heap none
          (.mediated mediator :: layers) requested minimal) result.isSome later)
      (fun _ _ => True) := by
  refine allocate_rule (fun _ result later => Decided watch
    (standing.Meets heap none (.mediated mediator :: layers) requested minimal)
    result.isSome later)
    (Mediation.decides_grant rests isQuota _ _) ?denied ?called ?refused
    ?short (fun _ _ _ decided _ => decided)
  case denied =>
    rintro later ⟨-, answered⟩
    exact decided_false fun clear => Standing.not_meets_mediated isQuota
      Standing.not_owned_none (answered clear).symm
  case called =>
    rintro granted later ⟨lent, answered⟩
    refine (stepwise.allocate granted minimal).ends_of_clear fun clear => ?_
    have passes : quota.passes requested minimal = some granted :=
      (answered clear).symm
    have onQuotasBelow :=
      onQuotas.congr (Standing.agreesOn_lend apart standing granted)
    have asked :=
      decides.allocate lent onQuotasBelow (Quota.le_of_passes accepted passes)
    refine asked.decided_congr ?_
    have same := @Standing.meets_mediated_of_passes standing heap none layers
      requested minimal mediator granted granted quota isQuota apart
      Standing.not_owned_none passes
    rw [same, Option.getD_none, Nat.zero_add]
    rfl
  case refused =>
    exact fun granted later decided =>
      (Mediation.acts_free mediator granted).ends_keeping decided
  case short =>
    exact fun granted contents later decided _ =>
      (Mediation.acts_free mediator _).ends_keeping decided

theorem decides_shrink
    (decides : below.Decides heap layers)
    {bench : Workbench}
    (rests : RestsAt watch standing bench.world)
    (onQuotas : standing.OnQuotas layers)
    (accepted : minimal ≤ requested)
    (within : requested ≤ bench.contents.size) :
    Ends (shrink mediator below requested minimal) bench (fun met later =>
        Decided watch (standing.Meets heap (some bench.contents.size)
          (.mediated mediator :: layers) requested minimal) met later.world)
      (fun _ _ => True) := by
  have owned : Owned (some bench.contents.size) requested := ⟨_, rfl, within⟩
  have asked := (decides.resize rests onQuotas accepted).decided_congr
    (iff_of_true (Standing.meets_of_owned owned) (@Standing.meets_of_owned
      standing heap _ (.mediated mediator :: layers) _ minimal owned))
  exact shrink_rule asked (fun _ decided => decided) (fun _ _ _ => trivial)
    fun _ decided _ => (Mediation.acts_free mediator _).ends_keeping decided

theorem decides_grow
    (decides : below.Decides heap layers)
    (stepwise : below.Stepwise)
    (apart : ∀ lower ∈ layers, lower.charges mediator = false)
    {bench : Workbench}
    (rests : RestsAt watch standing bench.world)
    (isQuota : standing.mediators mediator = .ofQuota quota)
    (onQuotas : standing.OnQuotas layers)
    (accepted : minimal ≤ requested)
    (larger : bench.contents.size < requested) :
    Ends (grow mediator below requested minimal) bench (fun met later =>
        Decided watch (standing.Meets heap (some bench.contents.size)
          (.mediated mediator :: layers) requested minimal) met later.world)
      (fun _ _ => True) := by
  have notOwned := Standing.not_owned_some larger
  refine grow_rule
    (fun _ met later =>
      Decided watch (standing.Meets heap (some bench.contents.size)
        (.mediated mediator :: layers) requested minimal) met later.world)
    larger (Mediation.decides_grant rests isQuota _ _) ?denied
    (fun _ _ _ _ => trivial) ?called ?refused (fun _ _ _ _ => trivial) ?settled
  case denied =>
    rintro later ⟨-, answered⟩
    exact decided_false fun clear =>
      Standing.not_meets_mediated isQuota notOwned (answered clear).symm
  case called =>
    rintro granted later ⟨lent, answered⟩ _
    refine (stepwise.resize _ minimal).ends_of_clear fun clear => ?_
    have passes := (answered clear).symm
    have enough := Quota.le_of_passes (Nat.sub_le_sub_right accepted _) passes
    have onQuotasBelow :=
      onQuotas.congr (Standing.agreesOn_lend apart standing granted)
    refine (@Source.Decides.resize _ _ _ decides _ _
      { bench with world := later } _ minimal lent
      onQuotasBelow (by omega)).decided_congr ?_
    exact (Standing.meets_mediated_of_passes isQuota apart notOwned passes).symm
  case refused =>
    exact fun granted later decided =>
      (Mediation.acts_free mediator granted).ends_keeping decided
  case settled =>
    exact fun granted later decided _ =>
      (Mediation.acts_free mediator _).ends_keeping decided

theorem decides_resize
    (decides : below.Decides heap layers)
    (stepwise : below.Stepwise)
    (apart : ∀ lower ∈ layers, lower.charges mediator = false)
    {bench : Workbench}
    (rests : RestsAt watch standing bench.world)
    (isQuota : standing.mediators mediator = .ofQuota quota)
    (onQuotas : standing.OnQuotas layers)
    (accepted : minimal ≤ requested) :
    Ends (resize mediator below requested minimal) bench (fun met later =>
        Decided watch (standing.Meets heap (some bench.contents.size)
          (.mediated mediator :: layers) requested minimal) met later.world)
      (fun _ _ => True) :=
  resize_rule (decides_shrink decides rests onQuotas accepted)
    (decides_grow decides stepwise apart rests isQuota onQuotas accepted)

theorem decides_source
    (decides : below.Decides heap layers)
    (stepwise : below.Stepwise)
    (apart : ∀ lower ∈ layers, lower.charges mediator = false) :
    (source mediator below).Decides heap (.mediated mediator :: layers) where
  allocate := by
    intro watch standing world requested minimal rests onQuotas accepted
    obtain ⟨quota, isQuota⟩ :=
      onQuotas _ List.mem_cons_self mediator (decide_eq_true rfl)
    exact decides_allocate decides stepwise apart rests isQuota
      onQuotas.tail accepted
  resize := by
    intro watch standing bench requested minimal rests onQuotas accepted
    obtain ⟨quota, isQuota⟩ :=
      onQuotas _ List.mem_cons_self mediator (decide_eq_true rfl)
    exact decides_resize decides stepwise apart rests isQuota
      onQuotas.tail accepted

end Mediated

theorem Clearing.decides_source
    {below : Source}
    {heap : Heap}
    {layers : List Layer}
    (decides : below.Decides heap layers) :
    (source below).Decides heap (.clearing :: layers) where
  allocate := by
    intro watch standing world requested minimal rests onQuotas accepted
    refine allocate_rule
      ((decides.allocate rests onQuotas.tail accepted).imp ?_)
    intro result later decided
    rw [Option.isSome_map]
    exact decided.congr (Standing.meets_cons_of_passes_eq rfl).symm
  resize := by
    intro watch standing bench requested minimal rests onQuotas accepted
    have same := (@Standing.meets_cons_of_passes_eq standing heap
      (some bench.contents.size) .clearing layers requested minimal rfl).symm
    exact resize_rule (decides.resize rests onQuotas.tail accepted)
      (fun _ _ decided _ => decided.congr same)
      (fun _ decided _ => decided.congr same)

theorem Tallied.decides_source
    {below : Source}
    {heap : Heap}
    {layers : List Layer}
    (decides : below.Decides heap layers)
    (tally : Nat) :
    (source tally below).Decides heap (.tallied tally :: layers) where
  allocate := by
    intro watch standing world requested minimal rests onQuotas accepted
    have same := (@Standing.meets_cons_of_passes_eq standing heap none
      (.tallied tally) layers requested minimal rfl).symm
    exact allocate_rule (decides.allocate rests onQuotas.tail accepted)
      (fun _ _ decided => decided.congr same)
      (fun _ decided => decided.congr same)
  resize := by
    intro watch standing bench requested minimal rests onQuotas accepted
    have same := (@Standing.meets_cons_of_passes_eq standing heap
      (some bench.contents.size)
      (.tallied tally) layers requested minimal rfl).symm
    exact resize_rule (decides.resize rests onQuotas.tail accepted)
      (fun _ _ decided _ => decided.congr same)
      (fun _ _ decided _ => decided.congr same)
      (fun _ decided _ _ => decided.congr same)
      (fun _ _ decided _ _ => decided.congr same)

theorem Locked.decides_source
    {below : Source}
    {heap : Heap}
    {layers : List Layer}
    (decides : below.Decides heap layers)
    (lock : Nat) :
    (source lock below).Decides heap (.locked lock :: layers) where
  allocate := by
    intro watch standing world requested minimal rests onQuotas accepted
    refine (ends_holding _ _).mpr ?_
    exact (decides.allocate (rests.note _) onQuotas.tail accepted).imp
      (fun _ _ decided =>
        (decided.congr (Standing.meets_cons_of_passes_eq rfl).symm).note
          (.released (.layer lock)))
  resize := by
    intro watch standing bench requested minimal rests onQuotas accepted
    refine (ends_holdingResizing _ _).mpr ?_
    exact (@Source.Decides.resize _ _ _ decides _ _ { bench with world := _ } _
      _ (rests.note _) onQuotas.tail accepted).imp (fun _ _ decided =>
        (decided.congr (Standing.meets_cons_of_passes_eq rfl).symm).note
          (.released (.layer lock)))

theorem Source.Decides.relay
    {below : Source}
    {heap : Heap}
    {layers : List Layer}
    (decides : below.Decides heap layers) :
    below.Decides heap (.relay :: layers) where
  allocate := fun rests onQuotas accepted =>
    (decides.allocate rests onQuotas.tail accepted).decided_congr
      (Standing.meets_cons_of_passes_eq rfl).symm
  resize := fun rests onQuotas accepted =>
    (decides.resize rests onQuotas.tail accepted).decided_congr
      (Standing.meets_cons_of_passes_eq rfl).symm

namespace Guaranteed

variable
    {below : Source}
    {heap : Heap}
    {layers : List Layer}
    {watch : Watch}
    {standing : Standing}
    {mediator amount : Nat}

/--
What is left of a guaranteed amount can be read off where the world stands.
-/
theorem available_of_rests
    {world : World}
    {quota : Quota}
    (rests : RestsAt watch standing world)
    (isQuota : standing.mediators mediator = .ofQuota quota)
    (clear : watch.Clear world) :
    available mediator amount world =
      (standing.mediators mediator).rest amount := by
  have stands :=
    congrFun (congrArg Standing.mediators (rests.standing clear)) mediator
  have held := Mediator.eq_ofQuota_of_standing (stands.trans isQuota)
  rw [available, Mediation.usage, held, isQuota]
  rfl

variable {held : Option Nat} {requested minimal : Nat}

/--
A guarantee that suffices asks below as a quota does, for the whole request.
-/
theorem meets_guaranteed_iff
    (enough : requested - held.getD 0 ≤
      (standing.mediators mediator).rest amount) :
    standing.Meets heap held
        (.mediated mediator :: layers) requested requested ↔
      standing.Meets heap held
        (.guaranteed mediator amount :: layers) requested minimal := by
  refine ⟨fun met => ?_, fun met => ?_⟩
  · rcases met with owned | passes
    · exact .inl owned
    · exact .inr ⟨enough, passes⟩
  · rcases met with owned | ⟨-, passes⟩
    · exact .inl owned
    · exact .inr passes

theorem not_meets_guaranteed
    (notOwned : ¬Owned held requested)
    (short : (standing.mediators mediator).rest amount <
      requested - held.getD 0) :
    ¬standing.Meets heap held
      (.guaranteed mediator amount :: layers) requested minimal := by
  rintro (owned | ⟨enough, -⟩)
  · exact notOwned owned
  · exact Nat.not_le_of_lt short enough

theorem decides_source
    (decides : below.Decides heap layers)
    (stepwise : below.Stepwise)
    (apart : ∀ lower ∈ layers, lower.charges mediator = false)
    (amount : Nat) :
    (source mediator amount below).Decides heap
      (.guaranteed mediator amount :: layers) where
  allocate := by
    intro watch standing world requested minimal rests onQuotas accepted
    obtain ⟨quota, isQuota⟩ :=
      onQuotas _ List.mem_cons_self mediator (decide_eq_true rfl)
    have read := rests.noteAll (Mediation.readLocks world mediator)
    have left := @available_of_rests _ _ _ amount _ _ read isQuota
    refine allocate_rule (fun short => ?refused) (fun enough => ?inFull)
    case refused =>
      exact decided_false fun clear =>
        not_meets_guaranteed Standing.not_owned_none
          (Nat.lt_of_le_of_lt (Nat.le_of_eq (left clear).symm) short)
    case inFull =>
      refine (Mediated.acts_allocate stepwise mediator requested
        requested).ends_of_clear fun clear => ?_
      refine (Mediated.decides_allocate decides stepwise apart read isQuota
        onQuotas.tail (Nat.le_refl _)).decided_congr (meets_guaranteed_iff ?_)
      exact Nat.le_trans enough (Nat.le_of_eq (left clear))
  resize := by
    intro watch standing bench requested minimal rests onQuotas accepted
    obtain ⟨quota, isQuota⟩ :=
      onQuotas _ List.mem_cons_self mediator (decide_eq_true rfl)
    have read := rests.noteAll (Mediation.readLocks bench.world mediator)
    have left := @available_of_rests _ _ _ amount _ _ read isQuota
    refine resize_rule (fun larger short => ?refused) (fun within => ?unread)
      (fun larger enough => ?read)
    case refused =>
      exact decided_false fun clear =>
        not_meets_guaranteed (Standing.not_owned_some larger)
          (Nat.lt_of_le_of_lt (Nat.le_of_eq (left clear).symm) short)
    case unread =>
      refine (Mediated.decides_resize decides stepwise apart rests isQuota
        onQuotas.tail (Nat.le_refl _)).decided_congr (meets_guaranteed_iff ?_)
      rw [Option.getD_some, Nat.sub_eq_zero_of_le within]
      exact Nat.zero_le _
    case read =>
      refine (Mediated.acts_resize stepwise mediator requested
        requested).ends_of_clear fun clear => ?_
      refine (@Mediated.decides_resize below heap layers watch standing mediator
        requested requested quota decides stepwise apart
        { bench with world := _ } read isQuota
        onQuotas.tail (Nat.le_refl _)).decided_congr (meets_guaranteed_iff ?_)
      exact Nat.le_trans enough (Nat.le_of_eq (left clear))

end Guaranteed

namespace Bypass

variable {below : Source} {heap : Heap} {layers : List Layer} {mediator : Nat}

/--
What the first attempt of a bypass gets is met as it was asked too, and the
second one is as it was asked.
-/
theorem decides_source
    (decides : below.Decides heap layers)
    (stepwise : below.Stepwise)
    (atomic : below.Atomic)
    (downward : heap.Downward)
    (apart : ∀ lower ∈ layers, lower.charges mediator = false)
    (amount : Nat) :
    (source mediator amount below).Decides heap
      (.bypass mediator amount :: layers) where
  allocate := by
    intro watch standing world requested minimal rests onQuotas accepted
    obtain ⟨quota, isQuota⟩ :=
      onQuotas _ List.mem_cons_self mediator (decide_eq_true rfl)
    refine allocate_rule
      (fun result later => ReturnsTo watch standing result later ∧
        (watch.Clear later → result.isSome = true →
          standing.Meets heap none
            (.bypass mediator amount :: layers) requested minimal))
      (rests_readAvailable rests) ?first ?met ?again
    case first =>
      intro rest later read
      refine (Mediated.atomic_allocate atomic requested _ read).both ?_
      refine (Mediated.decides_allocate decides stepwise apart read isQuota
        onQuotas.tail (raiseMinimal_le requested minimal rest)).imp ?_
      intro result last decided clear met
      exact Standing.meets_lowers standing downward none
        (.mediated mediator :: layers) _ _ _ _ (Nat.le_refl requested)
        (le_raiseMinimal accepted rest) accepted ((decided clear).mp met)
    case met =>
      rintro contents later ⟨-, met⟩
      exact decided_true fun clear => met clear rfl
    case again =>
      rintro later ⟨returns, -⟩
      exact Mediated.decides_allocate decides stepwise apart returns.rests
        isQuota onQuotas.tail accepted
  resize := by
    intro watch standing bench requested minimal rests onQuotas accepted
    obtain ⟨quota, isQuota⟩ :=
      onQuotas _ List.mem_cons_self mediator (decide_eq_true rfl)
    refine resize_rule (fun _ later => RestsAt watch standing later)
      (fun met later =>
        ResizingReturnsTo watch standing bench.contents met later ∧
        (watch.Clear later.world → met = true →
          standing.Meets heap (some bench.contents.size)
            (.bypass mediator amount :: layers) requested minimal))
      (rests_readAvailable rests) ?first ?met ?again
    case first =>
      intro rest later read
      refine (@Mediated.atomic_resize below watch standing mediator atomic
        { bench with world := later } requested _ read).both ?_
      refine (@Mediated.decides_resize below heap layers watch standing
        mediator requested _ quota decides stepwise apart
        { bench with world := later } read isQuota onQuotas.tail
        (raiseMinimal_le requested minimal rest)).imp ?_
      intro result last decided clear met
      exact Standing.meets_lowers standing downward _
        (.mediated mediator :: layers) _ _ _ _ (Nat.le_refl requested)
        (le_raiseMinimal accepted rest) accepted ((decided clear).mp met)
    case met =>
      rintro later ⟨-, met⟩
      exact decided_true fun clear => met clear rfl
    case again =>
      rintro later ⟨returns, -⟩
      rw [← returns.same]
      exact Mediated.decides_resize decides stepwise apart returns.rests isQuota
        onQuotas.tail accepted

end Bypass

end BufferBudget
