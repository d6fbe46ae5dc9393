import BufferBudget.Proofs.Change
import BufferBudget.Proofs.Standing

/-!
# What accounts lose when bytes are given back

Where a buffer has lost bytes, each layer gives them back to the account that it
charges, and reports the loss.  `Standing.shed` is what a standing becomes by
it: every account loses the bytes once for each layer of a list that charges it.

`HandsBack` says that a world comes from another in this way, and that nothing
was asked of a mediator or charged to a tracker meanwhile.  Mediators take back
whatever they are given; the arithmetic of a tracker may stop, and `Bears` says
when it cannot.  `Genuine` excludes layers that refuse on their own account, and
lineages that name a tracker twice.
-/

namespace BufferBudget

namespace MediatorStanding

theorem repay_repay (standing : MediatorStanding) (first second : Nat) :
    (standing.repay first).repay second = standing.repay (first + second) := by
  cases standing with
  | ofQuota quota =>
      refine congrArg ofQuota ?_
      rw [Quota.free, Quota.free, Quota.free, Nat.sub_sub]
  | ofBalance outstanding =>
      refine congrArg ofBalance ?_
      omega

@[simp]
theorem repay_zero (standing : MediatorStanding) :
    standing.repay 0 = standing := by
  cases standing with
  | ofQuota quota => rfl
  | ofBalance outstanding => exact congrArg ofBalance (Int.zero_add outstanding)

end MediatorStanding

theorem Size.wrap_wrap_add (value more : Nat) :
    wrap (wrap value + more) = wrap (value + more) :=
  Nat.mod_add_mod _ _ _

/-- The standing after a tally has counted a release. -/
def Standing.reportFreed (standing : Standing) (tally bytes : Nat) : Standing :=
  { standing with
    freedBytes := Function.update standing.freedBytes tally
      (Size.wrap (standing.freedBytes tally + bytes))
    frees := Function.update standing.frees tally
      (Size.wrap (standing.frees tally + 1)) }

theorem World.standing_freed (world : World) (tally bytes : Nat) :
    (world.setTally tally ((world.tallies.entry tally).freed bytes)).standing =
      world.standing.reportFreed tally bytes := by
  have kept : ∀ {α : Type} (counter : Tally → α) (value : α),
      counter ((world.tallies.entry tally).freed bytes) = value →
      (fun key => counter ((world.setTally tally
        ((world.tallies.entry tally).freed bytes)).tallies.entry key)) =
        Function.update
        (fun key => counter (world.tallies.entry key)) tally value := by
    rintro α counter _ rfl
    funext key
    rw [World.entry_tallies_setTally, Function.update_apply]
    split
    · rfl
    · rfl
  refine Standing.ext rfl rfl rfl ?_ (kept Tally.freedBytes _ rfl) ?_
    (kept Tally.frees _ rfl)
  · exact (kept Tally.allocatedBytes _ rfl).trans
      (Function.update_eq_self tally _)
  · exact (kept Tally.allocations _ rfl).trans (Function.update_eq_self tally _)

namespace Layer

/--
A layer that lets through what its accounts admit, and charges no tracker
twice for the same.
-/
def Genuine : Layer → Prop
  | .tracked lineage _ => lineage.members.Nodup
  | .probe _ _ => False
  | _ => True

/-- What accounts lose where a layer gives bytes back. -/
def shed (layer : Layer) (bytes : Nat) (standing : Standing) : Standing :=
  match layer with
  | .mediated mediator | .bypass mediator _ | .guaranteed mediator _ =>
      standing.repay mediator bytes
  | .tracked lineage _ => standing.charge (-Amount.ofSize bytes) lineage.members
  | .tallied tally =>
      if bytes = 0 then standing else standing.reportFreed tally bytes
  | .clearing | .locked _ | .relay | .probe _ _ => standing

variable {layer : Layer} {bytes : Nat} {standing : Standing}

theorem mediators_shed (key : Nat) :
    (layer.shed bytes standing).mediators key = (standing.mediators key).repay
      (if layer.charges key then bytes else 0) := by
  have repaid : ∀ own, (standing.repay own bytes).mediators key =
      (standing.mediators key).repay (if own = key then bytes else 0) := by
    intro own
    show Function.update standing.mediators own _ key = _
    rw [Function.update_apply]
    by_cases same : key = own
    · rw [if_pos same, if_pos same.symm, same]
    · rw [if_neg same, if_neg (Ne.symm same), MediatorStanding.repay_zero]
  cases layer with
  | mediated own => simpa [shed, charges] using repaid own
  | bypass own amount => simpa [shed, charges] using repaid own
  | guaranteed own amount => simpa [shed, charges] using repaid own
  | tallied tally =>
      rw [shed]
      split <;> simp [charges, Standing.reportFreed]
  | _ => simp [shed, charges, Standing.charge]

theorem consumption_shed (genuine : layer.Genuine) (key : Nat) :
    (layer.shed bytes standing).consumption key = standing.consumption key -
      if layer.chargesTracker key then Amount.ofSize bytes else 0 := by
  cases layer with
  | tracked lineage enforcing =>
      have once : lineage.members.count key =
          if key ∈ lineage.members then 1 else 0 :=
        List.Nodup.count genuine
      by_cases member : key ∈ lineage.members
      · simp [shed, Standing.charge, chargesTracker, once, member,
          Int.sub_eq_add_neg]
      · simp [shed, Standing.charge, chargesTracker, once, member]
  | tallied tally =>
      rw [shed]
      split <;> simp [chargesTracker, Standing.reportFreed]
  | _ => simp [shed, chargesTracker, Standing.repay, Standing.setMediator]

theorem allocatedBytes_shed : (layer.shed bytes standing).allocatedBytes =
    standing.allocatedBytes := by
  cases layer with
  | tallied tally =>
      rw [shed]
      split <;> rfl
  | _ => rfl

theorem freedBytes_shed (key : Nat) :
    Size.wrap ((layer.shed bytes standing).freedBytes key) = Size.wrap
      (standing.freedBytes key + if layer.reports key then bytes else 0) := by
  cases layer with
  | tallied tally =>
      rw [shed]
      by_cases none : bytes = 0
      · simp [none]
      · rw [if_neg none]
        simp only [Standing.reportFreed, Function.update_apply, reports,
          decide_eq_true_eq]
        by_cases same : key = tally
        · rw [if_pos same, if_pos same.symm, same]
          exact Size.wrap_wrap_add (standing.freedBytes tally + bytes) 0
        · rw [if_neg same, if_neg (Ne.symm same)]
          rfl
  | _ => rfl

theorem freedBytes_shed_le
    {key : Nat}
    (small : standing.freedBytes key ≤ Size.limit) :
    (layer.shed bytes standing).freedBytes key ≤ Size.limit := by
  cases layer with
  | tallied tally =>
      rw [shed]
      by_cases none : bytes = 0
      · rwa [if_pos none]
      · rw [if_neg none]
        show Function.update standing.freedBytes tally _ key ≤ Size.limit
        rw [Function.update_apply]
        split
        · exact Size.wrap_le _
        · exact small
  | _ => exact small

end Layer

/-- All layers of an allocator are genuine. -/
def Allocator.Genuine (allocator : Allocator) : Prop :=
  ∀ layer ∈ allocator.layers, layer.Genuine

namespace Standing

/--
What accounts lose where each layer of a list gives bytes back,
the lowest first.
-/
def shed (bytes : Nat) (layers : List Layer) (standing : Standing) : Standing :=
  layers.foldr (fun layer below => layer.shed bytes below) standing

variable {bytes : Nat} {standing : Standing}

/-- A mediator is given the bytes back once for each layer that charges it. -/
theorem mediators_shed (layers : List Layer) (key : Nat) :
    (standing.shed bytes layers).mediators key = (standing.mediators key).repay
      (bytes * layers.countP (·.charges key)) := by
  induction layers with
  | nil => simp [shed]
  | cons layer below ih =>
      have first : (standing.shed bytes (layer :: below)).mediators key =
          ((standing.shed bytes below).mediators key).repay
            (if layer.charges key then bytes else 0) := Layer.mediators_shed key
      rw [first, ih, MediatorStanding.repay_repay,
        List.countP_cons, Nat.mul_add]
      split <;> simp

/-- A tracker loses the bytes once for each layer that charges it. -/
theorem consumption_shed
    {layers : List Layer}
    (genuine : ∀ layer ∈ layers, layer.Genuine)
    (key : Nat) :
    (standing.shed bytes layers).consumption key = standing.consumption key -
        Amount.ofSize bytes * layers.countP (·.chargesTracker key) := by
  induction layers with
  | nil => simp [shed]
  | cons layer below ih =>
      have first : (standing.shed bytes (layer :: below)).consumption key =
          (standing.shed bytes below).consumption key -
            if layer.chargesTracker key then Amount.ofSize bytes else 0 :=
        Layer.consumption_shed (genuine layer List.mem_cons_self) key
      rw [first, ih fun other member =>
        genuine other (List.mem_cons_of_mem layer member), List.countP_cons]
      split
      · rw [Int.natCast_add, Int.mul_add, Int.natCast_one,
          Int.mul_one, Int.sub_sub]
      · rw [Int.sub_zero, Nat.add_zero]

theorem allocatedBytes_shed (layers : List Layer) :
    (standing.shed bytes layers).allocatedBytes = standing.allocatedBytes := by
  induction layers with
  | nil => rfl
  | cons layer below ih => exact Layer.allocatedBytes_shed.trans ih

/--
A tally counts the bytes once for each layer that reports to it, up to
the largest size.
-/
theorem freedBytes_shed (layers : List Layer) (key : Nat) :
    Size.wrap ((standing.shed bytes layers).freedBytes key) = Size.wrap
      (standing.freedBytes key + bytes * layers.countP (·.reports key)) := by
  induction layers with
  | nil => simp [shed]
  | cons layer below ih =>
      have first :
          Size.wrap ((standing.shed bytes (layer :: below)).freedBytes key) =
            Size.wrap ((standing.shed bytes below).freedBytes key +
              if layer.reports key then bytes else 0) :=
        Layer.freedBytes_shed key
      rw [first, ← Size.wrap_wrap_add, ih, Size.wrap_wrap_add, List.countP_cons,
        Nat.mul_add, Nat.add_assoc]
      split <;> simp

/-- What a counter holds after the bytes, if it held a size before. -/
theorem freedBytes_shed_of_le
    (layers : List Layer)
    {key : Nat}
    (small : standing.freedBytes key ≤ Size.limit) :
    (standing.shed bytes layers).freedBytes key = Size.wrap
      (standing.freedBytes key + bytes * layers.countP (·.reports key)) := by
  have stays : (standing.shed bytes layers).freedBytes key ≤ Size.limit := by
    induction layers with
    | nil => exact small
    | cons layer below ih => exact Layer.freedBytes_shed_le ih
  rw [← freedBytes_shed, Size.wrap_of_le stays]

end Standing

/--
An event that asks no mediator for anything and puts no charge to a tracker.
-/
def Event.Undemanding : Event → Prop
  | .mediated _ (.allocated _ _ _) => False
  | .tracked _ (.tryConsume _) => False
  | .tracked _ (.consume _) => False
  | .weighed _ _ => False
  | _ => True

theorem Event.Quiet.undemanding {event : Event} (quiet : event.Quiet) :
    event.Undemanding := by
  cases event with
  | emitted diagnostic => exact trivial
  | acquired lock => exact trivial
  | released lock => exact trivial
  | called site call => exact quiet.elim
  | mediated own call => exact quiet.elim
  | tracked tracker call => exact quiet.elim
  | weighed tracker total => exact quiet.elim

/--
A world comes from another without a demand, and its standing by a change.
-/
structure World.HandsBack
    (world : World)
    (change : Standing → Standing)
    (later : World) : Prop where
  standing : later.standing = change world.standing
  trail : ∃ events, later.trail = events ++ world.trail ∧
    ∀ event ∈ events, event.Undemanding

namespace World.HandsBack

variable {world middle later : World} {change further : Standing → Standing}

theorem refl (world : World) : world.HandsBack id world :=
  ⟨rfl, [], rfl, nofun⟩

theorem trans
    (first : world.HandsBack change middle)
    (second : middle.HandsBack further later) :
    world.HandsBack (fun standing => further (change standing)) later := by
  obtain ⟨earlier, came, undemanding⟩ := first.trail
  obtain ⟨last, went, others⟩ := second.trail
  refine ⟨by rw [second.standing, first.standing], last ++ earlier, ?_, ?_⟩
  · rw [went, came, List.append_assoc]
  · intro event member
    rcases List.mem_append.mp member with new | old
    · exact others event new
    · exact undemanding event old

theorem congr
    {other : Standing → Standing}
    (handsBack : world.HandsBack change later)
    (same : change world.standing = other world.standing) :
    world.HandsBack other later :=
  ⟨handsBack.standing.trans same, handsBack.trail⟩

/-- What is noted without a demand changes no standing. -/
theorem noteAll
    {events : List Event}
    (undemanding : ∀ event ∈ events, event.Undemanding) :
    world.HandsBack id (world.noteAll events) :=
  ⟨rfl, events.reverse, rfl, fun event member =>
    undemanding event (List.mem_reverse.mp member)⟩

theorem note
    {event : Event}
    (handsBack : world.HandsBack change later)
    (undemanding : event.Undemanding) :
    world.HandsBack change (later.note event) :=
  handsBack.trans (noteAll fun _ member =>
    List.mem_singleton.mp member ▸ undemanding)

/-- What is noted before a change makes no difference to it. -/
theorem after
    {events : List Event}
    (undemanding : ∀ event ∈ events, event.Undemanding)
    (handsBack : (world.noteAll events).HandsBack change later) :
    world.HandsBack change later :=
  (noteAll undemanding).trans handsBack

theorem around
    {move : World → World}
    (came : world.Around move later)
    (moves : ∀ middle : World, middle.mediators = world.mediators →
      middle.HandsBack change (move middle)) :
    world.HandsBack change later := by
  obtain ⟨before, last, quietBefore, quietLast, rfl⟩ := came
  refine after (fun event member => (quietBefore event member).undemanding) ?_
  exact (moves (world.noteAll before) rfl).trans
    (noteAll fun event member => (quietLast event member).undemanding)

/--
A quota has been given the bytes back once for each layer that charges it.
-/
theorem entry
    {layers : List Layer}
    {bytes key : Nat}
    {quota : Quota}
    (handsBack : world.HandsBack (Standing.shed bytes layers) later)
    (held : world.mediators.entry key = .ofQuota quota) :
    later.mediators.entry key =
      .ofQuota (quota.free (bytes * layers.countP (·.charges key))) := by
  have stands := (congrArg (Standing.mediators · key) handsBack.standing).trans
    (Standing.mediators_shed layers key)
  dsimp only [World.standing] at stands
  rw [held] at stands
  exact Mediator.eq_ofQuota_of_standing stands

end World.HandsBack

theorem Mediation.handsBack_free (mediator amount : Nat) (world : World) :
    Ends (free mediator amount) world
      (fun _ later => world.HandsBack (·.repay mediator amount) later)
      (fun _ _ => False) := by
  refine (ends_free mediator amount world).sure ?_
  intro _ later came
  refine World.HandsBack.around came fun middle _ => ⟨?_, [_], rfl, ?_⟩
  · exact World.standing_repay mediator amount
  · intro event member
    rw [List.mem_singleton.mp member]
    exact trivial

namespace Charging

variable {bytes : Int} {world : World}

theorem handsBack_subtract (tracker : Nat) :
    Ends (subtract bytes tracker) world
      (fun _ later => world.HandsBack (·.charge (-bytes) [tracker]) later)
      (fun fault _ => fault.OfAmount ∧
        ¬Amount.InRange (world.standing.consumption tracker - bytes)) := by
  rw [subtract, ends_bind, ends_get, ends_bind, ends_modify]
  refine Ends.ite (fun inside => ?_) (fun outside => ⟨.inr rfl, outside⟩)
  have taken : world.HandsBack (·.charge (-bytes) [tracker])
      (world.setTracker tracker ((world.trackers.entry tracker).store
        ((world.trackers.entry tracker).consumption - bytes))) :=
    ⟨World.standing_store inside, [], rfl, fun _ member =>
      absurd member List.not_mem_nil⟩
  refine (ends_bind get _).mpr
    (taken.trans (World.HandsBack.noteAll fun event member => ?_))
  obtain ⟨diagnostic, -, rfl⟩ := List.mem_map.mp member
  exact trivial

/--
Each tracker of a list is taken the amount from once, or one of them
cannot bear it.
-/
theorem handsBack_subtractAll
    {trackers : List Nat}
    (distinct : trackers.Nodup) :
    Ends (trackers.forM (subtract bytes)) world
      (fun _ later => world.HandsBack (·.charge (-bytes) trackers) later)
      (fun fault _ => fault.OfAmount ∧ ∃ tracker ∈ trackers,
        ¬Amount.InRange (world.standing.consumption tracker - bytes)) := by
  induction trackers generalizing world with
  | nil =>
      exact (World.HandsBack.refl world).congr (Standing.charge_nil _ _).symm
  | cons tracker rest ih =>
      obtain ⟨first, others⟩ := List.nodup_cons.mp distinct
      refine ((handsBack_subtract tracker).mono
        (fun _ _ taken => taken) ?stopped).bind
        fun _ middle handsBack => (ih others).mono ?_ ?_
      case stopped =>
        exact fun _ _ stopped =>
          ⟨stopped.1, tracker, List.mem_cons_self, stopped.2⟩
      · intro _ later further
        refine (handsBack.trans further).congr ?_
        exact (Standing.charge_append _ _ [tracker] rest).symm
      · rintro fault later ⟨ofAmount, other, member, outside⟩
        refine ⟨ofAmount, other, List.mem_cons_of_mem tracker member, ?_⟩
        have apart : other ≠ tracker := fun same => first (same ▸ member)
        rw [handsBack.standing] at outside
        simpa [Standing.charge, List.count_singleton, apart.symm] using outside

theorem handsBack_release
    {lineage : Lineage}
    (distinct : lineage.members.Nodup) :
    Ends (release lineage bytes) world
      (fun _ later => world.HandsBack (·.charge (-bytes) lineage.members) later)
      (fun fault _ => fault.OfAmount ∧ ∃ tracker ∈ lineage.members,
        ¬Amount.InRange (world.standing.consumption tracker - bytes)) := by
  rw [release, ends_bind, ends_note]
  have noted : ∀ event ∈ [Event.tracked lineage.tracker (.release bytes)],
      event.Undemanding := by
    intro event member
    rw [List.mem_singleton.mp member]
    exact trivial
  refine Ends.ite (fun none => ?_) (fun _ => ?_)
  · refine (World.HandsBack.noteAll noted).congr ?_
    rw [none, Int.neg_zero, Standing.charge_zero]
    rfl
  · exact (handsBack_subtractAll distinct).mono
      (fun _ _ handsBack => .after noted handsBack) (fun _ _ stopped => stopped)

end Charging

theorem Tracked.handsBack_discharge
    {lineage : Lineage}
    (distinct : lineage.members.Nodup)
    (size : Nat)
    (world : World) :
    Ends (discharge lineage size) world (fun _ later =>
        world.HandsBack (·.charge (-Amount.ofSize size) lineage.members) later)
      (fun fault _ => fault.OfAmount ∧ ∃ tracker ∈ lineage.members,
        ¬Amount.InRange
          (world.standing.consumption tracker - Amount.ofSize size)) := by
  refine Ends.ite (fun _ => Charging.handsBack_release distinct)
    (fun empty => ?_)
  obtain rfl : size = 0 := Nat.eq_zero_of_not_pos empty
  exact (World.HandsBack.refl world).congr (Standing.charge_zero _ _).symm

/--
Every tracker that some layers charge stays an amount while bytes are taken from
it, once for each of them, and what its limit leaves is an amount.
-/
def World.Bears (world : World) (layers : List Layer) (bytes : Nat) : Prop :=
  ∀ tracker, 0 < layers.countP (·.chargesTracker tracker) →
    Amount.InRange ((world.trackers.entry tracker).consumption -
      Amount.ofSize bytes * layers.countP (·.chargesTracker tracker)) ∧
    ∀ limit, (world.trackers.entry tracker).limit = some limit →
      Amount.InRange (limit - (world.trackers.entry tracker).consumption)

namespace World.Bears

variable {world : World} {layer : Layer} {below : List Layer} {bytes : Nat}

/-- What all layers may take, the lower ones may take. -/
theorem tail
    (bears : world.Bears (layer :: below) bytes)
    (measured : world.Measured) :
    world.Bears below bytes := by
  intro tracker charged
  have more : below.countP (·.chargesTracker tracker) ≤
      (layer :: below).countP (·.chargesTracker tracker) := by
    rw [List.countP_cons]
    exact Nat.le_add_right _ _
  obtain ⟨inside, legible⟩ := bears tracker (Nat.lt_of_lt_of_le charged more)
  have nonneg := Amount.ofSize_nonneg bytes
  have fewer := Int.mul_le_mul_of_nonneg_left (Int.ofNat_le.mpr more) nonneg
  have positive := Int.mul_nonneg nonneg
    (Int.natCast_nonneg (below.countP (·.chargesTracker tracker)))
  have least := inside.1
  have most := (measured tracker).2
  exact ⟨⟨by omega, by omega⟩, legible⟩

end World.Bears

end BufferBudget
