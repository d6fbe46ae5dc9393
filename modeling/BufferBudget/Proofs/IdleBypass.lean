import BufferBudget.Assembly
import BufferBudget.Proofs.Companions
import BufferBudget.Proofs.OneLimit

/-!
# A bypass within a hard limit is idle

A bypass promises some bytes that a soft quota below it would not have room for.
Below it there may also be a hard limit that has at least as much left as the
bypass promises.  Then what the bypass reads is what the limit has left, raising
the least accepted to that decides nothing, and its second attempt is refused
where the first one was: the bypass is idle, and acts as one limit itself.

A configuration with an enforced quota is accepted only if its bypass is within
the quota.  The quota and the count of the bypass are charged with the same
buffers from the beginning, so they stand at the same usage after any calls, and
what is promised stays within what is left.  Two runs are compared to say so:
one on the allocator as configured, and one on that which the configuration
without its bypass gives.
-/

namespace BufferBudget

/--
Raising the least accepted to what is left does not change what a limit makes of
a request for growth, nor of one for a new buffer, which is growth from nothing.
-/
theorem ration_raiseMinimal
    {left requested minimal : Nat}
    (accepted : minimal ≤ requested)
    (size : Nat) :
    ration left
        (requested - size) (Bypass.raiseMinimal requested minimal left - size) =
      ration left (requested - size) (minimal - size) := by
  unfold ration Bypass.raiseMinimal
  by_cases enough : minimal - size ≤ left
  · rw [if_pos enough, if_pos (by omega)]
  · rw [if_neg enough, if_neg (by omega)]

namespace Bypass

variable
    {below : Source}
    {heap : Heap}
    {keys : List Nat}
    {own amount : Nat}
    {world : World}

/--
What a bypass has still to promise is left by the limits that its
requests are put to.
-/
structure Idle (own amount : Nat) (keys : List Nat) (world : World) : Prop where
  limits : world.Limits (own :: keys)
  within : amount - Mediation.usage world own ≤ world.left (own :: keys)

theorem available_of_idle
    (rations : below.Rations heap keys)
    (idle : Idle own amount keys world) :
    available own amount below world = .ok (world.left (own :: keys)) := by
  have rest : Mediated.available own below world =
      .ok (world.left (own :: keys)) := by
    rw [Mediated.available, rations.available]
    rfl
  rw [available, rest]
  refine congrArg Except.ok ?_
  split
  · exact Nat.max_eq_left idle.within
  · rfl

theorem readAvailable_of_idle
    (rations : below.Rations heap keys)
    (idle : Idle own amount keys world)
    (onFault : Fault → World → Prop) :
    Ends (readAvailable own amount below) world
      (fun rest later => rest = world.left (own :: keys) ∧
        later = world.noteAll (readLocks own below world)) onFault := by
  refine readAvailable_rule (fun rest read => ?_) fun fault failed => ?_
  · rw [available_of_idle rations idle] at read
    exact ⟨(Except.ok.inj read).symm, rfl⟩
  · rw [available_of_idle rations idle] at failed
    exact nomatch failed

theorem rations_allocate
    (rations : below.Rations heap keys)
    (distinct : own ∉ keys)
    (idle : Idle own amount keys world)
    {requested minimal : Nat}
    (accepted : minimal ≤ requested)
    (size : requested ≤ Size.limit) :
    Ends (allocate own amount below requested minimal) world
      (Rationed (own :: keys)
        (heap.allots (world.left (own :: keys)) requested minimal) world)
      (fun _ _ => False) := by
  refine allocate_rule (Rationed (own :: keys)
    (heap.allots (world.left (own :: keys)) requested minimal) world)
    (readAvailable_of_idle rations idle _) ?first
    (fun _ _ rationed => rationed) ?again
  case first =>
    rintro _ later ⟨rfl, noted⟩
    have still : world.Rises (fun _ => 0) later :=
      World.rises_of_same (noted ▸ rfl)
    obtain ⟨stays, same⟩ := idle.limits.of_rises still fun _ _ => rfl
    have raised := @ration_raiseMinimal (world.left (own :: keys)) requested
      minimal accepted 0
    have first := Mediated.rations_allocate rations distinct stays
      (raiseMinimal_le requested minimal (world.left (own :: keys))) size
    simp only [Nat.sub_zero] at raised
    rw [same, raised] at first
    exact first.sure (fun _ _ rationed => rationed.after still)
  case again =>
    rintro later ⟨refused, still⟩
    rw [← refused, Option.map_none, Option.getD_none, World.sharing_zero]
      at still
    obtain ⟨stays, same⟩ := idle.limits.of_rises still fun _ _ => rfl
    have second :=
      Mediated.rations_allocate rations distinct stays accepted size
    rw [same] at second
    exact second.sure (fun _ _ rationed => rationed.after still)

theorem rations_resize
    (rations : below.Rations heap keys)
    (distinct : own ∉ keys)
    {bench : Workbench}
    (idle : Idle own amount keys bench.world)
    {requested minimal : Nat}
    (accepted : minimal ≤ requested)
    (larger : bench.contents.size ≤ requested)
    (size : requested ≤ Size.limit) :
    Ends (resize own amount below requested minimal) bench
      (Enlarged (own :: keys) ((ration (bench.world.left (own :: keys))
        (requested - bench.contents.size)
        (minimal - bench.contents.size)).filter
        (heap.enlarges bench.contents.size)) bench) (fun _ _ => False) := by
  have limited := Mediated.rations_source rations distinct
  refine resize_rule _
    (Enlarged (own :: keys) ((ration (bench.world.left (own :: keys))
      (requested - bench.contents.size) (minimal - bench.contents.size)).filter
      (heap.enlarges bench.contents.size)) bench)
    (readAvailable_of_idle rations idle _) ?first
    (fun _ enlarged => enlarged) ?again
  case first =>
    rintro _ later ⟨rfl, noted⟩
    have still : bench.world.Rises (fun _ => 0) later :=
      World.rises_of_same (noted ▸ rfl)
    obtain ⟨stays, same⟩ := idle.limits.of_rises still fun _ _ => rfl
    have first := @Source.Rations.resize _ _ _ limited
      { bench with world := later } _ _ stays (raiseMinimal_le requested minimal
        (bench.world.left (own :: keys))) larger size
    rw [same, ration_raiseMinimal accepted] at first
    refine first.sure (fun met last enlarged => ?_)
    exact @Enlarged.after _ _ bench
      { bench with world := later } last met still rfl enlarged
  case again =>
    rintro later ⟨refused, becomes, still⟩
    have none :=
      Option.not_isSome_iff_eq_none.mp (Bool.not_eq_true _ ▸ refused.symm)
    rw [none, Option.getD_none] at becomes
    rw [none, Option.getD_none, World.sharing_zero] at still
    obtain ⟨stays, same⟩ := idle.limits.of_rises still fun _ _ => rfl
    have second := @Source.Rations.resize _ _ _ limited later _ _ stays accepted
      (becomes.symm ▸ larger) size
    rw [same, becomes, Nat.add_zero] at second
    exact second.sure (fun _ _ enlarged => enlarged.after still becomes)

/--
An idle bypass acts as one limit, at what it has left with the limits below it.
-/
theorem rationsIn_of_idle
    (rations : below.Rations heap keys)
    (distinct : own ∉ keys) :
    (source own amount below).RationsIn (Idle own amount keys) heap
      (own :: keys) where
  available := available_of_idle rations
  allocate := fun idle accepted size =>
    rations_allocate rations distinct idle accepted size
  resize := fun idle accepted larger size =>
    rations_resize rations distinct idle accepted larger size

/--
A bypass over limits cuts and takes back what the limits do, whether it
is idle or not.
-/
theorem repays_source
    (rations : below.Rations heap keys)
    {layers : List Layer}
    (stepwise : below.Stepwise)
    (repays : below.Repays layers)
    (own amount : Nat) :
    (source own amount below).Repays (.bypass own amount :: layers) where
  cut := by
    intro bench requested minimal smaller
    refine cut_resize_of stepwise (fun fault failed => ?_) fun raised => ?_
    · rw [available, Mediated.available, rations.available] at failed
      cases failed
    · have noted : requested ≤
          (Workbench.mk (bench.world.noteAll (readLocks own below bench.world))
            bench.contents).contents.size :=
        smaller
      exact Mediated.cut_resize_of (repays.cut raised noted) noted own
  free := Mediated.free_falls repays own

end Bypass

/-- An enforced quota that takes no lock, at some usage. -/
def Mediator.capped (ceiling used : Nat) : Mediator :=
  .ofQuota { usage := used, ceiling, enforced := true, guarded := false }

section Counting

variable {world later : World} {limit own ceiling used : Nat}

theorem Mediation.available_of_capped
    (held : world.mediators.entry limit = .capped ceiling used) :
    available world limit = ceiling - used := by
  rw [available, held]
  rfl

theorem World.limits_of_capped
    (held : world.mediators.entry limit = .capped ceiling used)
    (within : used ≤ ceiling)
    (size : ceiling ≤ Size.limit) :
    world.Limits [limit] := by
  intro key member
  obtain rfl := List.mem_singleton.mp member
  exact ⟨_, ⟨held, rfl⟩, Nat.le_trans within size, size⟩

theorem World.left_of_capped
    (held : world.mediators.entry limit = .capped ceiling used)
    (size : ceiling ≤ Size.limit) :
    world.left [limit] = ceiling - used := by
  rw [left, left, Mediation.available_of_capped held]
  exact Nat.min_eq_right (Nat.le_trans (Nat.sub_le ceiling used) size)

theorem World.Moves.capped
    {keys : List Nat}
    {old new : Nat}
    (moves : world.Moves keys old new later)
    (member : limit ∈ keys)
    (held : world.mediators.entry limit = .capped ceiling used) :
    later.mediators.entry limit = .capped ceiling (used + new - old) :=
  moves limit member _ held

end Counting

/--
Two worlds have the same enforced quota at the same usage, within its ceiling,
and in the first one the count of a bypass stands there as well.
-/
def Likeness.countedTwice (limit own ceiling : Nat) : Likeness where
  Worlds := fun left right => ∃ used ≤ ceiling,
    left.mediators.entry limit = .capped ceiling used ∧
      left.mediators.entry own = .capped Size.limit used ∧
        right.mediators.entry limit = .capped ceiling used
  Exact := True
  Excused := fun _ => False
  note := fun _ same => same

namespace Likeness

variable {limit own ceiling amount : Nat} {left right : World}

/-- The count of a bypass leaves no less than the quota does. -/
theorem left_of_countedTwice
    (begun : (countedTwice limit own ceiling).Worlds left right)
    (size : ceiling ≤ Size.limit) :
    left.left [own, limit] = left.left [limit] := by
  obtain ⟨used, within, held, counted, -⟩ := begun
  rw [World.left, World.left_of_capped held size,
    Mediation.available_of_capped counted]
  omega

theorem idle_of_countedTwice
    (begun : (countedTwice limit own ceiling).Worlds left right)
    (promised : amount ≤ ceiling)
    (size : ceiling ≤ Size.limit) :
    Bypass.Idle own amount [limit] left := by
  have whole := left_of_countedTwice begun size
  obtain ⟨used, within, held, counted, -⟩ := begun
  refine ⟨fun key member => ?_, ?_⟩
  · rcases List.mem_cons.mp member with rfl | other
    · exact World.limits_of_capped counted (Nat.le_trans within size)
        (Nat.le_refl _) _ List.mem_cons_self
    · exact World.limits_of_capped held within size key other
  · rw [whole, World.left_of_capped held size, Mediation.usage, counted]
    exact Nat.sub_le_sub_right promised used

/--
A bypass within the ceiling is idle in the first world, with as much left as the
quota has in the second, and the usages stay the same.
-/
theorem couples_countedTwice
    (limit own : Nat)
    (promised : amount ≤ ceiling)
    (size : ceiling ≤ Size.limit) :
    (countedTwice limit own ceiling).Couples (Bypass.Idle own amount [limit])
      (·.Limits [limit]) [own, limit] [limit] where
  holds := fun begun => idle_of_countedTwice begun promised size
  stands := fun ⟨_, within, _, _, held⟩ =>
    World.limits_of_capped held within size
  same := by
    intro left right begun
    rw [left_of_countedTwice begun size]
    obtain ⟨used, within, held, -, other⟩ := begun
    rw [World.left_of_capped held size, World.left_of_capped other size]
  moves := by
    intro left right later last old new begun fits came went
    rw [left_of_countedTwice begun size] at fits
    obtain ⟨used, within, held, counted, other⟩ := begun
    rw [World.left_of_capped held size] at fits
    refine ⟨used + new - old, by omega, ?_, ?_, ?_⟩
    · exact came.capped (List.mem_cons_of_mem own List.mem_cons_self) held
    · exact came.capped List.mem_cons_self counted
    · exact went.capped List.mem_cons_self other

end Likeness

/--
A heap with an enforced quota, and the same with a bypass within the ceiling on
top, are alike.
-/
theorem Bypass.alike_source_of_hard_quota
    {limit own ceiling amount : Nat}
    (distinct : own ≠ limit)
    (promised : amount ≤ ceiling)
    (size : ceiling ≤ Size.limit)
    (heap : Heap) :
    let limited := (Allocator.onHeap heap).add (.mediated limit)
    Source.AlikeFor InOrder (.countedTwice limit own ceiling)
      (limited.add (.bypass own amount)).source limited.source := by
  intro limited
  have rations :=
    Mediated.rations_source ((Heap.rations_source heap).noting .heap)
      (List.not_mem_nil (a := limit))
  have fills :=
    Mediated.fills_source ((Heap.fills_source heap).noting .heap) limit
  have repays :=
    Mediated.repays_source ((Heap.repays_source heap).noting .heap) limit
  have apart : own ∉ [limit] :=
    fun member => distinct (List.mem_singleton.mp member)
  have idle : (source own amount limited.source).RationsIn
      (Idle own amount [limit]) heap [own, limit] :=
    rationsIn_of_idle (rations.noting _) apart
  have bypassed :=
    idle.oneLimit (Bypass.fills_source (fills.noting _) own amount)
      (repays_source (rations.noting _) (Allocator.stepwise_source limited)
        (repays.noting _) own amount)
      (by simp [Layer.charges, distinct, distinct.symm])
  have plain :=
    rations.rationsIn.oneLimit fills repays (by simp [Layer.charges])
  have couples := Likeness.couples_countedTwice limit own promised size
  exact (bypassed.alikeFor plain couples).noting _ _

/-- Clearing on top of both sides makes no difference. -/
theorem Source.AlikeFor.clearedIf
    {asks : Nat → Nat → Prop}
    {likeness : Likeness}
    {left right : Allocator}
    (alike : Source.AlikeFor asks likeness left.source right.source)
    (clearing : Bool) :
    Source.AlikeFor asks likeness
      (if clearing then left.add .clearing else left).source
      (if clearing then right.add .clearing else right).source := by
  cases clearing with
  | false => exact alike
  | true => exact (Clearing.alike_source alike).noting _ _

/--
A quota and the count of a bypass that have just been opened stand at no usage.
-/
theorem Likeness.countedTwice_of_opened
    {ω : Type}
    (assembly : Assembly ω)
    (ceiling : Nat)
    (event other : Event) :
    let opened := (assembly.openQuota ceiling true).2
    (countedTwice assembly.nextMediator
      (assembly.nextMediator + 1) ceiling).Worlds
      ((opened.openQuota Size.limit true).2.world.note event)
      (opened.world.note other) := by
  intro opened
  have held : opened.world.mediators.entry assembly.nextMediator =
      .capped ceiling 0 := by
    dsimp only [opened, Assembly.openQuota]
    rw [World.entry_mediators_setMediator, if_pos rfl]
    rfl
  refine ⟨0, Nat.zero_le ceiling, ?_, ?_, held⟩
  · show (opened.world.setMediator
      (assembly.nextMediator + 1) _).mediators.entry _ = _
    rw [World.entry_mediators_setMediator, if_neg (Nat.succ_ne_self _).symm]
    exact held
  · show (opened.world.setMediator
      (assembly.nextMediator + 1) _).mediators.entry _ = _
    rw [World.entry_mediators_setMediator, if_pos rfl]
    rfl

/-- What a valid configuration gives. -/
theorem Assembly.configure_of_valid
    {ω : Type}
    (assembly : Assembly ω)
    {config : Config}
    (valid : config.validate = .ok ())
    (base : Allocator) :
    assembly.configure config base =
      let (limited, opened) := assembly.limitBy config base
      let (bypassed, later) := opened.bypassBy config limited
      .ok (if config.clearing then bypassed.add .clearing else bypassed,
        { later with world := later.world.note (.emitted
          (.layersBuilt config.layerNames)) }) := by
  rw [configure, valid]
  rfl

/-- One allocator in place of another: only these two go together. -/
def Allocator.InPlaceOf (allocator other first second : Allocator) : Prop :=
  first = allocator ∧ second = other

namespace Session

/-- A call on one allocator is answered as on the other. -/
theorem Alike.perform_inPlaceOf
    {likeness : Likeness}
    {allocator other : Allocator}
    (sources : Source.AlikeFor InOrder likeness allocator.source other.source)
    {left right : Session}
    (alike : Alike likeness (allocator.InPlaceOf other) left right)
    {call another : Call}
    (calls : call.SameBut (allocator.InPlaceOf other) another)
    (sized : call.Sized)
    (apart : call.onAccount = false) :
    AnswersAlike likeness (allocator.InPlaceOf other) (left.perform call)
      (right.perform another) := by
  have together : ∀ {first second : Allocator},
      allocator.InPlaceOf other first second →
      Source.AlikeFor InOrder likeness first.source second.source := by
    rintro _ _ ⟨rfl, rfl⟩
    exact sources
  exact Alike.perform together alike calls
    (likeness.shares_of_not_onAccount apart) fun _ _ request accepted =>
    ⟨accepted, sized.size request⟩

/--
Two runs of the same calls, on allocators that are alike, are answered the same
and hold the same bytes.
-/
theorem answers_inPlaceOf
    {likeness : Likeness}
    (exactly : likeness.Exact)
    (unexcused : ∀ fault, ¬likeness.Excused fault)
    {allocator other : Allocator}
    (sources : Source.AlikeFor InOrder likeness allocator.source other.source)
    {left right : World}
    (begun : likeness.Worlds left right)
    {calls others : List Call}
    (pairs :
      List.Forall₂ (Call.SameBut (allocator.InPlaceOf other)) calls others)
    (accepted : ∀ call ∈ calls, call.Sized ∧ call.onAccount = false) :
    ((start left).transcript calls).map (·.2) =
        ((start right).transcript others).map (·.2) ∧
      Alike likeness (allocator.InPlaceOf other) ((start left).performAll calls)
        ((start right).performAll others) := by
  have alike :
      Alike likeness (allocator.InPlaceOf other) (start left) (start right) :=
    ⟨begun, fun _ => .none⟩
  obtain ⟨answers, still⟩ := alike.performAll (fun alike calls _ =>
    Alike.perform_inPlaceOf sources alike calls.2 calls.1.1 calls.1.2)
    (fun own => absurd own Bool.false_ne_true) (Call.abreast_of_forall₂
      ((List.forall₂_and_left _ _).mpr ⟨accepted, pairs⟩))
    (fun _ _ fault _ => unexcused fault) (fun _ _ fault _ => unexcused fault)
  refine ⟨?_, still⟩
  rw [← answersBut_none, ← answersBut_none]
  exact List.forall₂_eq_eq_eq ▸ answers.imp fun _ _ alike => alike.eq exactly

/--
A configuration with an enforced quota and a bypass, if it is accepted at all,
gives an allocator that cannot be told from the one that the configuration gives
without its bypass.  The same calls of any sizes, on a heap that serves what it
serves, are answered the same by both, with the same bytes, and after any of
them the same is held and the same is left.
-/
theorem bypass_within_hard_quota_is_idle
    {ω : Type}
    (assembly : Assembly ω)
    {config : Config}
    (heap : Heap)
    {quota amount : Nat}
    (enforced : config.enforced = true)
    (limited : config.quota = some quota)
    (size : quota ≤ Size.limit)
    (bypassed : config.bypass = some amount)
    (accepted : config.validate = .ok ()) :
    ∃ allocator later plain after,
      assembly.configure config (.onHeap heap) = .ok (allocator, later) ∧
      assembly.configure { config with bypass := none } (.onHeap heap) =
          .ok (plain, after) ∧
      ∀ calls others,
        List.Forall₂ (Call.SameBut (allocator.InPlaceOf plain)) calls others →
        (∀ call ∈ calls, call.Sized ∧ call.onAccount = false) →
        let left := (start later.world).performAll calls
        let right := (start after.world).performAll others
        ((start later.world).transcript calls).map (·.2) =
            ((start after.world).transcript others).map (·.2) ∧
          (∀ handle, (left.shelf.find? handle).map (·.contents) =
            (right.shelf.find? handle).map (·.contents)) ∧
          allocator.available left.world = plain.available right.world := by
  obtain ⟨_, _, _, clearing⟩ := config
  dsimp only at enforced limited bypassed
  subst enforced limited bypassed
  have promised : amount ≤ quota :=
    (Config.validate_eq_ok_iff _).mp accepted quota amount rfl rfl rfl
  have distinct : assembly.nextMediator + 1 ≠ assembly.nextMediator :=
    Nat.succ_ne_self _
  have sources := (Bypass.alike_source_of_hard_quota distinct promised size
    heap).clearedIf clearing
  refine ⟨_, _, _, _, assembly.configure_of_valid accepted _,
    assembly.configure_of_valid rfl _, ?_⟩
  intro calls others pairs shared left right
  have begun :=
    Likeness.countedTwice_of_opened assembly quota (.emitted (.layersBuilt
      (Config.layerNames ⟨some quota, true, some amount, clearing⟩))) (.emitted
        (.layersBuilt (Config.layerNames ⟨some quota, true, none, clearing⟩)))
  obtain ⟨answers, still⟩ :=
    answers_inPlaceOf trivial (fun _ => id) sources begun pairs shared
  exact ⟨answers, still.contents_eq trivial, sources.available still.world⟩

/--
On a heap that serves up to 80 bytes, with a quota of 100 and a bypass of
60: a request is met in part, growth stops at the quota, a buffer is cut,
and once another one is back the heap refuses what quota and bypass would
both have given.
-/
theorem bypass_within_hard_quota_is_idle_on_small_heap :
    let heap : Heap := { serves := fun size => size ≤ 80 }
    let config : Config :=
      { quota := some 100, enforced := true, bypass := some 60,
        clearing := true }
    let assembly : Assembly Unit :=
      .start [.ofQuota (.ofCeiling 7 false true)] []
    let calls (allocator : Allocator) : List Call :=
      [.allocate 0 allocator 70 30, .allocate 1 allocator 50 10,
        .resize 0 none 90 60, .resizeSlot 0 allocator 20 20, .free 1,
        .resize 0 none 100 25]
    ∃ allocator later plain after,
      assembly.configure config (.onHeap heap) = .ok (allocator, later) ∧
      assembly.configure { config with bypass := none } (.onHeap heap) =
          .ok (plain, after) ∧
      ((start later.world).transcript (calls allocator)).map (·.2) =
          ((start after.world).transcript (calls plain)).map (·.2) ∧
      ((start after.world).transcript (calls plain)).map (·.2.met?) =
        [some 70, some 30, some 70, some 20, none, none] := by
  intro heap config assembly calls
  obtain ⟨allocator, later, plain, after, built, without, same⟩ :=
    @bypass_within_hard_quota_is_idle Unit assembly config heap 100 60 rfl rfl
      (by decide) rfl rfl
  have pairs : List.Forall₂ (Call.SameBut (allocator.InPlaceOf plain))
      (calls allocator) (calls plain) :=
    .cons (.allocate 0 70 30 ⟨rfl, rfl⟩) (.cons (.allocate 1 50 10 ⟨rfl, rfl⟩)
      (.cons (.resize 0 90 60 .none) (.cons (.resizeSlot 0 20 20 ⟨rfl, rfl⟩)
        (.cons (.same rfl) (.cons (.resize 0 100 25 .none) .nil)))))
  have shared : ∀ call ∈ calls allocator, call.Sized ∧
      call.onAccount = false := by
    simp [calls, Call.Sized, Call.onAccount, Size.limit]
  refine ⟨allocator, later, plain, after, built, without,
    (same _ _ pairs shared).1, ?_⟩
  obtain ⟨rfl, rfl⟩ := Prod.mk.inj (Except.ok.inj without)
  decide +kernel

end Session

end BufferBudget
