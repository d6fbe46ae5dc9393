import BufferBudget.Proofs.HardStack
import BufferBudget.Proofs.Refusal

/-!
# Growth past a soft quota

A quota that is not enforced turns no request away.  It grants what its ceiling
leaves, and past the ceiling the least that the request accepts.  A bypass over
it raises that least as long as some of its amount is left, so that a new buffer
gets what is left of the amount, whatever the ceiling leaves.

A held buffer does not get as much.  A request for growth names the size that
the buffer is to have, and so does the least that it accepts; what is left of
the amount is a number of bytes that the buffer may gain.  The bypass compares
the two as they are, and the bytes that the buffer has already are taken off the
raised least below.  What `bypassed_growth_over_soft_quota` says is therefore
that the buffer grows to what is left of the amount, and not by it.
-/

namespace BufferBudget

/--
A quota that is not enforced caps a request at its ceiling, but never below what
the request accepts.
-/
theorem Quota.grant_of_soft
    {quota : Quota}
    (soft : quota.enforced = false)
    {requested minimal : Nat}
    (accepted : minimal ≤ requested)
    (fits : quota.usage + minimal ≤ Size.limit) :
    quota.grant requested minimal = min requested (max minimal quota.room) := by
  cases fitting : quota.fits minimal with
  | true =>
      simp only [Quota.fits, Bool.and_eq_true, decide_eq_true_eq] at fitting
      rw [quota.grant_of_fits requested (by simpa [Quota.fits] using fitting),
        Nat.max_eq_right fitting.2]
  | false =>
      have past : quota.room ≤ minimal := by
        simp only [Quota.fits, Bool.and_eq_false_iff, decide_eq_false_iff_not]
          at fitting
        unfold Quota.room at fitting ⊢
        omega
      have counted : minimal ≤ Size.limit - quota.usage := by omega
      rw [quota.grant_of_not_fits requested fitting,
        soft, if_pos (by simpa using counted),
        Nat.max_eq_left past, Nat.min_eq_right accepted]

/-- A quota whose grant is enough for a request gives it, and books it. -/
theorem Mediation.ends_grant_of_quota
    {world : World}
    {own requested minimal : Nat}
    {quota : Quota}
    (held : world.mediators.entry own = .ofQuota quota)
    (sizes : quota.usage ≤ Size.limit ∧ quota.ceiling ≤ Size.limit)
    (accepted : minimal ≤ requested)
    (enough : minimal ≤ quota.grant requested minimal) :
    Ends (grant own requested minimal) world
      (fun answer later => answer = some (quota.grant requested minimal) ∧
        world.Rises (World.sharing [own] (quota.grant requested minimal)) later)
      (fun _ _ => False) := by
  refine grant_rule ?empty
    (fun _ => (ends_allocate (allocate_of_quota held sizes accepted)).sure
      (fun _ _ answered => answered)) ?enough ?short ?nothing
  case empty =>
    intro nothing
    have none : quota.grant requested minimal = 0 :=
      Nat.le_zero.mp (nothing ▸ quota.grant_le accepted)
    rw [none, World.sharing_zero]
    exact ⟨rfl, World.rises_of_same rfl⟩
  case enough =>
    rintro _ later ⟨rfl, came⟩ -
    exact ⟨rfl, World.rises_grant held rfl came⟩
  case short =>
    rintro _ later ⟨rfl, -⟩ less
    exact absurd enough (Nat.not_le.mpr less)
  case nothing =>
    rintro later ⟨nothing, -⟩ positive
    exact absurd enough (Nat.not_le.mpr (nothing ▸ positive))

section Growth

variable
    {below : Source}
    {own requested minimal : Nat}
    {keys : List Nat}
    {bench : Workbench}

/--
A buffer that is granted its growth, and gains some of it below, has
gained that much.
-/
theorem Mediated.enlarges_grow
    {granted gained : Nat}
    (distinct : own ∉ keys)
    (larger : bench.contents.size < requested)
    (within : gained ≤ granted)
    (fits : bench.contents.size + granted ≤ Size.limit)
    (asked : Ends (Mediation.grant own (requested - bench.contents.size)
      (minimal - bench.contents.size)) bench.world
      (fun answer later => answer = some granted ∧
        bench.world.Rises (World.sharing [own] granted) later)
      (fun _ _ => False))
    (called : ∀ later, bench.world.Rises (World.sharing [own] granted) later →
      Ends (below.resize (bench.contents.size + granted) minimal)
      { bench with world := later } (Enlarged keys (some gained)
        { bench with world := later }) (fun _ _ => False)) :
    Ends (grow own below requested minimal) bench
      (Enlarged (own :: keys) (some gained) bench) (fun _ _ => False) := by
  refine grow_rule
    (fun given met later => given = granted ∧ met = true ∧
      later.contents.size = bench.contents.size + gained ∧
        bench.world.Rises (fun key => World.sharing [own] granted key +
          World.sharing keys gained key) later.world)
    larger (asked.sure (fun _ _ answered => answered)) ?denied ?beyond ?called
      ?refused ?excess
    ?settled
  case denied =>
    rintro later ⟨impossible, -⟩
    exact nomatch impossible
  case beyond =>
    rintro _ later ⟨⟨⟩, -⟩ beyond
    exact absurd fits (Nat.not_le.mpr beyond)
  case called =>
    rintro _ later ⟨⟨⟩, rises⟩ -
    refine (called later rises).sure ?_
    rintro met last ⟨isMet, becomes, further⟩
    exact ⟨rfl, isMet, becomes, rises.trans further⟩
  case refused =>
    rintro _ later ⟨-, impossible, -⟩
    exact nomatch impossible
  case excess =>
    rintro _ later ⟨rfl, -, becomes, -⟩ above
    omega
  case settled =>
    rintro _ later ⟨rfl, -, becomes, rises⟩ -
    rw [becomes, Nat.add_sub_add_left]
    have settled := Mediation.settles_free distinct within rises
    exact settled.sure (fun _ _ risen => ⟨rfl, becomes, risen⟩)

/-- A heap that serves a size lets a buffer grow to it. -/
theorem Heap.enlarges_resize
    {heap : Heap}
    {gained : Nat}
    (served : heap.serves (bench.contents.size + gained) = true) :
    Ends (heap.source.resize (bench.contents.size + gained) minimal) bench
      (Enlarged [] (some gained) bench) (fun _ _ => False) := by
  refine resize_rule (fun _ refused => ?_) (fun _ _ => ?_) (fun smaller => ?_)
    (fun same => ?_)
  · exact nomatch served.symm.trans refused
  · exact ⟨rfl, Contents.size_extend _ (Nat.le_add_right _ _),
      World.rises_of_same rfl⟩
  · omega
  · exact ⟨rfl, same.symm, World.rises_of_same rfl⟩

/-- What a quota grants to a buffer that is to grow is gained from the heap. -/
theorem Mediated.enlarges_over_heap
    {heap : Heap}
    {quota : Quota}
    (held : bench.world.mediators.entry own = .ofQuota quota)
    (sizes : quota.usage ≤ Size.limit ∧ quota.ceiling ≤ Size.limit)
    (accepted : minimal ≤ requested)
    (larger : bench.contents.size < requested)
    (size : requested ≤ Size.limit)
    (serves : heap.ServesUpTo requested)
    (enough : minimal - bench.contents.size ≤ quota.grant
      (requested - bench.contents.size) (minimal - bench.contents.size)) :
    Ends ((source own (heap.source.noting .heap)).resize requested minimal)
      bench (Enlarged [own] (some (quota.grant (requested - bench.contents.size)
        (minimal - bench.contents.size))) bench) (fun _ _ => False) := by
  have inOrder : minimal - bench.contents.size ≤
      requested - bench.contents.size :=
    Nat.sub_le_sub_right accepted _
  have most := quota.grant_le inOrder
  refine resize_rule
    (fun smaller => absurd larger (Nat.not_lt.mpr smaller)) (fun _ => ?_)
  refine enlarges_grow List.not_mem_nil larger (Nat.le_refl _) (by omega)
    (Mediation.ends_grant_of_quota held sizes inOrder enough) fun later _ => ?_
  apply Source.noting_resize_rule
  have served :=
    serves _ (by omega : bench.contents.size + quota.grant (requested -
      bench.contents.size) (minimal - bench.contents.size) ≤ requested)
  exact (@Heap.enlarges_resize minimal
    { bench with world := later } heap _ served).sure
    (fun _ _ enlarged => enlarged.of_same rfl rfl)

/--
What two quotas make of a raised least: the buffer grows to what is left of the
amount or to what the ceiling leaves, whichever is more.
-/
theorem Bypass.size_add_raised_growth
    {size rest left room : Nat}
    (accepted : minimal ≤ requested)
    (larger : size < requested)
    (reported : left ≤ rest ∧ rest ≤ max left room) :
    size + min (requested - size)
        (max (raiseMinimal requested minimal rest - size) room) =
      min requested (max (max minimal left) (size + room)) := by
  unfold raiseMinimal
  omega

/--
A bypass over a soft quota reports what is left of its amount, or more, but no
more than is left of one of the two.
-/
theorem Bypass.bounds_of_available
    {soft amount rest : Nat}
    {heap : Heap}
    {world : World}
    (read : available own amount
        (Mediated.source soft (heap.source.noting .heap)) world = .ok rest) :
    amount - Mediation.usage world own ≤ rest ∧
      rest ≤ max (amount - Mediation.usage world own)
        (Mediation.available world soft) := by
  have under : min (min Size.limit (Mediation.available world soft))
        (Mediation.available world own) ≤
      Mediation.available world soft := by omega
  obtain rfl := Except.ok.inj read
  split <;> omega

section Counted

variable
    {soft amount : Nat}
    {heap : Heap}
    {counter quota : Quota}
    (distinct : own ≠ soft)
    (counts : bench.world.Enforces own counter)
    (unlimited : counter.ceiling = Size.limit)
    (held : bench.world.mediators.entry soft = .ofQuota quota)
    (lenient : quota.enforced = false)
    (sizes : quota.usage ≤ Size.limit ∧ quota.ceiling ≤ Size.limit)
    (accepted : minimal ≤ requested)
    (larger : bench.contents.size < requested)
    (size : requested ≤ Size.limit)
    (serves : heap.ServesUpTo requested)
    (counted : counter.usage + (requested - bench.contents.size) ≤ Size.limit)
    (fits : quota.usage + (requested - bench.contents.size) ≤ Size.limit)

include distinct counts unlimited held lenient sizes accepted larger size
  serves counted fits

/--
An unlimited quota grants the whole growth, and what a soft quota below it
grants is gained.
-/
theorem Mediated.enlarges_over_soft :
    Ends (resize own ((source soft (heap.source.noting .heap)).noting
      (.layer (.mediated soft))) requested minimal) bench
      (Enlarged [own, soft] (some (min (requested - bench.contents.size)
        (max (minimal - bench.contents.size) quota.room))) bench)
      (fun _ _ => False) := by
  have inOrder : minimal - bench.contents.size ≤
      requested - bench.contents.size :=
    Nat.sub_le_sub_right accepted _
  have apart : own ∉ [soft] :=
    fun member => distinct (List.mem_singleton.mp member)
  have whole : counter.grant (requested - bench.contents.size)
      (minimal - bench.contents.size) = requested - bench.contents.size := by
    have room : requested - bench.contents.size ≤ counter.room := by
      unfold Quota.room
      omega
    rw [Quota.grant_of_enough counts.enforced (Nat.le_trans inOrder room),
      Nat.min_eq_left room]
  have target :
      bench.contents.size + (requested - bench.contents.size) = requested :=
    Nat.add_sub_cancel' (Nat.le_of_lt larger)
  have granted := Mediation.ends_grant_of_quota counts.entry
    ⟨Nat.le_trans (Nat.le_add_right _ _) counted, Nat.le_of_eq unlimited⟩
    inOrder (whole.symm ▸ inOrder)
  rw [whole] at granted
  refine resize_rule
    (fun smaller => absurd larger (Nat.not_lt.mpr smaller)) (fun _ => ?_)
  refine enlarges_grow apart larger (Nat.min_le_left _ _)
    (target.symm ▸ size) granted ?_
  intro later rises
  have still : later.mediators.entry soft = .ofQuota quota := by
    rw [rises soft quota held, World.sharing_singleton_of_ne (Ne.symm distinct)]
    rfl
  have given := Quota.grant_of_soft lenient inOrder
    (Nat.le_trans (Nat.add_le_add_left inOrder _) fits)
  have enough : minimal - bench.contents.size ≤ quota.grant
      (requested - bench.contents.size) (minimal - bench.contents.size) := by
    rw [given]
    exact Nat.le_min.mpr ⟨inOrder, Nat.le_max_left _ _⟩
  have gained := @enlarges_over_heap soft requested minimal
    { bench with world := later } heap quota
    still sizes accepted larger size serves enough
  rw [given] at gained
  apply Source.noting_resize_rule
  rw [target]
  exact gained.sure (fun _ _ enlarged => enlarged.of_same rfl rfl)

/--
A bypass lets a buffer grow to what is left of its amount, in the first attempt.
-/
theorem Bypass.enlarges_over_soft :
    Ends (resize own amount
      ((Mediated.source soft (heap.source.noting .heap)).noting
        (.layer (.mediated soft))) requested minimal) bench
      (Enlarged [own, soft]
        (some (min requested (max (max minimal (amount - counter.usage))
          (bench.contents.size + quota.room)) - bench.contents.size)) bench)
      (fun _ _ => False) := by
  have usage : Mediation.usage bench.world own = counter.usage :=
    congrArg Mediator.usage counts.entry
  have room : Mediation.available bench.world soft = quota.room :=
    congrArg Mediator.available held
  refine resize_rule
    (fun rest later => amount - counter.usage ≤ rest ∧
      rest ≤ max (amount - counter.usage) quota.room ∧
        later.mediators = bench.world.mediators)
    (Enlarged [own, soft]
      (some (min requested (max (max minimal (amount - counter.usage))
        (bench.contents.size + quota.room)) - bench.contents.size)) bench)
    (readAvailable_rule (fun rest read => ?read)
      (fun fault failed => ?failed)) ?first
    (fun _ enlarged => enlarged) ?again
  case read =>
    have bounds := bounds_of_available read
    rw [usage, room] at bounds
    exact ⟨bounds.1, bounds.2, rfl⟩
  case failed => exact nomatch failed
  case first =>
    rintro rest later ⟨least, most, same⟩
    have raised := @size_add_raised_growth requested minimal _ _ _ quota.room
      accepted larger ⟨least, most⟩
    have first := @Mediated.enlarges_over_soft own requested
      (raiseMinimal requested minimal rest)
      { bench with world := later } soft heap counter quota distinct
      (counts.of_entry (by rw [same])) unlimited (same ▸ held) lenient sizes
      (raiseMinimal_le requested minimal rest) larger size serves counted fits
    rw [← raised, Nat.add_sub_cancel_left]
    refine first.sure (fun met last enlarged => ?_)
    exact @Enlarged.after _ _ bench { bench with world := later } last met
      (World.rises_of_same same) rfl enlarged
  case again =>
    -- The raised attempt has been met, so that the bypass never asks
    -- a second time.
    rintro later ⟨impossible, -⟩
    exact nomatch impossible

end Counted

end Growth

/-- A quota that is not enforced stands under the number of a mediator. -/
def World.Lenient (world : World) (mediator : Nat) : Prop :=
  ∃ quota, world.mediators.entry mediator = .ofQuota quota ∧
    quota.enforced = false

/-- Steps leave a quota as lenient as it was. -/
theorem World.Changes.lenient
    {world later : World}
    (changes : world.Changes later)
    {mediator : Nat}
    (lenient : world.Lenient mediator) :
    later.Lenient mediator := by
  induction changes with
  | refl => exact lenient
  | tail _ step ih =>
      obtain ⟨quota, held, soft⟩ := ih
      rcases step.mediator_cases mediator with same |
        ⟨requested, minimal, granted, answer⟩ | ⟨amount, paid⟩
      · exact ⟨quota, same.trans held, soft⟩
      · rcases Mediator.allocate_cases answer with
          ⟨other, was, _, booked⟩ | ⟨_, other, _⟩
        · obtain rfl := Mediator.ofQuota.inj (held.symm.trans was)
          exact ⟨_, booked, soft⟩
        · exact nomatch held.symm.trans other
      · rw [held] at paid
        exact ⟨quota.free amount, paid, soft⟩

namespace Session

variable {world : World} {mediator : Nat} {calls : List Call}

/-- Whatever is done, a quota stays as lenient as it was. -/
theorem lenient_performAll
    (lenient : world.Lenient mediator)
    (calls : List Call) :
    ((start world).performAll calls).world.Lenient mediator := by
  refine world_performAll (·.Lenient mediator)
    (fun _ _ changes => changes.lenient) ?_ lenient calls
  rintro before _ own ceiling ⟨_, _, -, -, rfl⟩ ⟨quota, held, soft⟩
  by_cases same : mediator = own
  · subst same
    refine ⟨quota.setCeiling ceiling, (if_pos rfl).trans ?_, soft⟩
    exact congrArg (fun account => account.setCeiling ceiling) held
  · exact ⟨quota, (if_neg same).trans held, soft⟩

/-- An unlimited quota stays one as long as its ceiling is not moved. -/
theorem unlimited_performAll
    (unlimited : world.mediators.entry mediator = .unlimited)
    (kept : ∀ call ∈ calls, ∀ ceiling, call ≠ .setCeiling mediator ceiling) :
    ∃ quota, ((start world).performAll calls).world.Enforces mediator quota ∧
      quota.ceiling = Size.limit := by
  refine (follows_of_forall kept (start world)).invariant (fun session =>
    ∃ quota, session.world.Enforces mediator quota ∧ quota.ceiling = Size.limit)
    ?_ ⟨_, ⟨unlimited, rfl⟩, rfl⟩
  rintro session call notCeiling ⟨quota, enforces, same⟩
  obtain ⟨next, stays, stillSame, -⟩ := bounds_perform enforces notCeiling
  exact ⟨next, stays, stillSame.trans same⟩

/--
In a session that has come about by any sized calls, from any accounts that are
fresh, a buffer of a bypass over a soft quota is to grow, and the heap below
serves every size up to the request.  The buffer grows to what is asked for, to
what is left of the amount, or to what the ceiling leaves on top of what it has:
to the least of the first and the greater of the others.  The bytes that the
buffer has are counted against what is left of the amount, although they are no
part of the growth.
-/
theorem bypassed_growth_over_soft_quota
    {world : World}
    (fresh : world.Fresh)
    {calls : List Call}
    (sized : ∀ call ∈ calls, call.Sized)
    {own soft amount : Nat}
    (distinct : own ≠ soft)
    (unlimited : world.mediators.entry own = .unlimited)
    (kept : ∀ call ∈ calls, ∀ ceiling, call ≠ .setCeiling own ceiling)
    (lenient : world.Lenient soft)
    {heap : Heap}
    {requested minimal : Nat}
    (accepted : minimal ≤ requested)
    (size : requested ≤ Size.limit)
    (serves : heap.ServesUpTo requested) :
    let allocator : Allocator :=
      { layers := [.bypass own amount, .mediated soft], heap }
    let session := (start world).performAll calls
    let left := amount - Mediation.usage session.world own
    ∀ handle through buffer, session.shelf.find? handle = some buffer →
      through.getD buffer.originator = allocator → buffer.size < requested →
        (∀ mediator ∈ [own, soft],
          Mediation.usage session.world mediator + (requested - buffer.size) ≤
              Size.limit) →
          let outcome :=
            session.perform (.resize handle through requested minimal)
          let grown := min requested (max (max minimal left)
            (buffer.size + Mediation.available session.world soft))
          outcome.1.fault? = none ∧ outcome.1.met? = some grown ∧
            session.world.Rises
              (World.sharing [own, soft] (grown - buffer.size))
              outcome.2.world := by
  intro allocator session left handle through buffer holds same larger
    counted outcome grown
  obtain ⟨counter, counts, ceiling⟩ := unlimited_performAll unlimited kept
  obtain ⟨quota, held, notEnforced⟩ := lenient_performAll lenient calls
  have sound := (orderly_performAll fresh sized).mediators soft
  rw [held] at sound
  have usage : ∀ {mediator account},
      session.world.mediators.entry mediator = .ofQuota account →
      mediator ∈ [own, soft] →
        account.usage + (requested - buffer.size) ≤ Size.limit := by
    intro mediator account here member
    have within := counted mediator member
    rwa [Mediation.usage, here] at within
  have grows := @Bypass.enlarges_over_soft own requested minimal
    { world := session.world, contents := buffer.contents } soft amount heap
    counter quota distinct counts ceiling held notEnforced sound accepted larger
    size serves (usage counts.entry List.mem_cons_self)
    (usage held (List.mem_cons_of_mem own List.mem_cons_self))
  have becomes : grown = min requested (max
      (max minimal (amount - counter.usage)) (buffer.size + quota.room)) := by
    dsimp only [grown, left]
    rw [Mediation.usage, counts.entry, Mediation.available, held]
    rfl
  have more : buffer.size ≤ grown := by omega
  have resized : Ends (allocator.source.resize requested minimal)
      { world := session.world, contents := buffer.contents }
      (Enlarged [own, soft] (some (grown - buffer.size))
        { world := session.world, contents := buffer.contents })
      (fun _ _ => False) := by
    apply Source.noting_resize_rule
    rw [becomes]
    exact grows.sure (fun _ _ enlarged => enlarged.of_same rfl rfl)
  obtain ⟨answered, met, rises⟩ := enlarged_resizeHeld accepted resized handle
  rw [Option.map_some, Nat.add_sub_cancel' more] at met
  dsimp only [outcome]
  rw [perform_resize_of_held holds same]
  exact ⟨answered, met, rises⟩

/--
A bypass of 100 bytes over a soft quota of 10 holds a buffer of 30 bytes, and
the quota is charged with 5 bytes besides.  The buffer grows to the 70 bytes
that are left of the amount, and both quotas count the 40 bytes that it gains.
-/
theorem bypassed_growth_over_soft_quota_past_ceiling :
    let allocator : Allocator :=
      { layers := [.bypass 1 100, .mediated 0], heap := .standard }
    let limit : Allocator := { layers := [.mediated 0], heap := .standard }
    let world : World :=
      .start [.ofQuota (.ofCeiling 10 false false), .unlimited] []
    let session := (start world).performAll
      [.allocate 0 allocator 30 0, .allocate 1 limit 5 5]
    let outcome := session.perform (.resize 0 (some allocator) 120 0)
    outcome.1.met? = some 70 ∧
      session.world.Rises (World.sharing [1, 0] 40) outcome.2.world := by
  intro allocator limit world session outcome
  have fresh : world.Fresh :=
    .start_quotas [.ofCeiling 10 false false, .ofCeiling Size.limit true false]
      (by decide) (by decide)
  have sized : ∀ call ∈ [Call.allocate 0 allocator 30 0, .allocate 1 limit 5 5],
      call.Sized := by
    simp [Call.Sized, Size.limit]
  have kept : ∀ call ∈ [Call.allocate 0 allocator 30 0, .allocate 1 limit 5 5],
      ∀ ceiling, call ≠ .setCeiling 1 ceiling := by
    simp
  have serves : Heap.standard.ServesUpTo 120 :=
    fun size within => decide_eq_true (by omega)
  have holds : (session.shelf.find? 0).map (·.size) =
      some 30 := by decide +kernel
  obtain ⟨buffer, held, size⟩ := Option.map_eq_some_iff.mp holds
  have larger : buffer.size < 120 := by
    rw [size]
    decide
  have counted : ∀ mediator ∈ [1, 0], Mediation.usage session.world mediator +
        (120 - buffer.size) ≤ Size.limit := by
    rw [size]
    decide +kernel
  have grown : min 120 (max (max 0 (100 - Mediation.usage session.world 1))
      (30 + Mediation.available session.world 0)) = 70 := by
    decide +kernel
  obtain ⟨-, met, rises⟩ :=
    bypassed_growth_over_soft_quota fresh sized (by decide : 1 ≠ 0) rfl kept
      ⟨_, rfl, rfl⟩ (Nat.zero_le 120) (by decide) serves 0
      (some allocator) buffer held rfl larger counted
  dsimp only [session, outcome] at grown ⊢
  rw [size, grown] at met rises
  exact ⟨met, rises⟩

/--
A bypass of 100 bytes over a soft quota of 10 has 40 bytes left beside a buffer
of 60.  A request for 100 bytes is met, and the buffer gains none of them.
-/
theorem bypassed_growth_gains_nothing :
    let allocator : Allocator :=
      { layers := [.bypass 1 100, .mediated 0], heap := .standard }
    let world : World :=
      .start [.ofQuota (.ofCeiling 10 false false), .unlimited] []
    let session := (start world).performAll [.allocate 0 allocator 60 60]
    let left := 100 - Mediation.usage session.world 1
    left = 40 ∧ allocator.available session.world = .ok 40 ∧
      (session.perform (.resize 0 none 100 0)).1.met? = some 60 ∧
        60 < min 100 (60 + left) :=
  ⟨rfl, rfl, rfl, by decide⟩

end Session

end BufferBudget
