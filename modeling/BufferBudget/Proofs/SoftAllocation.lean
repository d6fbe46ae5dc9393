import BufferBudget.Proofs.Answering
import BufferBudget.Proofs.SoftGrowth

/-!
# New buffers past a soft quota

A request for a new buffer through a bypass gets what the quota below would have
granted to it, or what is left of the amount, whichever is more.  The bypass
raises the least that the request accepts, the counting quota passes the raised
least on, and the quota below grants at least that, within its ceiling or past
it: both ways come to the same size.  The first attempt is met, so that the
bypass never asks a second time.

Here sizes and budgets are of one kind, as they are not for growth: a new buffer
has no bytes yet that would count against what is left of the amount.
-/

namespace BufferBudget

section Allocation

variable
    {below : Source}
    {own soft amount requested minimal : Nat}
    {keys : List Nat}
    {world : World}
    {heap : Heap}

/-- A request is charged with what a source below keeps of its grant. -/
theorem Mediated.rationed_keep
    {granted kept : Nat}
    (distinct : own ∉ keys)
    (within : kept ≤ granted)
    (asked : Ends (Mediation.grant own requested minimal) world
      (fun answer later => answer = some granted ∧
        world.Rises (World.sharing [own] granted) later) (fun _ _ => False))
    (called : ∀ later, world.Rises (World.sharing [own] granted) later →
      Ends (below.allocate granted minimal) later
      (Rationed keys (some kept) later) (fun _ _ => False)) :
    Ends (allocate own below requested minimal) world
      (Rationed (own :: keys) (some kept) world) (fun _ _ => False) := by
  refine allocate_rule (fun given result later => given = granted ∧
    result.map (·.size) = some kept ∧
      world.Rises (fun key =>
        World.sharing [own] granted key + World.sharing keys kept key) later)
    (asked.sure (fun _ _ answered => answered)) ?denied ?called
      ?refused ?short ?full
  case denied =>
    rintro later ⟨impossible, -⟩
    exact nomatch impossible
  case called =>
    rintro _ later ⟨⟨⟩, rises⟩
    refine (called later rises).sure ?_
    rintro result last ⟨size, further⟩
    exact ⟨rfl, size, rises.trans further⟩
  case refused =>
    rintro _ later ⟨-, impossible, -⟩
    exact nomatch impossible
  case short =>
    rintro _ contents later ⟨rfl, size, rises⟩ -
    obtain rfl := Option.some.inj size
    have settled := Mediation.settles_free distinct within rises
    exact settled.sure (fun _ _ risen => ⟨rfl, risen⟩)
  case full =>
    rintro _ contents later ⟨rfl, size, rises⟩ enough
    obtain rfl := Option.some.inj size
    obtain rfl := Nat.le_antisymm within enough
    exact ⟨rfl, rises.congr fun key => World.sharing_cons distinct key⟩

theorem Heap.rationed_allocate (served : heap.serves requested = true) :
    Ends (heap.source.allocate requested minimal) world
      (Rationed [] (some requested) world) (fun _ _ => False) := by
  refine allocate_rule (fun refused => ?_) (fun _ => ?_)
  · exact nomatch served.symm.trans refused
  · exact ⟨congrArg some (Contents.size_fresh requested),
      World.rises_of_same rfl⟩

/-- A request to a quota over the heap gets its grant. -/
theorem Mediated.rationed_over_heap
    {quota : Quota}
    (held : world.mediators.entry own = .ofQuota quota)
    (sizes : quota.usage ≤ Size.limit ∧ quota.ceiling ≤ Size.limit)
    (accepted : minimal ≤ requested)
    (serves : heap.ServesUpTo requested)
    (enough : minimal ≤ quota.grant requested minimal) :
    Ends (allocate own (heap.source.noting .heap) requested minimal) world
      (Rationed [own] (some (quota.grant requested minimal)) world)
      (fun _ _ => False) := by
  refine rationed_keep List.not_mem_nil (Nat.le_refl _)
    (Mediation.ends_grant_of_quota held sizes accepted enough) fun later _ => ?_
  apply Source.noting_allocate_rule
  have made := @Heap.rationed_allocate _ minimal later heap
    (serves _ (quota.grant_le accepted))
  exact made.sure (fun _ _ rationed => rationed.of_same rfl)

/--
A request to a soft quota over the heap gets what the ceiling leaves, and past
the ceiling the least that it accepts.
-/
theorem Mediated.rationed_over_heap_of_soft
    {quota : Quota}
    (held : world.mediators.entry own = .ofQuota quota)
    (lenient : quota.enforced = false)
    (sizes : quota.usage ≤ Size.limit ∧ quota.ceiling ≤ Size.limit)
    (accepted : minimal ≤ requested)
    (serves : heap.ServesUpTo requested)
    (fits : quota.usage + minimal ≤ Size.limit) :
    Ends (allocate own (heap.source.noting .heap) requested minimal) world
      (Rationed [own] (some (min requested (max minimal quota.room))) world)
      (fun _ _ => False) := by
  have given := Quota.grant_of_soft lenient accepted fits
  rw [← given]
  refine rationed_over_heap held sizes accepted serves ?_
  rw [given]
  exact Nat.le_min.mpr ⟨accepted, Nat.le_max_left _ _⟩

/--
What two quotas make of a raised least, where what comes of it can be counted:
a new buffer gets what is left of the amount or what the ceiling leaves,
whichever is more.
-/
theorem Bypass.min_raised
    {rest left room counted : Nat}
    (accepted : minimal ≤ requested)
    (reported : left ≤ rest ∧ rest ≤ max left room)
    (fits : min requested (max (max minimal left) room) ≤ counted) :
    raiseMinimal requested minimal rest ≤ min requested counted ∧
      min (min requested counted)
          (max (raiseMinimal requested minimal rest) room) =
        min requested (max (max minimal left) room) := by
  unfold raiseMinimal
  omega

section Counted

variable
    {counter quota : Quota}
    (distinct : own ≠ soft)
    (counts : world.Enforces own counter)
    (unlimited : counter.ceiling = Size.limit)
    (held : world.mediators.entry soft = .ofQuota quota)
    (lenient : quota.enforced = false)
    (sizes : quota.usage ≤ Size.limit ∧ quota.ceiling ≤ Size.limit)
    (serves : heap.ServesUpTo requested)

include distinct counts unlimited held lenient sizes serves

/--
An unlimited quota grants what it can count of a request, and a soft quota below
it decides how much of that is kept.
-/
theorem Mediated.rationed_over_soft
    (size : counter.usage ≤ Size.limit)
    (accepted : minimal ≤ min requested counter.room)
    (fits : quota.usage + minimal ≤ Size.limit) :
    Ends (allocate own ((source soft (heap.source.noting .heap)).noting
      (.layer (.mediated soft))) requested minimal) world (Rationed [own, soft]
        (some (min (min requested counter.room) (max minimal quota.room)))
        world) (fun _ _ => False) := by
  have apart : own ∉ [soft] :=
    fun member => distinct (List.mem_singleton.mp member)
  have least := Nat.le_min.mp accepted
  have counted : counter.grant requested minimal = min requested counter.room :=
    Quota.grant_of_enough counts.enforced least.2 requested
  have granted := Mediation.ends_grant_of_quota counts.entry
    ⟨size, Nat.le_of_eq unlimited⟩ least.1 (counted.symm ▸ accepted)
  rw [counted] at granted
  refine rationed_keep apart (Nat.min_le_left _ _) granted fun later rises => ?_
  have still : later.mediators.entry soft = .ofQuota quota := by
    rw [rises soft quota held, World.sharing_singleton_of_ne (Ne.symm distinct)]
    rfl
  apply Source.noting_allocate_rule
  have served : heap.ServesUpTo (min requested counter.room) :=
    fun size within => serves size (Nat.le_trans within (Nat.min_le_left _ _))
  have made := @rationed_over_heap_of_soft soft _ minimal later heap quota still
    lenient sizes accepted served fits
  exact made.sure (fun _ _ rationed => rationed.of_same rfl)

/--
A bypass gets what is left of its amount for a new buffer, or what the ceiling
of the soft quota leaves, in the first attempt.
-/
theorem Bypass.rationed_over_soft
    {granted : Nat}
    (accepted : minimal ≤ requested)
    (wins : granted =
      min requested (max (max minimal (amount - counter.usage)) quota.room))
    (counted : counter.usage + granted ≤ Size.limit)
    (fits : quota.usage + granted ≤ Size.limit) :
    Ends (allocate own amount
      ((Mediated.source soft (heap.source.noting .heap)).noting
        (.layer (.mediated soft))) requested minimal) world
      (Rationed [own, soft] (some granted) world) (fun _ _ => False) := by
  have usage : Mediation.usage world own = counter.usage :=
    congrArg Mediator.usage counts.entry
  have room : Mediation.available world soft = quota.room :=
    congrArg Mediator.available held
  have countable : granted ≤ counter.room := by
    unfold Quota.room
    omega
  refine @allocate_rule _ _ _ _ _ _ _ _
    (fun rest later => (amount - counter.usage ≤ rest ∧
      rest ≤ max (amount - counter.usage) quota.room) ∧
        later.mediators = world.mediators)
    (Rationed [own, soft] (some granted) world)
    (readAvailable_rule (fun rest read => ?read)
      (fun fault failed => ?failed)) ?first
    (fun _ _ rationed => rationed) ?again
  case read =>
    have bounds := bounds_of_available read
    rw [usage, room] at bounds
    exact ⟨bounds, rfl⟩
  case failed => exact nomatch failed
  case first =>
    rintro rest later ⟨reported, same⟩
    obtain ⟨raised, kept⟩ := min_raised accepted reported (wins ▸ countable)
    rw [← wins] at kept
    have past : quota.usage + raiseMinimal requested minimal rest ≤
        Size.limit := by omega
    have first := @Mediated.rationed_over_soft own soft requested _ later heap
      counter quota distinct (counts.of_entry (by rw [same])) unlimited
      (same ▸ held) lenient sizes serves (by omega) raised past
    rw [kept] at first
    exact first.sure
      (fun _ _ rationed => rationed.after (World.rises_of_same same))
  case again =>
    -- The raised attempt has been met, so that the bypass never asks
    -- a second time.
    rintro later ⟨impossible, -⟩
    exact nomatch impossible

end Counted

end Allocation

namespace Session

/--
A ration that a source gives is what the request for a new buffer is
answered with.
-/
theorem Puts.rationed
    {session : Session}
    {allocator : Allocator}
    {call : Call}
    {requested minimal granted : Nat}
    {keys : List Nat}
    (puts : session.Puts allocator call none)
    (request : call.request? = some (requested, minimal))
    (accepted : minimal ≤ requested)
    (made : Ends (allocator.source.allocate requested minimal) session.world
      (Rationed keys (some granted) session.world) (fun _ _ => False)) :
    Settled (some granted) (session.world.Rises (World.sharing keys granted))
      (session.perform call) :=
  puts.settled request accepted (fun _ _ rises => rises.of_same rfl)
    (fun _ => made.sure fun _ _ rationed => rationed) nofun nofun

/--
In a session that has come about by any sized calls, from any accounts that are
fresh, a new buffer is asked for through a bypass over a soft quota, and the
heap below serves every size up to the request.  Whichever call asks, it is met,
with what is asked for, what is left of the amount, or what the ceiling leaves:
with the least of the first and the greater of the others, and never with less
than is accepted.  The same request to the quota alone is met as if nothing were
left of the amount, and so with no more.
-/
theorem bypassed_allocation_over_soft_quota
    {world : World}
    (fresh : world.Fresh)
    {calls : List Call}
    (sized : ∀ call ∈ calls, call.Sized)
    {own soft amount : Nat}
    (distinct : own ≠ soft)
    (unlimited : world.mediators.entry own = .unlimited)
    (kept : ∀ call ∈ calls, ∀ ceiling, call ≠ .setCeiling own ceiling)
    (lenient : world.Lenient soft)
    {heap : Heap}
    {requested minimal : Nat}
    (accepted : minimal ≤ requested)
    (serves : heap.ServesUpTo requested) :
    let bypassed : Allocator :=
      { layers := [.bypass own amount, .mediated soft], heap }
    let limit : Allocator := { layers := [.mediated soft], heap }
    let session := (start world).performAll calls
    let left := amount - Mediation.usage session.world own
    let room := Mediation.available session.world soft
    let granted := min requested (max (max minimal left) room)
    let alone := min requested (max minimal room)
    (∀ mediator ∈ [own, soft],
      Mediation.usage session.world mediator + granted ≤ Size.limit) →
      (∀ call, session.Puts bypassed call none →
        call.request? = some (requested, minimal) →
        Settled (some granted)
            (session.world.Rises (World.sharing [own, soft] granted))
            (session.perform call)) ∧
      (∀ call, session.Puts limit call none →
        call.request? = some (requested, minimal) →
        Settled (some alone) (session.world.Rises (World.sharing [soft] alone))
            (session.perform call)) ∧
      min requested (max minimal left) ≤ granted ∧ alone ≤ granted := by
  intro bypassed limit session left room granted alone counted
  obtain ⟨counter, counts, ceiling⟩ := unlimited_performAll unlimited kept
  obtain ⟨quota, held, notEnforced⟩ := lenient_performAll lenient calls
  have sound := (orderly_performAll fresh sized).mediators soft
  rw [held] at sound
  have usage : ∀ {mediator account},
      session.world.mediators.entry mediator = .ofQuota account →
      mediator ∈ [own, soft] → account.usage + granted ≤ Size.limit := by
    intro mediator account here member
    have within := counted mediator member
    rwa [Mediation.usage, here] at within
  have ownLeft : left = amount - counter.usage :=
    congrArg (amount - Mediator.usage ·) counts.entry
  have softRoom : room = quota.room := congrArg Mediator.available held
  have fits := usage held (List.mem_cons_of_mem own List.mem_cons_self)
  refine ⟨fun call puts request => ?bypassed, fun call puts request =>
    ?alone, ?least, ?more⟩
  case bypassed =>
    have wins : granted = min requested
        (max (max minimal (amount - counter.usage)) quota.room) := by
      rw [← ownLeft, ← softRoom]
    have made :=
      Bypass.rationed_over_soft distinct counts ceiling held notEnforced sound
        serves accepted wins (usage counts.entry List.mem_cons_self) fits
    refine puts.rationed request accepted ?_
    apply Source.noting_allocate_rule
    exact made.sure (fun _ _ rationed => rationed.of_same rfl)
  case alone =>
    have made := Mediated.rationed_over_heap_of_soft held notEnforced sound
      accepted serves (by omega)
    rw [← softRoom] at made
    refine puts.rationed request accepted ?_
    apply Source.noting_allocate_rule
    exact made.sure (fun _ _ rationed => rationed.of_same rfl)
  case least => omega
  case more => omega

/--
A soft quota of 10 has granted 25 bytes, and 60 more through a bypass of 100.  A
request for 70 that accepts 5 gets the 40 that are left of the amount, and 5
without the bypass.
-/
theorem bypassed_allocation_over_soft_quota_past_ceiling :
    let bypassed : Allocator :=
      { layers := [.bypass 1 100, .mediated 0], heap := .standard }
    let limit : Allocator := { layers := [.mediated 0], heap := .standard }
    let world : World :=
      .start [.ofQuota (.ofCeiling 10 false false), .unlimited] []
    let session := (start world).performAll
      [.allocate 0 limit 25 25, .allocate 1 bypassed 60 60]
    (session.perform (.allocate 2 bypassed 70 5)).1.Gives (some 40) ∧
      (session.perform (.allocate 2 limit 70 5)).1.Gives (some 5) := by
  intro bypassed limit world session
  have fresh : world.Fresh :=
    .start_quotas [.ofCeiling 10 false false, .ofCeiling Size.limit true false]
      (by decide) (by decide)
  have sized :
      ∀ call ∈ [Call.allocate 0 limit 25 25, .allocate 1 bypassed 60 60],
        call.Sized := by
    simp [Call.Sized, Size.limit]
  have kept :
      ∀ call ∈ [Call.allocate 0 limit 25 25, .allocate 1 bypassed 60 60],
        ∀ ceiling, call ≠ .setCeiling 1 ceiling := by
    simp
  have serves : Heap.standard.ServesUpTo 70 :=
    fun size within => decide_eq_true (by omega)
  have vacant : session.shelf.find? 2 = none := by decide +kernel
  have left : Mediation.usage session.world 1 = 60 := by decide +kernel
  have room : Mediation.available session.world 0 = 0 := by decide +kernel
  have counted : ∀ mediator ∈ [1, 0],
      Mediation.usage session.world mediator + 40 ≤ Size.limit := by
    decide +kernel
  have decided := @bypassed_allocation_over_soft_quota world fresh _ sized 1 0
    100 (by decide) rfl kept ⟨_, rfl, rfl⟩ .standard 70 5 (by decide) serves
  dsimp only [session, world] at decided left room counted vacant ⊢
  rw [left, room] at decided
  obtain ⟨through, without, -⟩ := decided counted
  exact ⟨(through _ (.allocate vacant) rfl).1,
    (without _ (.allocate vacant) rfl).1⟩

end Session

end BufferBudget
