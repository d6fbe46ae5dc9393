import BufferBudget.Proofs.Ceiling
import BufferBudget.Proofs.Requests

/-!
# A stack of hard limits is one limit

Enforced quotas on a path, with layers between them that change no sizes, cap a
request one after the other, and each takes back what the layers below have not
used.  All of it together is one limit, at what the stack has left: a request
gets what is left, if it accepts that, and every quota is charged with what the
buffer has gained and with nothing else.

`ration` is what one limit makes of a request, and `ration_min` says that
two in a row are one at the lesser of what they leave.  `Source.Rations` is
the contract of a source that acts as one limit.  Growth is a request for
the bytes that are missing, also where it is no growth at all: a buffer that
the grant does not enlarge is resized below to the size that it has.  The
heap has the last word: a size that it does not serve is refused, whatever
the limit would give.
-/

namespace BufferBudget

/--
What a limit makes of a request, when it has some bytes left: as much of it as
is left, if that is accepted.
-/
def ration (left requested minimal : Nat) : Option Nat :=
  if minimal ≤ left then some (min requested left) else none

section Rationing

variable {left requested minimal granted : Nat}

/-- One limit under another is a limit at the lesser of what the two leave. -/
theorem ration_min (below own requested minimal : Nat) :
    ration (min below own) requested minimal =
      (ration own requested minimal).bind fun granted =>
      ration below granted minimal := by
  unfold ration
  by_cases enough : minimal ≤ own
  · rw [if_pos enough, Option.bind_some]
    by_cases enoughBelow : minimal ≤ below
    · rw [if_pos enoughBelow, if_pos (Nat.le_min.mpr ⟨enoughBelow, enough⟩),
        Nat.min_comm below own, Nat.min_assoc]
    · rw [if_neg enoughBelow, if_neg]
      exact fun both => enoughBelow (Nat.le_min.mp both).1
  · rw [if_neg enough, if_neg]
    · rfl
    · exact fun both => enough (Nat.le_min.mp both).2

theorem ration_zero (left : Nat) : ration left 0 0 = some 0 := by
  simp [ration]

theorem bounds_of_ration
    (given : ration left requested minimal = some granted)
    (accepted : minimal ≤ requested) :
    minimal ≤ granted ∧ granted ≤ requested := by
  unfold ration at given
  split at given
  · obtain rfl := Option.some.inj given
    exact ⟨Nat.le_min.mpr ⟨accepted, by assumption⟩, Nat.min_le_left _ _⟩
  · exact nomatch given

theorem getD_ration_le (left requested minimal : Nat) :
    (ration left requested minimal).getD 0 ≤ requested := by
  unfold ration
  split
  · exact Nat.min_le_left _ _
  · exact Nat.zero_le _

theorem getD_ration_le_left (left requested minimal : Nat) :
    (ration left requested minimal).getD 0 ≤ left := by
  unfold ration
  split
  · exact Nat.min_le_right _ _
  · exact Nat.zero_le _

/--
What is enough is given: where it is nothing, nothing was needed, and that is
never refused.
-/
theorem ration_of_getD_ge
    (enough : minimal ≤ (ration left requested minimal).getD 0) :
    ration left requested minimal =
      some ((ration left requested minimal).getD 0) := by
  cases given : ration left requested minimal with
  | some granted => rfl
  | none =>
      rw [given, Option.getD_none] at enough
      unfold ration at given
      rw [if_pos (Nat.le_trans enough (Nat.zero_le left))] at given
      cases given

/-- What is not enough is not given. -/
theorem ration_of_getD_lt
    (accepted : minimal ≤ requested)
    (short : (ration left requested minimal).getD 0 < minimal) :
    ration left requested minimal = none := by
  cases given : ration left requested minimal with
  | none => rfl
  | some granted =>
      rw [given, Option.getD_some] at short
      exact absurd (bounds_of_ration given accepted).1 (Nat.not_le.mpr short)

/--
What is refused on top of a limit is refused on top of the lower of two limits.
-/
theorem filter_ration_min
    (below own requested minimal : Nat)
    (serves : Nat → Bool) :
    (ration (min below own) requested minimal).filter serves =
        (ration own requested minimal).bind fun granted =>
        (ration below granted minimal).filter serves := by
  rw [ration_min]
  cases ration own requested minimal <;> rfl

theorem filter_eq_self_of_forall
    {given : Option Nat}
    {serves : Nat → Bool}
    (served : ∀ granted, given = some granted → serves granted = true) :
    given.filter serves = given := by
  cases given with
  | none => rfl
  | some granted => rw [Option.filter_some, if_pos (served granted rfl)]

theorem getD_filter_le (given : Option Nat) (serves : Nat → Bool) :
    (given.filter serves).getD 0 ≤ given.getD 0 := by
  cases given with
  | none => exact Nat.le_refl 0
  | some gained =>
      rw [Option.filter_some]
      split
      · exact Nat.le_refl gained
      · exact Nat.zero_le gained

/--
A ration of what is missing, on top of what there is, is a ration at
both together.
-/
theorem map_add_ration
    {size : Nat}
    (larger : size ≤ requested)
    (left minimal : Nat) :
    (ration left (requested - size) (minimal - size)).map (size + ·) =
      if minimal - size ≤ left then some (min requested (size + left))
      else none := by
  unfold ration
  split
  · rw [Option.map_some, ← Nat.add_min_add_left, Nat.add_sub_cancel' larger]
  · rfl

theorem getD_map_add (size : Nat) (given : Option Nat) :
    (given.map (size + ·)).getD size = size + given.getD 0 := by
  cases given <;> rfl

theorem getD_map_add_sub (size : Nat) (given : Option Nat) :
    (given.map (size + ·)).getD size - size = given.getD 0 := by
  rw [getD_map_add, Nat.add_sub_cancel_left]

end Rationing

/--
An enforced quota acts as a limit at its room, also where its usage is
above the ceiling.
-/
theorem Quota.grant_of_enforced
    {quota : Quota}
    (enforced : quota.enforced = true)
    (requested minimal : Nat) :
    quota.grant requested minimal =
      (ration quota.room requested minimal).getD 0 := by
  unfold ration
  cases fitting : quota.fits minimal with
  | true =>
      have enough : minimal ≤ quota.room := by
        simp only [fits, Bool.and_eq_true, decide_eq_true_eq] at fitting
        exact fitting.2
      rw [quota.grant_of_fits requested fitting, if_pos enough,
        Option.getD_some]
  | false =>
      have nothing : quota.grant requested minimal = 0 := by
        rw [quota.grant_of_not_fits requested fitting, enforced]
        rfl
      rw [nothing]
      split
      · rename_i enough
        -- the request is refused although the room would do, so the usage is
        -- above the ceiling
        simp only [fits, enough, decide_true, Bool.and_true,
          decide_eq_false_iff_not] at fitting
        have full : quota.room = 0 :=
          Nat.sub_eq_zero_of_le (Nat.le_of_not_le fitting)
        rw [full, Nat.min_zero, Option.getD_some]
      · rfl

/--
An enforced quota grants as much of a request as its room allows, where
that is enough.
-/
theorem Quota.grant_of_enough
    {quota : Quota}
    (enforced : quota.enforced = true)
    {minimal : Nat}
    (enough : minimal ≤ quota.room)
    (requested : Nat) :
    quota.grant requested minimal = min requested quota.room := by
  rw [quota.grant_of_enforced enforced, ration, if_pos enough, Option.getD_some]

namespace World

/--
What the mediators of a list leave together: the least of what each leaves.
-/
def left (world : World) : List Nat → Nat
  | [] => Size.limit
  | key :: rest => min (world.left rest) (Mediation.available world key)

/--
Enforced quotas stand under the numbers of a list, with figures that are sizes.
-/
def Limits (world : World) (keys : List Nat) : Prop :=
  ∀ key ∈ keys, ∃ quota, world.Enforces key quota ∧
    quota.usage ≤ Size.limit ∧ quota.ceiling ≤ Size.limit

/--
The usage of each quota has risen by what has been gained of it, and nothing
else about a quota is different.
-/
def Rises (gained : Nat → Nat) (world later : World) : Prop :=
  ∀ key quota, world.mediators.entry key = .ofQuota quota →
    later.mediators.entry key =
      .ofQuota { quota with usage := quota.usage + gained key }

/--
The same number of bytes is gained of each mediator of a list, and
nothing of others.
-/
def sharing (keys : List Nat) (bytes : Nat) (key : Nat) : Nat :=
  if key ∈ keys then bytes else 0

variable
    {world middle later : World}
    {gained more : Nat → Nat}
    {own key bytes : Nat}
    {keys : List Nat}

theorem sharing_of_mem (member : key ∈ keys) : sharing keys bytes key = bytes :=
  if_pos member

theorem sharing_of_not_mem (apart : key ∉ keys) : sharing keys bytes key = 0 :=
  if_neg apart

theorem sharing_singleton_of_ne (distinct : key ≠ own) :
    sharing [own] bytes key = 0 :=
  sharing_of_not_mem fun member => distinct (List.mem_singleton.mp member)

theorem sharing_zero (keys : List Nat) : sharing keys 0 = fun _ => 0 := by
  funext key
  unfold sharing
  split <;> rfl

theorem sharing_cons_of_ne (distinct : key ≠ own) (keys : List Nat) :
    sharing (own :: keys) bytes key = sharing keys bytes key := by
  simp only [sharing, List.mem_cons, distinct, false_or]

/-- What is gained of one more mediator is gained of it besides the others. -/
theorem sharing_cons (distinct : own ∉ keys) (key : Nat) :
    sharing [own] bytes key + sharing keys bytes key =
      sharing (own :: keys) bytes key := by
  by_cases same : key = own
  · subst same
    rw [sharing_of_mem List.mem_cons_self, sharing_of_not_mem distinct,
      sharing_of_mem List.mem_cons_self, Nat.add_zero]
  · rw [sharing_singleton_of_ne same, sharing_cons_of_ne same, Nat.zero_add]

theorem Rises.congr
    (rises : Rises gained world later)
    (same : ∀ key, gained key = more key) :
    Rises more world later :=
  funext same ▸ rises

theorem rises_of_same (same : later.mediators = world.mediators) :
    Rises (fun _ => 0) world later := by
  intro key quota held
  rw [same]
  exact held

theorem Rises.trans
    (first : Rises gained world middle)
    (second : Rises more middle later) :
    Rises (fun key => gained key + more key) world later := by
  intro key quota held
  have risen := second key _ (first key quota held)
  rwa [Nat.add_assoc] at risen

/-- What is noted or written beside the mediators does not matter. -/
theorem Rises.of_same
    (rises : Rises gained world middle)
    (same : later.mediators = middle.mediators) :
    Rises gained world later := by
  intro key quota held
  rw [same]
  exact rises key quota held

theorem Rises.entry
    (rises : Rises gained world later)
    (limits : world.Limits [key])
    (nothing : gained key = 0) :
    later.mediators.entry key = world.mediators.entry key := by
  rcases limits key List.mem_cons_self with ⟨quota, enforces, -⟩
  rw [rises key quota enforces.entry, nothing, enforces.entry]
  rfl

/-- An answer is booked in the usage of the quota. -/
theorem rises_grant
    {requested minimal : Nat}
    {quota : Quota}
    {next : Mediator}
    (held : world.mediators.entry own = .ofQuota quota)
    (booked : next = .ofQuota { quota with usage := quota.usage + bytes })
    (came : world.Around (·.grant own requested minimal bytes next) later) :
    Rises (sharing [own] bytes) world later := by
  rcases came with ⟨before, after, -, -, rfl⟩
  intro key other here
  show (world.setMediator own next).mediators.entry key = _
  rw [World.entry_mediators_setMediator]
  by_cases same : key = own
  · subst same
    obtain rfl := Mediator.ofQuota.inj (held.symm.trans here)
    rw [if_pos rfl, sharing_of_mem List.mem_cons_self, booked]
  · rw [if_neg same, sharing_singleton_of_ne same]
    exact here

/--
A payment takes back from the usage of the quota what had been gained of it.
-/
theorem Rises.repay
    (rises : Rises gained world middle)
    (enough : bytes ≤ gained own)
    (came : middle.Around (·.repay own bytes) later) :
    Rises (fun key => gained key - sharing [own] bytes key) world later := by
  rcases came with ⟨before, after, -, -, rfl⟩
  intro key quota held
  have risen := rises key quota held
  show (middle.setMediator own
    ((middle.mediators.entry own).free bytes)).mediators.entry key = _
  rw [World.entry_mediators_setMediator]
  dsimp only
  by_cases same : key = own
  · subst same
    rw [if_pos rfl, sharing_of_mem List.mem_cons_self, risen,
      ← Nat.add_sub_assoc enough]
    rfl
  · rw [if_neg same, sharing_singleton_of_ne same]
    exact risen

theorem Limits.tail (limits : world.Limits (own :: keys)) : world.Limits keys :=
  fun key member => limits key (List.mem_cons_of_mem own member)

theorem Limits.head (limits : world.Limits (own :: keys)) :
    world.Limits [own] := by
  intro key member
  obtain rfl := List.mem_singleton.mp member
  exact limits key List.mem_cons_self

/--
A rise elsewhere leaves the limits of a list as they are, and what they leave.
-/
theorem Limits.of_rises
    (limits : world.Limits keys)
    (rises : Rises gained world later)
    (elsewhere : ∀ key ∈ keys, gained key = 0) :
    later.Limits keys ∧ later.left keys = world.left keys := by
  have same : ∀ key ∈ keys, later.mediators.entry key =
      world.mediators.entry key := by
    intro key member
    refine rises.entry (fun other among => ?_) (elsewhere key member)
    exact limits other (List.mem_singleton.mp among ▸ member)
  constructor
  · intro key member
    rcases limits key member with ⟨quota, enforces, sizes⟩
    exact ⟨quota, enforces.of_entry (same key member), sizes⟩
  · clear limits elsewhere
    induction keys with
    | nil => rfl
    | cons key rest ih =>
        have others := ih fun other member =>
          same other (List.mem_cons_of_mem key member)
        rw [left, left, others, Mediation.available, Mediation.available,
          same key List.mem_cons_self]

end World

namespace Mediation

variable {world : World} {own requested minimal : Nat}

/-- A quota answers with its grant, and books it. -/
theorem allocate_of_quota
    {quota : Quota}
    (held : world.mediators.entry own = .ofQuota quota)
    (sizes : quota.usage ≤ Size.limit ∧ quota.ceiling ≤ Size.limit)
    (accepted : minimal ≤ requested) :
    (world.mediators.entry own).allocate requested minimal = .ok (quota.grant
      requested minimal, .ofQuota
      { quota with usage := quota.usage + quota.grant requested minimal }) := by
  have sound : (world.mediators.entry own).Sound := held ▸ sizes
  rcases Mediator.allocate_of_sound sound accepted with
    ⟨granted, next, answer, -, -⟩
  rcases Mediator.allocate_cases answer with
    ⟨other, same, rfl, rfl⟩ | ⟨_, same, _⟩
  · obtain rfl := Mediator.ofQuota.inj (held.symm.trans same)
    exact answer
  · cases held.symm.trans same

/-- An enforced quota answers with the ration at its room, and books it. -/
theorem allocate_of_enforces
    {quota : Quota}
    (enforces : world.Enforces own quota)
    (sizes : quota.usage ≤ Size.limit ∧ quota.ceiling ≤ Size.limit)
    (accepted : minimal ≤ requested) :
    let granted := (ration quota.room requested minimal).getD 0
    (world.mediators.entry own).allocate requested minimal = .ok (granted,
      .ofQuota { quota with usage := quota.usage + granted }) := by
  rw [allocate_of_quota enforces.entry sizes accepted,
    Quota.grant_of_enforced enforces.enforced requested minimal]

/--
What is left by an enforced quota is given to a request that accepts
it, and booked.
-/
theorem rations_grant
    (limits : world.Limits [own])
    (accepted : minimal ≤ requested) :
    Ends (grant own requested minimal) world (fun answer later =>
        answer = ration (available world own) requested minimal ∧
          world.Rises (World.sharing [own] (answer.getD 0)) later)
      (fun _ _ => False) := by
  rcases limits own List.mem_cons_self with ⟨quota, enforces, sizes⟩
  have room : available world own = quota.room := by
    rw [available, enforces.entry]
    rfl
  rw [room]
  refine grant_rule ?empty (fun _ =>
    (ends_allocate (allocate_of_enforces enforces sizes accepted)).sure
      (fun _ _ answered => answered)) ?enough ?short ?nothing
  case empty =>
    rintro rfl
    obtain rfl : minimal = 0 := Nat.le_zero.mp accepted
    refine ⟨(ration_zero _).symm, ?_⟩
    exact World.sharing_zero [own] ▸ World.rises_of_same rfl
  case enough =>
    rintro _ later ⟨rfl, came⟩ least
    exact ⟨(ration_of_getD_ge least).symm,
      World.rises_grant enforces.entry rfl came⟩
  case short =>
    rintro _ later ⟨rfl, came⟩ less positive
    rw [ration_of_getD_lt accepted less] at positive
    exact absurd positive (Nat.lt_irrefl 0)
  case nothing =>
    rintro later ⟨nothing, came⟩ positive
    rw [← nothing] at came
    refine ⟨(ration_of_getD_lt accepted (nothing ▸ positive)).symm, ?_⟩
    exact World.rises_grant enforces.entry rfl came

/-- What has not been used of a grant is taken back. -/
theorem settles_free
    {middle : World}
    {keys : List Nat}
    {granted kept : Nat}
    (distinct : own ∉ keys)
    (within : kept ≤ granted)
    (rises : world.Rises (fun key =>
      World.sharing [own] granted key + World.sharing keys kept key) middle) :
    Ends (free own (granted - kept)) middle
      (fun _ later => world.Rises (World.sharing (own :: keys) kept) later)
      (fun _ _ => False) := by
  refine (ends_free own _ middle).sure (fun _ later came => ?_)
  have enough : granted - kept ≤
      World.sharing [own] granted own + World.sharing keys kept own := by
    rw [World.sharing_of_mem List.mem_cons_self]
    omega
  refine (rises.repay enough came).congr fun key => ?_
  by_cases same : key = own
  · subst same
    simp only [World.sharing_of_mem List.mem_cons_self,
      World.sharing_of_not_mem distinct]
    omega
  · simp only [World.sharing_singleton_of_ne same,
      World.sharing_cons_of_ne same]
    omega

end Mediation

/-- A heap serves every size up to some number. -/
def Heap.ServesUpTo (heap : Heap) (requested : Nat) : Prop :=
  ∀ size ≤ requested, heap.serves size = true

/--
Whether a heap lets a buffer of some size gain some bytes: it is not
asked about none.
-/
def Heap.enlarges (heap : Heap) (size gained : Nat) : Bool :=
  gained = 0 || heap.serves (size + gained)

theorem Heap.filter_enlarges_zero (heap : Heap) (size : Nat) :
    (some 0).filter (heap.enlarges size) = some 0 :=
  rfl

/-- A heap that serves every size up to a request refuses no ration of it. -/
theorem Heap.ServesUpTo.filter_ration
    {heap : Heap}
    {requested : Nat}
    (serves : heap.ServesUpTo requested)
    (left minimal : Nat) :
    (ration left requested minimal).filter heap.serves =
      ration left requested minimal := by
  refine filter_eq_self_of_forall fun granted given => serves granted ?_
  have most := getD_ration_le left requested minimal
  rwa [given] at most

theorem Heap.ServesUpTo.filter_enlarges
    {heap : Heap}
    {requested size : Nat}
    (serves : heap.ServesUpTo requested)
    (larger : size ≤ requested)
    (left minimal : Nat) :
    (ration left (requested - size) minimal).filter (heap.enlarges size) =
      ration left (requested - size) minimal := by
  refine filter_eq_self_of_forall fun gained given => ?_
  have most := getD_ration_le left (requested - size) minimal
  rw [given, Option.getD_some] at most
  exact Bool.or_eq_true_iff.mpr (.inr (serves (size + gained) (by omega)))

/--
A request has been given a ration, and the mediators of a list have been
charged with it.
-/
def Rationed
    (keys : List Nat)
    (given : Option Nat)
    (world : World)
    (result : Option Contents)
    (later : World) : Prop :=
  result.map (·.size) = given ∧
    world.Rises (World.sharing keys (given.getD 0)) later

/--
A buffer has been given a ration on top of what it had, and the mediators of a
list have been charged with it.
-/
def Enlarged
    (keys : List Nat)
    (given : Option Nat)
    (bench : Workbench)
    (met : Bool)
    (later : Workbench) : Prop :=
  met = given.isSome ∧
    later.contents.size = bench.contents.size + given.getD 0 ∧
    bench.world.Rises (World.sharing keys (given.getD 0)) later.world

/--
The contract of a source over a heap that acts as one limit, at what
the mediators of a list leave.  What the limit gives may still be
refused by the heap.
-/
structure Source.Rations (source : Source) (heap : Heap) (keys : List Nat) :
    Prop where
  available : ∀ world, source.available world = .ok (world.left keys)
  allocate : ∀ {world requested minimal}, world.Limits keys →
    minimal ≤ requested →
    requested ≤ Size.limit →
      Ends (source.allocate requested minimal) world (Rationed keys
        ((ration (world.left keys) requested minimal).filter heap.serves) world)
      (fun _ _ => False)
  resize : ∀ {bench requested minimal}, bench.world.Limits keys →
    minimal ≤ requested →
    bench.contents.size ≤ requested → requested ≤ Size.limit →
    Ends (source.resize requested minimal) bench (Enlarged keys
      ((ration (bench.world.left keys) (requested - bench.contents.size)
        (minimal - bench.contents.size)).filter
        (heap.enlarges bench.contents.size)) bench) (fun _ _ => False)

section Layers

variable
    {below : Source}
    {heap : Heap}
    {keys : List Nat}
    {world : World}
    {requested minimal : Nat}

theorem Rationed.of_same
    {given : Option Nat}
    {result : Option Contents}
    {middle later : World}
    (rationed : Rationed keys given world result middle)
    (same : later.mediators = middle.mediators) :
    Rationed keys given world result later :=
  ⟨rationed.1, rationed.2.of_same same⟩

theorem Enlarged.of_same
    {given : Option Nat}
    {bench middle later : Workbench}
    {met : Bool}
    (enlarged : Enlarged keys given bench met middle)
    (size : later.contents.size = middle.contents.size)
    (same : later.world.mediators = middle.world.mediators) :
    Enlarged keys given bench met later :=
  ⟨enlarged.1, size.trans enlarged.2.1, enlarged.2.2.of_same same⟩

/--
What has happened before without a charge makes no difference to a ration.
-/
theorem Rationed.after
    {given : Option Nat}
    {result : Option Contents}
    {middle later : World}
    (still : world.Rises (fun _ => 0) middle)
    (rationed : Rationed keys given middle result later) :
    Rationed keys given world result later :=
  ⟨rationed.1, (still.trans rationed.2).congr fun _ => Nat.zero_add _⟩

theorem Enlarged.after
    {given : Option Nat}
    {bench middle later : Workbench}
    {met : Bool}
    (still : bench.world.Rises (fun _ => 0) middle.world)
    (size : middle.contents.size = bench.contents.size)
    (enlarged : Enlarged keys given middle met later) :
    Enlarged keys given bench met later :=
  ⟨enlarged.1, size ▸ enlarged.2.1,
    (still.trans enlarged.2.2).congr fun _ => Nat.zero_add _⟩

theorem Source.Rations.noting
    {source : Source}
    (rations : source.Rations heap keys)
    (site : Site) :
    (source.noting site).Rations heap keys where
  available := rations.available
  allocate := by
    intro world requested minimal limits accepted size
    apply noting_allocate_rule
    exact (rations.allocate limits accepted size).sure
      (fun _ _ rationed => rationed.of_same rfl)
  resize := by
    intro bench requested minimal limits accepted larger size
    apply noting_resize_rule
    exact (rations.resize limits accepted larger size).sure
      (fun _ _ enlarged => enlarged.of_same rfl rfl)

/-- A heap is a limit at the greatest size. -/
theorem Heap.rations_source (heap : Heap) : heap.source.Rations heap [] where
  available := fun _ => rfl
  allocate := by
    intro world requested minimal _ accepted size
    have all : ration (world.left []) requested minimal = some requested := by
      rw [ration, World.left, if_pos (Nat.le_trans accepted size),
        Nat.min_eq_left size]
    rw [all, Option.filter_some]
    refine allocate_rule (fun refused => ?_) (fun served => ?_)
    · rw [refused]
      exact ⟨rfl, World.sharing_zero [] ▸ World.rises_of_same rfl⟩
    · rw [if_pos served]
      exact ⟨congrArg some (Contents.size_fresh requested),
        World.rises_of_same rfl⟩
  resize := by
    intro bench requested minimal _ accepted larger size
    have all : ration (bench.world.left []) (requested - bench.contents.size)
          (minimal - bench.contents.size) =
        some (requested - bench.contents.size) := by
      rw [ration, World.left, if_pos (by omega), Nat.min_eq_left (by omega)]
    have whole :
        bench.contents.size + (requested - bench.contents.size) = requested :=
      Nat.add_sub_cancel' larger
    rw [all, Option.filter_some, enlarges, whole]
    refine resize_rule (fun more refused => ?_) (fun _ served => ?_)
      (fun smaller => ?_) (fun same => ?_)
    · rw [refused, if_neg (by simp; omega)]
      exact ⟨rfl, rfl, World.rises_of_same rfl⟩
    · rw [served, if_pos (by simp)]
      refine ⟨rfl, ?_, World.rises_of_same rfl⟩
      rw [Option.getD_some, whole, Contents.size_extend _ larger]
    · exact absurd smaller (Nat.not_lt.mpr larger)
    · rw [if_pos (by simp [same])]
      refine ⟨rfl, ?_, World.rises_of_same rfl⟩
      rw [Option.getD_some, whole, same]

namespace Mediated

variable {own : Nat}

theorem rations_allocate
    (rations : below.Rations heap keys)
    (distinct : own ∉ keys)
    (limits : world.Limits (own :: keys))
    (accepted : minimal ≤ requested)
    (size : requested ≤ Size.limit) :
    Ends (allocate own below requested minimal) world (Rationed (own :: keys)
      ((ration (world.left (own :: keys)) requested minimal).filter heap.serves)
      world) (fun _ _ => False) := by
  rw [World.left, filter_ration_min]
  generalize grants :
    ration (Mediation.available world own) requested minimal = grant
  have asked := Mediation.rations_grant limits.head accepted
  rw [grants] at asked
  refine allocate_rule
    (fun granted result later => grant = some granted ∧
      let kept := (ration (world.left keys) granted minimal).filter heap.serves
      result.map (·.size) = kept ∧
        world.Rises (fun key => World.sharing [own] granted key +
          World.sharing keys (kept.getD 0) key) later)
    asked ?denied ?called ?refused ?short ?whole
  case denied =>
    rintro later ⟨rfl, rises⟩
    refine ⟨rfl, ?_⟩
    rw [Option.getD_none, World.sharing_zero] at rises
    rw [Option.bind_none, Option.getD_none, World.sharing_zero]
    exact rises
  case called =>
    rintro granted later ⟨rfl, rises⟩
    rcases bounds_of_ration grants accepted with ⟨enough, fitting⟩
    have elsewhere : ∀ key ∈ keys, World.sharing [own] granted key = 0 :=
      fun key member => World.sharing_singleton_of_ne fun same =>
        distinct (same ▸ member)
    rcases limits.tail.of_rises rises elsewhere with ⟨stays, same⟩
    have served := rations.allocate stays enough (Nat.le_trans fitting size)
    rw [same] at served
    refine served.sure ?_
    rintro result last ⟨given, further⟩
    exact ⟨rfl, given, rises.trans further⟩
  case refused =>
    rintro granted later ⟨rfl, refused, rises⟩
    rw [Option.map_none] at refused
    rw [← refused] at rises
    rw [Option.bind_some, ← refused]
    have settled := Mediation.settles_free distinct (Nat.zero_le granted) rises
    exact settled.sure (fun _ _ risen => ⟨rfl, risen⟩)
  case short =>
    rintro granted contents later ⟨rfl, given, rises⟩ less
    rw [Option.map_some] at given
    rw [← given, Option.getD_some] at rises
    rw [Option.bind_some, ← given]
    have settled := Mediation.settles_free distinct (Nat.le_of_lt less) rises
    exact settled.sure (fun _ _ risen => ⟨rfl, risen⟩)
  case whole =>
    rintro granted contents later ⟨rfl, given, rises⟩ notLess
    rw [Option.map_some] at given
    have most := Nat.le_trans
      (getD_filter_le (ration (world.left keys) granted minimal) heap.serves)
      (getD_ration_le (world.left keys) granted minimal)
    rw [← given, Option.getD_some] at rises most
    rw [Option.bind_some, ← given]
    obtain rfl : granted = contents.size := by omega
    refine ⟨rfl, rises.congr fun key => ?_⟩
    exact World.sharing_cons distinct key

variable {bench : Workbench}

/-- A buffer that keeps its size is resized below without a grant. -/
theorem rations_shrink
    (rations : below.Rations heap keys)
    (distinct : own ∉ keys)
    (limits : bench.world.Limits (own :: keys))
    (accepted : minimal ≤ bench.contents.size)
    (size : bench.contents.size ≤ Size.limit) :
    Ends (shrink own below bench.contents.size minimal) bench
      (Enlarged (own :: keys) (some 0) bench) (fun _ _ => False) := by
  have resized := rations.resize limits.tail accepted (Nat.le_refl _) size
  rw [Nat.sub_self, Nat.sub_eq_zero_of_le accepted, ration_zero,
      heap.filter_enlarges_zero]
    at resized
  refine shrink_rule resized ?refused ?grown ?kept
  case refused => exact fun later enlarged => nomatch enlarged.1
  case grown =>
    rintro later ⟨-, same, -⟩ larger
    exact absurd same (Nat.ne_of_gt larger)
  case kept =>
    rintro later ⟨-, same, rises⟩ _
    rw [Option.getD_some] at same rises
    have charged : bench.world.Rises (fun key =>
        World.sharing [own] 0 key + World.sharing keys 0 key) later.world :=
      rises.congr fun key => by rw [World.sharing_zero [own], Nat.zero_add]
    rw [same, Nat.add_zero, Nat.sub_self]
    have settled := Mediation.settles_free distinct (Nat.le_refl 0) charged
    exact settled.sure (fun _ _ risen => ⟨rfl, same, risen⟩)

theorem rations_grow
    (rations : below.Rations heap keys)
    (distinct : own ∉ keys)
    (limits : bench.world.Limits (own :: keys))
    (accepted : minimal ≤ requested)
    (larger : bench.contents.size < requested)
    (size : requested ≤ Size.limit) :
    Ends (grow own below requested minimal) bench
      (Enlarged (own :: keys) ((ration (bench.world.left (own :: keys))
        (requested - bench.contents.size)
        (minimal - bench.contents.size)).filter
        (heap.enlarges bench.contents.size)) bench) (fun _ _ => False) := by
  have inOrder : minimal - bench.contents.size ≤
      requested - bench.contents.size :=
    Nat.sub_le_sub_right accepted _
  rw [World.left, filter_ration_min]
  generalize grants : ration (Mediation.available bench.world own)
    (requested - bench.contents.size) (minimal - bench.contents.size) = grant
  have asked := Mediation.rations_grant limits.head inOrder
  rw [grants] at asked
  have most : ∀ granted, ((ration (bench.world.left keys) granted
      (minimal - bench.contents.size)).filter
      (heap.enlarges bench.contents.size)).getD 0 ≤ granted :=
    fun granted =>
      Nat.le_trans (getD_filter_le _ _) (getD_ration_le _ granted _)
  refine grow_rule
    (fun granted met later => grant = some granted ∧
      let kept := (ration (bench.world.left keys) granted
        (minimal - bench.contents.size)).filter
        (heap.enlarges bench.contents.size)
      met = kept.isSome ∧
        later.contents.size = bench.contents.size + kept.getD 0 ∧
        bench.world.Rises (fun key => World.sharing [own] granted key +
          World.sharing keys (kept.getD 0) key) later.world)
    larger (asked.sure (fun _ _ answered => answered))
    ?denied ?beyond ?called ?refused ?excess ?settled
  case denied =>
    rintro later ⟨rfl, rises⟩
    refine ⟨rfl, rfl, ?_⟩
    rw [Option.getD_none, World.sharing_zero] at rises
    rw [Option.bind_none, Option.getD_none, World.sharing_zero]
    exact rises
  case beyond =>
    rintro granted later ⟨rfl, -⟩ beyond
    have fitting := (bounds_of_ration grants inOrder).2
    omega
  case called =>
    rintro granted later ⟨rfl, rises⟩ fits
    rcases bounds_of_ration grants inOrder with ⟨enough, fitting⟩
    have elsewhere : ∀ key ∈ keys, World.sharing [own] granted key = 0 :=
      fun key member => World.sharing_singleton_of_ne fun same =>
        distinct (same ▸ member)
    rcases limits.tail.of_rises rises elsewhere with ⟨stays, same⟩
    have least : minimal ≤ bench.contents.size + granted := by omega
    have resized := @Source.Rations.resize _ _ _ rations
      { bench with world := later } _ _ stays least (Nat.le_add_right _ _) fits
    rw [same, Nat.add_sub_cancel_left] at resized
    refine resized.sure ?_
    rintro met last ⟨isMet, becomes, further⟩
    exact ⟨rfl, isMet, becomes, rises.trans further⟩
  case refused =>
    rintro granted later ⟨rfl, refused, becomes, rises⟩
    have none :=
      Option.not_isSome_iff_eq_none.mp (Bool.not_eq_true _ ▸ refused.symm)
    rw [none, Option.getD_none] at becomes rises
    rw [Option.bind_some, none]
    have settled := Mediation.settles_free distinct (Nat.zero_le granted) rises
    exact settled.sure (fun _ _ risen => ⟨rfl, becomes, risen⟩)
  case excess =>
    rintro granted later ⟨rfl, -, becomes, -⟩ above
    have within := most granted
    omega
  case settled =>
    rintro granted later ⟨rfl, isMet, becomes, rises⟩ _
    rw [Option.bind_some, becomes, Nat.add_sub_add_left]
    have settled := Mediation.settles_free distinct (most granted) rises
    exact settled.sure (fun _ _ risen => ⟨isMet, becomes, risen⟩)

theorem rations_source
    (rations : below.Rations heap keys)
    (distinct : own ∉ keys) :
    (source own below).Rations heap (own :: keys) where
  available := by
    intro world
    show available own below world = _
    rw [available, rations.available]
    rfl
  allocate := rations_allocate rations distinct
  resize := by
    intro bench requested minimal limits accepted larger size
    refine resize_rule (fun notLarger => ?_) (fun more => ?_)
    · obtain rfl : requested = bench.contents.size :=
        Nat.le_antisymm notLarger larger
      rw [Nat.sub_self, Nat.sub_eq_zero_of_le accepted, ration_zero,
        heap.filter_enlarges_zero]
      exact rations_shrink rations distinct limits accepted size
    · exact rations_grow rations distinct limits accepted more size

end Mediated

theorem Clearing.rations_source (rations : below.Rations heap keys) :
    (source below).Rations heap keys where
  available := rations.available
  allocate := by
    intro world requested minimal limits accepted size
    refine allocate_rule ((rations.allocate limits accepted size).sure ?_)
    rintro result later ⟨given, rises⟩
    refine ⟨?_, rises⟩
    rw [← given]
    cases result with
    | none => rfl
    | some contents => exact congrArg some (contents.size_fill 0)
  resize := by
    intro bench requested minimal limits accepted larger size
    refine resize_rule (rations.resize limits accepted larger size)
      (fun _ _ enlarged _ => enlarged) (fun later enlarged _ => ?_)
    exact enlarged.of_same (Contents.size_zeroFrom _ _) rfl

theorem Tallied.rations_source
    (rations : below.Rations heap keys)
    (tally : Nat) :
    (source tally below).Rations heap keys where
  available := rations.available
  allocate := by
    intro world requested minimal limits accepted size
    exact allocate_rule (rations.allocate limits accepted size)
      (fun _ _ rationed => rationed.of_same rfl)
      (fun _ rationed => rationed.of_same rfl)
  resize := by
    intro bench requested minimal limits accepted larger size
    exact resize_rule (rations.resize limits accepted larger size)
      (fun _ _ enlarged _ => enlarged.of_same rfl rfl)
      (fun _ _ enlarged _ => enlarged.of_same rfl rfl)
      (fun _ enlarged _ _ => enlarged.of_same rfl rfl)
      (fun _ _ enlarged _ _ => enlarged)

theorem Locked.rations_source (rations : below.Rations heap keys) (lock : Nat) :
    (source lock below).Rations heap keys where
  available := rations.available
  allocate := by
    intro world requested minimal limits accepted size
    refine (ends_holding _ _).mpr ?_
    have taken :
        world.Rises (fun _ => 0) (world.note (.acquired (.layer lock))) :=
      World.rises_of_same rfl
    rcases limits.of_rises taken fun _ _ => rfl with ⟨stays, same⟩
    have served := rations.allocate stays accepted size
    rw [same] at served
    exact served.sure (fun _ _ rationed => (rationed.after taken).of_same rfl)
  resize := by
    intro bench requested minimal limits accepted larger size
    refine (ends_holdingResizing _ _).mpr ?_
    have taken : bench.world.Rises
        (fun _ => 0) (bench.world.note (.acquired (.layer lock))) :=
      World.rises_of_same rfl
    rcases limits.of_rises taken fun _ _ => rfl with ⟨stays, same⟩
    have resized := @Source.Rations.resize _ _ _ rations
      { bench with world := bench.world.note (.acquired (.layer lock)) } _ _
      stays accepted larger size
    rw [same] at resized
    exact resized.sure
      (fun _ _ enlarged => (enlarged.after taken rfl).of_same rfl rfl)

end Layers

/-- The mediator that a layer is, where it is a limit alone. -/
def Layer.limit? : Layer → Option Nat
  | .mediated own => some own
  | _ => none

/-- A layer is a limit alone, or changes no sizes. -/
def Layer.Plain : Layer → Prop
  | .mediated _ | .clearing | .tallied _ | .locked _ | .relay => True
  | _ => False

/-- The mediators that limit an allocator, the top one first. -/
def Allocator.limits (allocator : Allocator) : List Nat :=
  allocator.layers.filterMap Layer.limit?

/--
An allocator is a stack of limits, at pairwise distinct enforced quotas of a
world, with layers between them that change no sizes.
-/
structure Allocator.HardStack (allocator : Allocator) (world : World) :
    Prop where
  plain : ∀ layer ∈ allocator.layers, layer.Plain
  distinct : allocator.limits.Nodup
  enforced : ∀ key ∈ allocator.limits, ∃ quota, world.Enforces key quota

/-- A stack of limits is one limit. -/
theorem Allocator.rations_source
    {allocator : Allocator}
    (plain : ∀ layer ∈ allocator.layers, layer.Plain)
    (distinct : allocator.limits.Nodup) :
    allocator.source.Rations allocator.heap allocator.limits := by
  rcases allocator with ⟨layers, heap⟩
  induction layers with
  | nil => exact (Heap.rations_source heap).noting .heap
  | cons layer layers ih =>
      have others : ∀ other ∈ layers, other.Plain :=
        fun other member => plain other (List.mem_cons_of_mem layer member)
      have own : layer.Plain := plain layer List.mem_cons_self
      cases layer with
      | mediated mediator =>
          have fewer := List.nodup_cons.mp distinct
          exact (Mediated.rations_source (ih others fewer.2) fewer.1).noting
            (.layer _)
      | clearing =>
          exact (Clearing.rations_source (ih others distinct)).noting (.layer _)
      | tallied tally =>
          exact (Tallied.rations_source (ih others distinct) tally).noting
            (.layer _)
      | locked lock =>
          exact (Locked.rations_source (ih others distinct) lock).noting
            (.layer _)
      | relay => exact (ih others distinct).noting (.layer _)
      | _ => exact own.elim

namespace Session

variable
    {world : World}
    {allocator : Allocator}
    {session : Session}
    {requested minimal : Nat}

/--
Enforced quotas stay, with figures that are sizes, whatever sized
calls are made.
-/
theorem limits_performAll
    (fresh : world.Fresh)
    {calls : List Call}
    (sized : ∀ call ∈ calls, call.Sized)
    {keys : List Nat}
    (enforced : ∀ key ∈ keys, ∃ quota, world.Enforces key quota) :
    ((start world).performAll calls).world.Limits keys := by
  intro key member
  have stays : ∃ quota,
      ((start world).performAll calls).world.Enforces key quota := by
    refine world_performAll (fun later => ∃ quota, later.Enforces key quota) ?_
      ?_ (enforced key member) calls
    · rintro middle later changes ⟨quota, enforces⟩
      rcases enforces.changes changes with ⟨next, further, -⟩
      exact ⟨next, further⟩
    · rintro middle later mediator ceiling came ⟨quota, enforces⟩
      exact ⟨_, enforces.setCeiling mediator ceiling came⟩
  rcases stays with ⟨quota, enforces⟩
  have sound := (orderly_performAll fresh sized).mediators key
  rw [enforces.entry] at sound
  exact ⟨quota, enforces, sound⟩

/-- A request for a new buffer is answered by the ration of a limit. -/
theorem rations_allocateInto
    (limits : session.world.Limits allocator.limits)
    (rations : allocator.source.Rations allocator.heap allocator.limits)
    (accepted : minimal ≤ requested)
    (size : requested ≤ Size.limit)
    (serves : allocator.heap.ServesUpTo requested)
    (handle : Nat) :
    let (result, later) :=
      session.allocateInto handle allocator requested minimal
    let given := ration (session.world.left allocator.limits) requested minimal
    (Answer.allocated result).fault? = none ∧
      (Answer.allocated result).met? = given ∧
      session.world.Rises (World.sharing allocator.limits (given.getD 0))
        later.world := by
  have made := rations.allocate limits accepted size
  rw [serves.filter_ration] at made
  refine allocateInto_rule
    (fun result later => (Answer.allocated result).fault? = none ∧
      (Answer.allocated result).met? =
        ration (session.world.left allocator.limits) requested minimal ∧
      session.world.Rises (World.sharing allocator.limits
        ((ration (session.world.left allocator.limits) requested minimal).getD
          0)) later.world) ?_
  refine Allocator.allocate_rule (Rationed allocator.limits
    (ration (session.world.left allocator.limits) requested minimal)
    session.world) (fun wrong => absurd wrong (Nat.not_lt.mpr accepted))
    (fun _ => made.sure (fun _ _ rationed => rationed)) ?told
  case told =>
    rintro result later ⟨given, rises⟩ diagnostics
    have told :
        session.world.Rises _ (later.noteAll (diagnostics.map .emitted)) :=
      rises.of_same rfl
    cases result with
    | none => exact ⟨fun _ => ⟨rfl, given, told⟩, nofun⟩
    | some contents =>
        refine ⟨nofun, ?_⟩
        rintro _ ⟨⟩
        exact ⟨rfl, given, told⟩

/--
What a source gives a held buffer is what the request for growth is
answered with.
-/
theorem enlarged_resizeHeld
    {keys : List Nat}
    {given : Option Nat}
    {buffer : Buffer}
    (accepted : minimal ≤ requested)
    (resized : Ends (allocator.source.resize requested minimal)
      { world := session.world, contents := buffer.contents } (Enlarged keys
        given { world := session.world, contents := buffer.contents })
      (fun _ _ => False))
    (handle : Nat) :
    let (result, contents, later) :=
      session.resizeHeld handle buffer (allocator.resize requested minimal)
    (Answer.resized result (some contents)).fault? = none ∧
      (Answer.resized result (some contents)).met? =
          given.map (buffer.size + ·) ∧
        session.world.Rises (World.sharing keys (given.getD 0))
          later.world := by
  refine resizeHeld_rule (fun result contents later =>
    (Answer.resized result (some contents)).fault? = none ∧
      (Answer.resized result (some contents)).met? =
          given.map (buffer.size + ·) ∧
        session.world.Rises (World.sharing keys (given.getD 0)) later.world) ?_
  refine Allocator.resize_rule _
    (fun wrong => absurd wrong (Nat.not_lt.mpr accepted))
    (fun _ => resized.sure (fun _ _ enlarged => enlarged)) ?told
  case told =>
    rintro met later ⟨isMet, becomes, rises⟩ diagnostics
    have told : session.world.Rises _
        (later.world.noteAll (diagnostics.map .emitted)) :=
      rises.of_same rfl
    subst isMet
    cases given with
    | none => exact ⟨rfl, rfl, told⟩
    | some gained => exact ⟨rfl, congrArg some becomes, told⟩

/--
A request for growth is answered by the ration of a limit for the bytes
that are missing.
-/
theorem rations_resizeHeld
    (limits : session.world.Limits allocator.limits)
    (rations : allocator.source.Rations allocator.heap allocator.limits)
    {buffer : Buffer}
    (accepted : minimal ≤ requested)
    (larger : buffer.size ≤ requested)
    (size : requested ≤ Size.limit)
    (serves : allocator.heap.ServesUpTo requested)
    (handle : Nat) :
    let (result, contents, later) :=
      session.resizeHeld handle buffer (allocator.resize requested minimal)
    let given := ration (session.world.left allocator.limits)
      (requested - buffer.size) (minimal - buffer.size)
    (Answer.resized result (some contents)).fault? = none ∧
      (Answer.resized result (some contents)).met? =
          given.map (buffer.size + ·) ∧
        session.world.Rises (World.sharing allocator.limits (given.getD 0))
          later.world := by
  have resized := @Source.Rations.resize _ _ _ rations
    { world := session.world, contents := buffer.contents } _ _ limits
    accepted larger size
  have served := serves.filter_enlarges larger
    (session.world.left allocator.limits) (minimal - buffer.size)
  exact enlarged_resizeHeld accepted (served ▸ resized) handle

/--
In a session that has come about by any sized calls, from any accounts that
are fresh, a stack of hard limits is exactly one limit, at what it has left.
A request for a new buffer is met if what it accepts is left, with as much
as is left, and a request for growth is met in the same way for the bytes
that are missing.  Each quota on the path is charged with what is gained,
and no other quota.
-/
theorem hard_stack_is_one_limit
    {world : World}
    (fresh : world.Fresh)
    {calls : List Call}
    (sized : ∀ call ∈ calls, call.Sized)
    {allocator : Allocator}
    (stack : allocator.HardStack world)
    {requested minimal : Nat}
    (accepted : minimal ≤ requested)
    (size : requested ≤ Size.limit)
    (serves : allocator.heap.ServesUpTo requested) :
    let session := (start world).performAll calls
    ∃ left, allocator.available session.world = .ok left ∧
      (∀ handle, session.shelf.find? handle = none →
        let outcome :=
          session.perform (.allocate handle allocator requested minimal)
        outcome.1.fault? = none ∧
          outcome.1.met? =
              (if minimal ≤ left then some (min requested left) else none) ∧
            session.world.Rises (World.sharing allocator.limits
              (outcome.1.met?.getD 0)) outcome.2.world) ∧
      ∀ handle through buffer, session.shelf.find? handle = some buffer →
        through.getD buffer.originator = allocator → buffer.size < requested →
          let outcome :=
            session.perform (.resize handle through requested minimal)
          outcome.1.fault? = none ∧
            outcome.1.met? = (if minimal - buffer.size ≤ left
              then some (min requested (buffer.size + left)) else none) ∧
              session.world.Rises (World.sharing allocator.limits
                (outcome.1.met?.getD buffer.size - buffer.size))
                outcome.2.world := by
  intro session
  have limits := limits_performAll fresh sized stack.enforced
  have rations := Allocator.rations_source stack.plain stack.distinct
  refine ⟨_, rations.available session.world, ?_, ?_⟩
  · intro handle vacant
    have made := rations_allocateInto limits rations accepted size serves handle
    rw [perform_allocate_of_vacant vacant]
    generalize session.allocateInto handle allocator requested minimal =
      outcome at made ⊢
    rcases outcome with ⟨result, later⟩
    rcases made with ⟨answered, met, rises⟩
    exact ⟨answered, met, met ▸ rises⟩
  · intro handle through buffer held same larger
    have resized := rations_resizeHeld limits rations accepted
      (Nat.le_of_lt larger) size serves handle
    rw [perform_resize_of_held held same]
    generalize session.resizeHeld handle buffer
          (allocator.resize requested minimal) = outcome
      at resized ⊢
    rcases outcome with ⟨result, contents, later⟩
    rcases resized with ⟨answered, met, rises⟩
    dsimp only
    rw [met, getD_map_add_sub]
    exact ⟨answered, map_add_ration (Nat.le_of_lt larger) _ minimal, rises⟩

/--
Two quotas of 100 and 60 bytes are charged with 30 bytes by a stack, and the
second with 20 bytes by another allocator besides.  The stack has 10 left, for
a new buffer or for growth, and nothing once the second ceiling is lowered
below the usage.
-/
theorem hard_stack_is_one_limit_at_shared_quota :
    let stack : Allocator :=
      { layers := [.tallied 0, .mediated 0, .locked 0, .mediated 1, .clearing,
        .relay], heap := .standard }
    let other : Allocator := { layers := [.mediated 1], heap := .standard }
    let world : World := .start [.ofQuota (.ofCeiling 100 true false),
      .ofQuota (.ofCeiling 60 true true)] []
    let session := (start world).performAll
      [.allocate 0 stack 30 30, .allocate 1 other 20 20]
    let lowered := (start world).performAll
      [.allocate 0 stack 30 30, .allocate 1 other 20 20, .setCeiling 1 40]
    (session.perform (.allocate 2 stack 40 5)).1.met? = some 10 ∧
      (session.perform (.resize 0 none 90 35)).1.met? = some 40 ∧
        (lowered.perform (.resize 0 none 90 31)).1.met? = none := by
  intro stack other world session lowered
  have fresh : world.Fresh :=
    .start_quotas [.ofCeiling 100 true false, .ofCeiling 60 true true]
      (by decide) (by decide)
  have hard : stack.HardStack world := by
    refine ⟨?_, by decide, fun key member => ?_⟩
    · simp [stack, Layer.Plain]
    · rcases List.mem_cons.mp member with rfl | last
      · exact ⟨_, rfl, rfl⟩
      · rw [List.mem_singleton.mp last]
        exact ⟨_, rfl, rfl⟩
  have serves : ∀ requested ≤ 90, stack.heap.ServesUpTo requested :=
    fun requested few size less => decide_eq_true (by omega)
  have small : ∀ size ≤ 90, size ≤ Size.limit :=
    fun _ less => Nat.le_trans less (by decide)
  have sized : ∀ call ∈ [Call.allocate 0 stack 30 30, .allocate 1 other 20 20],
      call.Sized := by
    simp [Call.Sized, Size.limit]
  have sizedLowered : ∀ call ∈ [Call.allocate 0 stack 30 30,
      .allocate 1 other 20 20, .setCeiling 1 40], call.Sized := by
    simp [Call.Sized, Size.limit]
  rcases hard_stack_is_one_limit fresh sized hard
    (by decide : 5 ≤ 40) (small 40 (by decide)) (serves 40 (by decide)) with
    ⟨left, rest, allocates, -⟩
  rcases hard_stack_is_one_limit fresh sized hard
    (by decide : 35 ≤ 90) (small 90 (by decide)) (serves 90 (by decide)) with
    ⟨leftAgain, restAgain, -, resizes⟩
  rcases hard_stack_is_one_limit fresh sizedLowered hard (by decide : 31 ≤ 90)
    (small 90 (by decide)) (serves 90 (by decide)) with
    ⟨leftLowered, restLowered, -, refuses⟩
  have ten : stack.available ((start world).performAll
    [.allocate 0 stack 30 30, .allocate 1 other 20 20]).world = .ok 10 := by rfl
  have nothing : stack.available ((start world).performAll [.allocate 0 stack 30
    30, .allocate 1 other 20 20, .setCeiling 1 40]).world = .ok 0 := by rfl
  obtain rfl : 10 = left := Except.ok.inj (ten.symm.trans rest)
  obtain rfl : 10 = leftAgain := Except.ok.inj (ten.symm.trans restAgain)
  obtain rfl : 0 = leftLowered := Except.ok.inj (nothing.symm.trans restLowered)
  dsimp only [session, lowered]
  refine ⟨(allocates 2 rfl).2.1, ?_, ?_⟩
  · exact (resizes 0 none _ rfl rfl (by decide)).2.1
  · exact (refuses 0 none _ rfl rfl (by decide)).2.1

end Session

end BufferBudget
