import BufferBudget.Proofs.Deciding
import Mathlib.Order.MinMax

/-!
# What a stack has left, read off a standing

What an allocator over quotas reports to have left depends on the world only
through where it stands, and `Standing.available` is the function.  Each layer
has a formula of its own: a quota what its ceiling leaves, a guarantee what is
left of its amount, an enforcing tracked layer what the limits leave, the last
two whatever the layers below say.

What is lent only makes it less (`available_lend`).  Layers that ask below after
they have been lent something so find there no more than was reported.
-/

namespace BufferBudget

/-- What is computed in two steps has been computed in both. -/
theorem exists_of_bind_eq_ok
    {α β : Type}
    {first : Except Fault α}
    {next : α → Except Fault β}
    {value : β}
    (computed : first >>= next = .ok value) :
    ∃ middle, first = .ok middle ∧ next middle = .ok value := by
  cases first with
  | error fault => exact nomatch computed
  | ok middle => exact ⟨middle, rfl, computed⟩

/-- What the ceiling of a quota leaves. -/
def MediatorStanding.room : MediatorStanding → Nat
  | .ofQuota quota => quota.room
  | .ofBalance _ => 0

namespace Standing

/-- What one tracker leaves below its limit. -/
def headroom (standing : Standing) (tracker : Nat) : Except Fault Int :=
  match standing.limits tracker with
  | none => .ok Amount.greatest
  | some limit => Amount.sub limit (standing.consumption tracker)

/-- What the limits of some trackers leave. -/
def spare (standing : Standing) : List Nat → Except Fault Int
  | [] => .ok Amount.greatest
  | tracker :: rest => do
      let own ← standing.headroom tracker
      let others ← standing.spare rest
      return min own others

/-- What some layers over a heap have left. -/
def available (standing : Standing) : List Layer → Except Fault Nat
  | [] => .ok Size.limit
  | layer :: below =>
      match layer with
      | .mediated mediator => do
          return min (← standing.available below)
            (standing.mediators mediator).room
      | .bypass mediator amount => do
          let rest :=
            min (← standing.available below) (standing.mediators mediator).room
          return max rest ((standing.mediators mediator).rest amount)
      | .guaranteed mediator amount =>
          .ok ((standing.mediators mediator).rest amount)
      | .tracked lineage enforcing =>
          if enforcing then do
            return (← standing.spare lineage.members).toNat
          else
            .ok Size.limit
      | .probe _ _ => .ok Size.limit
      | .clearing | .tallied _ | .locked _ | .relay => standing.available below

/-- The layers that charge a mediator charge an enforced quota. -/
def OnHardQuotas (standing : Standing) (layers : List Layer) : Prop :=
  ∀ layer ∈ layers, ∀ key, layer.charges key = true →
    ∃ quota, standing.mediators key = .ofQuota quota ∧ quota.enforced = true

section Spare

variable
    {standing : Standing}
    {tracker : Nat}
    {trackers : List Nat}
    {spare bytes : Int}

/-- What a limit admits is no more than what it leaves. -/
theorem le_headroom_of_admits
    (admits : standing.Admits [tracker] bytes)
    (amount : bytes ≤ Amount.greatest)
    (left : standing.headroom tracker = .ok spare) :
    bytes ≤ spare := by
  rw [headroom] at left
  split at left
  · exact Except.ok.inj left ▸ amount
  · rename_i limit limited
    have within := admits tracker List.mem_cons_self limit limited
    rw [Amount.sub] at left
    split at left
    · obtain rfl := Except.ok.inj left
      omega
    · cases left

/-- What every limit admits is no more than what the limits leave. -/
theorem le_spare_of_admits
    (admits : standing.Admits trackers bytes)
    (amount : bytes ≤ Amount.greatest)
    (left : standing.spare trackers = .ok spare) :
    bytes ≤ spare := by
  induction trackers generalizing spare with
  | nil => exact Except.ok.inj left ▸ amount
  | cons tracker rest ih =>
      obtain ⟨least, own, computed⟩ := exists_of_bind_eq_ok left
      obtain ⟨more, others, both⟩ := exists_of_bind_eq_ok computed
      obtain rfl : min least more = spare := Except.ok.inj both
      have admitsFirst : standing.Admits [tracker] bytes := fun other member =>
        admits other (List.mem_cons.mpr (.inl (List.mem_singleton.mp member)))
      have admitsRest : standing.Admits rest bytes := fun other member =>
        admits other (List.mem_cons_of_mem tracker member)
      exact Int.le_min.mpr ⟨le_headroom_of_admits admitsFirst amount own,
        ih admitsRest others⟩

end Spare

section Lending

variable {standing : Standing} {layer : Layer} {layers : List Layer}

theorem OnHardQuotas.tail (onQuotas : standing.OnHardQuotas (layer :: layers)) :
    standing.OnHardQuotas layers :=
  fun lower member => onQuotas lower (List.mem_cons_of_mem layer member)

theorem OnHardQuotas.bypass
    {mediator amount : Nat}
    (onQuotas : standing.OnHardQuotas (.bypass mediator amount :: layers)) :
    standing.OnHardQuotas (.mediated mediator :: layers) :=
  List.forall_mem_cons.mpr
    ⟨onQuotas (.bypass mediator amount) List.mem_cons_self, onQuotas.tail⟩

theorem OnHardQuotas.guaranteed
    {mediator amount : Nat}
    (onQuotas : standing.OnHardQuotas (.guaranteed mediator amount :: layers)) :
    standing.OnHardQuotas (.mediated mediator :: layers) :=
  List.forall_mem_cons.mpr
    ⟨onQuotas (.guaranteed mediator amount) List.mem_cons_self, onQuotas.tail⟩

theorem mediators_lend (standing : Standing) (mediator amount key : Nat) :
    (standing.lend mediator amount).mediators key =
      if key = mediator then (standing.mediators key).lend amount
        else standing.mediators key := by
  show Function.update standing.mediators mediator _ key = _
  rw [Function.update_apply]
  split
  · rename_i same
    rw [same]
  · rfl

theorem OnHardQuotas.lend
    (onQuotas : standing.OnHardQuotas layers)
    (mediator amount : Nat) :
    (standing.lend mediator amount).OnHardQuotas layers := by
  intro layer member key charges
  obtain ⟨quota, stands, enforced⟩ := onQuotas layer member key charges
  rw [mediators_lend, stands]
  split
  · exact ⟨{ quota with usage := quota.usage + amount }, rfl, enforced⟩
  · exact ⟨quota, rfl, enforced⟩

theorem OnHardQuotas.charge
    (onQuotas : standing.OnHardQuotas layers)
    (bytes : Int)
    (trackers : List Nat) :
    (standing.charge bytes trackers).OnHardQuotas layers :=
  onQuotas

/-- A quota leaves no more after it has lent. -/
theorem room_lend_le (standing : Standing) (mediator amount key : Nat) :
    ((standing.lend mediator amount).mediators key).room ≤
      (standing.mediators key).room := by
  rw [mediators_lend]
  split
  · cases standing.mediators key with
    | ofQuota quota =>
        exact Nat.sub_le_sub_left (Nat.le_add_right _ _) quota.ceiling
    | ofBalance outstanding => exact Nat.le_refl 0
  · exact Nat.le_refl _

/-- No more is left of a guaranteed amount after a quota has lent. -/
theorem rest_lend_le
    (standing : Standing)
    (mediator amount key guaranteed : Nat) :
    ((standing.lend mediator amount).mediators key).rest guaranteed ≤
      (standing.mediators key).rest guaranteed := by
  rw [mediators_lend]
  split
  · cases standing.mediators key with
    | ofQuota quota =>
        exact Nat.sub_le_sub_left (Nat.le_add_right _ _) guaranteed
    | ofBalance outstanding => exact Nat.le_refl 0
  · exact Nat.le_refl _

theorem spare_lend
    (standing : Standing)
    (mediator amount : Nat)
    (trackers : List Nat) :
    (standing.lend mediator amount).spare trackers =
      standing.spare trackers := by
  induction trackers with
  | nil => rfl
  | cons tracker rest ih =>
      rw [spare, spare, ih]
      rfl

/-- What is lent is no longer left, and makes nothing unreadable. -/
theorem available_lend
    (standing : Standing)
    (mediator amount : Nat)
    {layers : List Layer}
    {rest : Nat}
    (left : standing.available layers = .ok rest) :
    ∃ less ≤ rest,
      (standing.lend mediator amount).available layers = .ok less := by
  induction layers generalizing rest with
  | nil => exact ⟨rest, Nat.le_refl rest, left⟩
  | cons layer below ih =>
      have room := standing.room_lend_le mediator amount
      have guaranteed := standing.rest_lend_le mediator amount
      cases layer with
      | mediated own =>
          obtain ⟨most, leftBelow, computed⟩ := exists_of_bind_eq_ok left
          obtain rfl := Except.ok.inj computed
          obtain ⟨less, fewer, leftLater⟩ := ih leftBelow
          refine ⟨min less
            ((standing.lend mediator amount).mediators own).room, ?_, ?_⟩
          · exact min_le_min fewer (room own)
          · rw [available, leftLater]
            rfl
      | bypass own bypassed =>
          obtain ⟨most, leftBelow, computed⟩ := exists_of_bind_eq_ok left
          obtain rfl := Except.ok.inj computed
          obtain ⟨less, fewer, leftLater⟩ := ih leftBelow
          refine ⟨max
            (min less ((standing.lend mediator amount).mediators own).room)
            (((standing.lend mediator amount).mediators own).rest bypassed), ?_,
            ?_⟩
          · exact max_le_max (min_le_min fewer (room own))
              (guaranteed own bypassed)
          · rw [available, leftLater]
            rfl
      | guaranteed own promised =>
          obtain rfl := Except.ok.inj left
          exact ⟨_, guaranteed own promised, rfl⟩
      | tracked lineage enforcing =>
          refine ⟨rest, Nat.le_refl rest, ?_⟩
          rw [available, spare_lend]
          exact left
      | probe number screen => exact ⟨rest, Nat.le_refl rest, left⟩
      | clearing => exact ih left
      | tallied tally => exact ih left
      | locked lock => exact ih left
      | relay => exact ih left

end Lending

end Standing

section Worlds

variable {world : World}

theorem World.spare_standing (world : World) (trackers : List Nat) :
    world.standing.spare trackers =
      Charging.spareOf world.trackers trackers := by
  induction trackers with
  | nil => rfl
  | cons tracker rest ih =>
      rw [Standing.spare, Charging.spareOf, ih]
      rfl

theorem World.IsQuota.room_standing
    {mediator : Nat}
    (isQuota : world.IsQuota mediator) :
    (world.standing.mediators mediator).room =
      Mediation.available world mediator := by
  obtain ⟨quota, held⟩ := isQuota
  show (world.mediators.entry mediator).standing.room =
    (world.mediators.entry mediator).available
  rw [held]
  rfl

theorem World.IsQuota.rest_standing
    {mediator : Nat}
    (isQuota : world.IsQuota mediator)
    (amount : Nat) :
    (world.standing.mediators mediator).rest amount =
      amount - Mediation.usage world mediator := by
  obtain ⟨quota, held⟩ := isQuota
  show (world.mediators.entry mediator).standing.rest amount =
    amount - (world.mediators.entry mediator).usage
  rw [held]
  rfl

theorem Mediated.available_eq_standing
    {below : Source}
    {layers : List Layer}
    {mediator : Nat}
    (isQuota : world.IsQuota mediator)
    (sameBelow : below.available world = world.standing.available layers) :
    available mediator below world =
      world.standing.available (.mediated mediator :: layers) := by
  rw [available, sameBelow, Standing.available, isQuota.room_standing]

theorem Bypass.available_eq_standing
    {below : Source}
    {layers : List Layer}
    {mediator amount : Nat}
    (isQuota : world.IsQuota mediator)
    (sameBelow : below.available world = world.standing.available layers) :
    available mediator amount below world =
      world.standing.available (.bypass mediator amount :: layers) := by
  rw [available, Mediated.available_eq_standing isQuota sameBelow,
    Standing.available, Standing.available, isQuota.rest_standing]
  cases world.standing.available layers with
  | error fault => rfl
  | ok most =>
      refine congrArg Except.ok ?_
      -- nothing is left of the amount where the usage has reached it
      split
      · rfl
      · rename_i reached
        rw [Nat.sub_eq_zero_of_le (Nat.not_lt.mp reached), Nat.max_zero]

/--
What an allocator over quotas has left is read off where the world stands.
-/
theorem Allocator.available_eq_standing
    {allocator : Allocator}
    (onQuotas : allocator.OnQuotas world) :
    allocator.available world = world.standing.available allocator.layers := by
  obtain ⟨layers, heap⟩ := allocator
  induction layers with
  | nil => rfl
  | cons layer layers ih =>
      have below := ih fun other member =>
        onQuotas other (List.mem_cons_of_mem layer member)
      have own := onQuotas layer List.mem_cons_self
      cases layer with
      | mediated mediator =>
          exact Mediated.available_eq_standing
            (own mediator (decide_eq_true rfl)) below
      | bypass mediator amount =>
          exact Bypass.available_eq_standing
            (own mediator (decide_eq_true rfl)) below
      | guaranteed mediator amount =>
          have isQuota := own mediator (decide_eq_true rfl)
          exact congrArg Except.ok (isQuota.rest_standing amount).symm
      | tracked lineage enforcing =>
          show Tracked.available lineage enforcing world = _
          rw [Tracked.available, Standing.available, World.spare_standing]
          rfl
      | probe number screen => rfl
      | clearing => exact below
      | tallied tally => exact below
      | locked lock => exact below
      | relay => exact below

end Worlds

end BufferBudget
