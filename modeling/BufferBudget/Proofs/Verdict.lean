import BufferBudget.Proofs.Shedding

/-!
# What decides on a request

Whether a stack meets a request is decided by what the accounts stand at when it
is put.  `Meets` says so without running anything: each layer turns a request
into requests for the layers below, as far as its accounts admit it, and the
heap has the last word.  The minimal that a bypass raises plays no part in it,
since it asks again as it was asked.

Two things are proved of this verdict.  It is monotone: the smaller of two
requests is turned into the smaller ones at every layer (`Meets.mono`).  And it
depends on no accounts but those that the layers charge (`meets_congr`), so that
a layer which charges others does not change it while it asks.

`held` is the size of the buffer that is to be resized, if it is that.
-/

namespace BufferBudget

/--
What a quota lets a layer ask for below: a grant that is too small is none, and
an empty request needs no grant.
-/
def Quota.passes (quota : Quota) (requested minimal : Nat) : Option Nat :=
  if requested = 0 then some 0
  else if minimal ≤ quota.grant requested minimal then
    some (quota.grant requested minimal)
  else none

namespace Quota

variable {quota : Quota} {requested minimal fewer less : Nat}

theorem fits_mono (lower : less ≤ minimal) (fits : quota.fits minimal = true) :
    quota.fits less = true := by
  simp only [Quota.fits, Bool.and_eq_true, decide_eq_true_eq] at fits ⊢
  exact ⟨fits.1, Nat.le_trans lower fits.2⟩

theorem le_room_of_fits (fits : quota.fits minimal = true) :
    minimal ≤ quota.room := by
  simp only [Quota.fits, Bool.and_eq_true, decide_eq_true_eq] at fits
  exact fits.2

/--
A quota that has room for something leaves less than what it has no room for.
-/
theorem room_lt_of_not_fits
    (some : quota.fits less = true)
    (fits : quota.fits minimal = false) :
    quota.room < minimal := by
  refine Nat.not_le.mp fun within => Bool.false_ne_true (fits.symm.trans ?_)
  simp only [Quota.fits, Bool.and_eq_true, decide_eq_true_eq] at some ⊢
  exact ⟨some.1, within⟩

/--
For the smaller of two requests a quota grants no more, and enough if it does
for the larger.
-/
theorem grant_mono
    (smaller : fewer ≤ requested)
    (lower : less ≤ minimal)
    (accepted : less ≤ fewer)
    (enough : minimal ≤ quota.grant requested minimal) :
    quota.grant fewer less ≤ quota.grant requested minimal ∧
      less ≤ quota.grant fewer less := by
  cases fits : quota.fits minimal with
  | true =>
      have fitsToo : quota.fits less = true := fits_mono lower fits
      rw [grant_of_fits requested fits, grant_of_fits fewer fitsToo]
      have room := le_room_of_fits fitsToo
      omega
  | false =>
      -- past its ceiling a quota grants the least that is accepted, or nothing
      rw [grant_of_not_fits requested fits] at enough ⊢
      split at enough
      · rename_i soft
        rw [if_pos soft]
        cases fitsToo : quota.fits less with
        | true =>
            rw [grant_of_fits fewer fitsToo]
            have room := le_room_of_fits fitsToo
            have short := room_lt_of_not_fits fitsToo fits
            omega
        | false =>
            have softToo :
                (!quota.enforced && decide (less ≤ Size.limit - quota.usage)) =
                  true := by
              simp only [Bool.and_eq_true, decide_eq_true_eq] at soft ⊢
              exact ⟨soft.1, Nat.le_trans lower soft.2⟩
            rw [grant_of_not_fits fewer fitsToo, if_pos softToo]
            exact ⟨lower, Nat.le_refl less⟩
      · rename_i hard
        obtain rfl : minimal = 0 := Nat.eq_zero_of_le_zero enough
        obtain rfl : less = 0 := Nat.eq_zero_of_le_zero lower
        rw [grant_of_not_fits fewer fits, if_neg hard]
        exact ⟨Nat.le_refl 0, Nat.le_refl 0⟩

theorem passes_mono
    {granted : Nat}
    (given : quota.passes requested minimal = some granted)
    (smaller : fewer ≤ requested)
    (lower : less ≤ minimal)
    (accepted : less ≤ fewer) :
    ∃ smallerGrant, quota.passes fewer less = some smallerGrant ∧
      smallerGrant ≤ granted ∧
      less ≤ smallerGrant := by
  by_cases empty : fewer = 0
  · exact ⟨0, if_pos empty, Nat.zero_le _, empty ▸ accepted⟩
  · have asked : requested ≠ 0 :=
      fun none => empty (Nat.eq_zero_of_le_zero (none ▸ smaller))
    rw [passes, if_neg asked] at given
    split at given
    · rename_i enough
      obtain rfl := Option.some.inj given
      obtain ⟨noMore, enoughToo⟩ := grant_mono smaller lower accepted enough
      exact ⟨_,
        by rw [passes, if_neg empty, if_pos enoughToo], noMore, enoughToo⟩
    · exact nomatch given

end Quota

namespace MediatorStanding

/-- What a mediator lets a layer ask for below, as far as it is a quota. -/
def passes : MediatorStanding → Nat → Nat → Option Nat
  | .ofQuota quota, requested, minimal => quota.passes requested minimal
  | .ofBalance _, _, _ => none

/-- What a quota leaves of a guaranteed amount. -/
def rest (amount : Nat) : MediatorStanding → Nat
  | .ofQuota quota => amount - quota.usage
  | .ofBalance _ => 0

theorem passes_mono
    {standing : MediatorStanding}
    {requested minimal granted fewer less : Nat}
    (given : standing.passes requested minimal = some granted)
    (smaller : fewer ≤ requested)
    (lower : less ≤ minimal)
    (accepted : less ≤ fewer) :
    ∃ smallerGrant, standing.passes fewer less = some smallerGrant ∧
      smallerGrant ≤ granted ∧
      less ≤ smallerGrant := by
  cases standing with
  | ofQuota quota => exact quota.passes_mono given smaller lower accepted
  | ofBalance outstanding => exact nomatch given

end MediatorStanding

/-- The limits of some trackers leave room for bytes more. -/
def Standing.Admits (standing : Standing) (trackers : List Nat) (bytes : Int) :
    Prop :=
  ∀ tracker ∈ trackers, ∀ limit, standing.limits tracker = some limit →
    standing.consumption tracker + bytes ≤ limit

/-- A buffer is held that is no smaller than a size. -/
def Owned (held : Option Nat) (size : Nat) : Prop :=
  ∃ old, held = some old ∧ size ≤ old

/--
A size is tried with success: the limits admit the growth, or need not, and the
size is met below.
-/
def Standing.Takes
    (standing : Standing)
    (lineage : Lineage)
    (enforcing : Bool)
    (base : Nat)
    (below : Nat → Nat → Prop)
    (target : Nat) : Prop :=
  (enforcing = true → target ≤ base ∨
    standing.Admits lineage.members (Amount.ofSize (target - base))) ∧
  below target target

/--
What a layer has to say to a request, if `below` is what is met below it.  Of a
buffer that is held, growth alone is charged.
-/
def Layer.Passes
    (layer : Layer)
    (standing : Standing)
    (base : Nat)
    (below : Nat → Nat → Prop)
    (requested minimal : Nat) : Prop :=
  match layer with
  | .mediated mediator | .bypass mediator _ =>
      ∃ granted, (standing.mediators mediator).passes (requested - base)
          (minimal - base) = some granted ∧ below (base + granted) minimal
  | .guaranteed mediator amount =>
      requested - base ≤ (standing.mediators mediator).rest amount ∧
        ∃ granted, (standing.mediators mediator).passes (requested - base)
            (requested - base) = some granted ∧ below (base + granted) requested
  | .tracked lineage enforcing =>
      ∃ target ∈ Tracked.targets requested minimal,
        standing.Takes lineage enforcing base below target
  | .clearing | .tallied _ | .locked _ | .relay => below requested minimal
  | .probe _ _ => False

/-- A stack over a heap meets a request at a standing. -/
def Standing.Meets (standing : Standing) (heap : Heap) (held : Option Nat) :
    List Layer → Nat → Nat → Prop
  | [], requested, _ => Owned held requested ∨ heap.serves requested = true
  | layer :: below, requested, minimal =>
      Owned held requested ∨
        layer.Passes standing (held.getD 0)
          (standing.Meets heap held below) requested minimal

/-- A heap serves every size below one that it serves. -/
def Heap.Downward (heap : Heap) : Prop :=
  ∀ size fewer, fewer ≤ size → heap.serves size = true →
    heap.serves fewer = true

/-- What is met for a request is met for less. -/
def Lowers (verdict : Nat → Nat → Prop) : Prop :=
  ∀ requested minimal fewer less, fewer ≤ requested →
    less ≤ minimal → less ≤ fewer →
    verdict requested minimal → verdict fewer less

theorem Amount.ofSize_mono {fewer size : Nat} (smaller : fewer ≤ size) :
    ofSize fewer ≤ ofSize size := by
  unfold ofSize
  omega

theorem Owned.mono
    {held : Option Nat}
    {fewer size : Nat}
    (owned : Owned held size)
    (smaller : fewer ≤ size) :
    Owned held fewer := by
  obtain ⟨old, isHeld, within⟩ := owned
  exact ⟨old, isHeld, Nat.le_trans smaller within⟩

theorem Standing.Admits.mono
    {standing : Standing}
    {trackers : List Nat}
    {bytes less : Int}
    (admits : standing.Admits trackers bytes)
    (smaller : less ≤ bytes) :
    standing.Admits trackers less := by
  intro tracker member limit limited
  have within := admits tracker member limit limited
  omega

theorem Tracked.mem_targets {requested minimal target : Nat} :
    target ∈ targets requested minimal ↔ target = requested ∨
      target = minimal := by
  rw [targets]
  split
  · rename_i same
    rw [List.mem_singleton, same, or_self]
  · rw [List.mem_cons, List.mem_singleton]

/-- A layer asks for less below where it is asked for less. -/
theorem Layer.Passes.lowers
    {layer : Layer}
    {standing : Standing}
    {base : Nat}
    {below : Nat → Nat → Prop}
    (lowers : Lowers below) :
    Lowers (layer.Passes standing base below) := by
  intro requested minimal fewer less smaller lower accepted passes
  have mediated : ∀ mediator, (∃ granted, (standing.mediators mediator).passes
        (requested - base) (minimal - base) = some granted ∧
      below (base + granted) minimal) →
      ∃ granted,
        (standing.mediators mediator).passes (fewer - base) (less - base) =
          some granted ∧ below (base + granted) less := by
    rintro mediator ⟨granted, given, met⟩
    obtain ⟨smallerGrant, givenToo, noMore, enough⟩ :=
      MediatorStanding.passes_mono given (Nat.sub_le_sub_right smaller base)
        (Nat.sub_le_sub_right lower base) (Nat.sub_le_sub_right accepted base)
    exact ⟨smallerGrant, givenToo,
      lowers _ _ _ _ (Nat.add_le_add_left noMore base) lower (by omega) met⟩
  cases layer with
  | mediated mediator => exact mediated mediator passes
  | bypass mediator amount => exact mediated mediator passes
  | guaranteed mediator amount =>
      obtain ⟨left, granted, given, met⟩ := passes
      obtain ⟨smallerGrant, givenToo, noMore, enough⟩ :=
        MediatorStanding.passes_mono given (Nat.sub_le_sub_right smaller base)
          (Nat.sub_le_sub_right smaller base) (Nat.le_refl _)
      exact ⟨Nat.le_trans (Nat.sub_le_sub_right smaller base) left,
        smallerGrant, givenToo,
        lowers _ _ _ _ (Nat.add_le_add_left noMore base) smaller (by omega) met⟩
  | tracked lineage enforcing =>
      obtain ⟨target, tried, admits, met⟩ := passes
      -- the smaller of the two sizes that are tried in the place of the target
      have ⟨other, triedToo, smallerTarget⟩ :
          ∃ other ∈ Tracked.targets fewer less, other ≤ target := by
        rcases Tracked.mem_targets.mp tried with rfl | rfl
        · exact ⟨fewer, Tracked.mem_targets.mpr (.inl rfl), smaller⟩
        · exact ⟨less, Tracked.mem_targets.mpr (.inr rfl), lower⟩
      refine ⟨other, triedToo, fun enforces => ?_,
        lowers _ _ _ _ smallerTarget smallerTarget (Nat.le_refl other) met⟩
      rcases admits enforces with within | admitted
      · exact .inl (Nat.le_trans smallerTarget within)
      · exact .inr (admitted.mono
          (Amount.ofSize_mono (Nat.sub_le_sub_right smallerTarget base)))
  | clearing => exact lowers _ _ _ _ smaller lower accepted passes
  | tallied tally => exact lowers _ _ _ _ smaller lower accepted passes
  | locked lock => exact lowers _ _ _ _ smaller lower accepted passes
  | relay => exact lowers _ _ _ _ smaller lower accepted passes
  | probe number screen => exact passes

/-- Asking for less, or accepting less, never turns a verdict around. -/
theorem Standing.meets_lowers
    (standing : Standing)
    {heap : Heap}
    (downward : heap.Downward)
    (held : Option Nat)
    (layers : List Layer) :
    Lowers (standing.Meets heap held layers) := by
  induction layers with
  | nil =>
      rintro requested minimal fewer less smaller - - (owned | serves)
      · exact .inl (owned.mono smaller)
      · exact .inr (downward requested fewer smaller serves)
  | cons layer below ih =>
      rintro requested minimal fewer less smaller lower accepted
        (owned | passes)
      · exact .inl (owned.mono smaller)
      · exact .inr (Layer.Passes.lowers ih requested minimal fewer less smaller
          lower accepted passes)

/-- Two standings agree on the accounts that some layers charge. -/
structure Standing.AgreesOn (layers : List Layer) (left right : Standing) :
    Prop where
  mediators : ∀ layer ∈ layers, ∀ key, layer.charges key = true →
    left.mediators key = right.mediators key
  limits : ∀ layer ∈ layers, ∀ key, layer.chargesTracker key = true →
    left.limits key = right.limits key
  consumption : ∀ layer ∈ layers, ∀ key, layer.chargesTracker key = true →
    left.consumption key = right.consumption key

namespace Standing

variable {left right standing : Standing} {layer : Layer} {layers : List Layer}

theorem admits_congr
    {lineage : Lineage}
    {enforcing : Bool}
    (agrees : AgreesOn [.tracked lineage enforcing] left right)
    (bytes : Int) :
    left.Admits lineage.members bytes = right.Admits lineage.members bytes := by
  have charged : ∀ tracker ∈ lineage.members,
      (Layer.tracked lineage enforcing).chargesTracker tracker = true :=
    fun tracker member => List.contains_iff_mem.mpr member
  refine propext (forall_congr' fun tracker => forall_congr' fun member => ?_)
  rw [agrees.limits _ List.mem_cons_self tracker (charged tracker member),
    agrees.consumption _ List.mem_cons_self tracker (charged tracker member)]

theorem passes_congr
    (agrees : AgreesOn [layer] left right)
    (base : Nat)
    (below : Nat → Nat → Prop) :
    layer.Passes left base below = layer.Passes right base below := by
  funext requested minimal
  cases layer with
  | mediated mediator =>
      rw [Layer.Passes, Layer.Passes,
        agrees.mediators _ List.mem_cons_self mediator (decide_eq_true rfl)]
  | bypass mediator amount =>
      rw [Layer.Passes, Layer.Passes,
        agrees.mediators _ List.mem_cons_self mediator (decide_eq_true rfl)]
  | guaranteed mediator amount =>
      rw [Layer.Passes, Layer.Passes,
        agrees.mediators _ List.mem_cons_self mediator (decide_eq_true rfl)]
  | tracked lineage enforcing =>
      simp only [Layer.Passes, Takes, admits_congr agrees]
  | _ => rfl

/-- A verdict depends on no accounts but those that the layers charge. -/
theorem meets_congr
    (agrees : AgreesOn layers left right)
    (heap : Heap)
    (held : Option Nat) :
    left.Meets heap held layers = right.Meets heap held layers := by
  induction layers with
  | nil => rfl
  | cons layer below ih =>
      have own : AgreesOn [layer] left right := by
        constructor <;> intro other member <;> rw [List.mem_singleton.mp member]
        · exact agrees.mediators layer List.mem_cons_self
        · exact agrees.limits layer List.mem_cons_self
        · exact agrees.consumption layer List.mem_cons_self
      have others : AgreesOn below left right := by
        constructor <;> intro other member
        · exact agrees.mediators other (List.mem_cons_of_mem layer member)
        · exact agrees.limits other (List.mem_cons_of_mem layer member)
        · exact agrees.consumption other (List.mem_cons_of_mem layer member)
      funext requested minimal
      rw [Meets, Meets, ih others, passes_congr own]

end Standing

/-- No account is charged by two layers. -/
structure Layer.Apart (upper lower : Layer) : Prop where
  mediators : ∀ key, upper.charges key = true → lower.charges key = false
  trackers : ∀ key, upper.chargesTracker key = true →
    lower.chargesTracker key = false

namespace Standing

variable {layers : List Layer}

/--
What is lent makes no difference to layers that do not charge the mediator.
-/
theorem agreesOn_lend
    {mediator : Nat}
    (apart : ∀ layer ∈ layers, layer.charges mediator = false)
    (standing : Standing)
    (amount : Nat) :
    AgreesOn layers (standing.lend mediator amount) standing where
  mediators := by
    intro layer member key charges
    have other : key ≠ mediator := by
      rintro rfl
      exact Bool.false_ne_true ((apart layer member).symm.trans charges)
    exact Function.update_of_ne other _ _
  limits := fun _ _ _ _ => rfl
  consumption := fun _ _ _ _ => rfl

/--
What is charged makes no difference to layers that do not charge the trackers.
-/
theorem agreesOn_charge
    {trackers : List Nat}
    (apart : ∀ layer ∈ layers, ∀ tracker ∈ trackers,
      layer.chargesTracker tracker = false)
    (standing : Standing)
    (bytes : Int) :
    AgreesOn layers (standing.charge bytes trackers) standing where
  mediators := fun _ _ _ _ => rfl
  limits := fun _ _ _ _ => rfl
  consumption := by
    intro layer member key charges
    have other : key ∉ trackers := fun tracker =>
      Bool.false_ne_true ((apart layer member key tracker).symm.trans charges)
    show standing.consumption key + bytes * trackers.count key =
      standing.consumption key
    rw [List.count_eq_zero_of_not_mem other, Int.natCast_zero,
      Int.mul_zero, Int.add_zero]

end Standing

end BufferBudget
