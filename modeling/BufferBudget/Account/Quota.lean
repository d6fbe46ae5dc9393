import BufferBudget.Diagnostic
import BufferBudget.Size

/-!
# Quotas

A quota is a settable ceiling and the usage granted against it.  A request is
granted as much as the ceiling leaves room for, if that is at least what the
request accepts.  Past the ceiling an enforced quota grants nothing; one that
is not enforced still grants the least that the request accepts, as long as the
usage stays a size.

`grant` is the decision, `allocate` books it, `free` takes a booking back.
-/

namespace BufferBudget

/-- A ceiling and the usage granted against it. -/
structure Quota where
  /-- What has been granted and not given back. -/
  usage : Nat
  /-- What may be granted in all. -/
  ceiling : Nat
  /-- Whether the ceiling also binds requests that accept nothing less. -/
  enforced : Bool
  /-- Whether every access takes the lock of the quota. -/
  guarded : Bool
deriving DecidableEq, Repr

namespace Quota

/-- A quota nothing has been granted from. -/
def ofCeiling (ceiling : Nat) (enforced guarded : Bool) : Quota :=
  { usage := 0, ceiling, enforced, guarded }

/-- What the ceiling leaves: nothing once the usage has reached it. -/
def room (quota : Quota) : Nat :=
  quota.ceiling - quota.usage

/--
Whether the ceiling leaves room for `minimal`.  A usage above the ceiling leaves
room for no request, not even an empty one.
-/
def fits (quota : Quota) (minimal : Nat) : Bool :=
  quota.usage ≤ quota.ceiling && minimal ≤ quota.room

/-- What a request is granted. -/
def grant (quota : Quota) (requested minimal : Nat) : Nat :=
  if quota.fits minimal then min requested quota.room
  else if !quota.enforced && minimal ≤ Size.limit - quota.usage then minimal
  else 0

theorem grant_of_fits
    {quota : Quota}
    {minimal : Nat}
    (requested : Nat)
    (fits : quota.fits minimal = true) :
    quota.grant requested minimal = min requested quota.room := by
  simp [grant, fits]

theorem grant_of_not_fits
    {quota : Quota}
    {minimal : Nat}
    (requested : Nat)
    (full : quota.fits minimal = false) :
    quota.grant requested minimal =
      if !quota.enforced && minimal ≤ Size.limit - quota.usage then minimal
      else 0 := by
  simp [grant, full]

/-- No more is granted than is asked for. -/
theorem grant_le
    (quota : Quota)
    {requested minimal : Nat}
    (accepted : minimal ≤ requested) :
    quota.grant requested minimal ≤ requested := by
  unfold grant
  split
  · exact Nat.min_le_left _ _
  · split
    · exact accepted
    · exact Nat.zero_le _

/-- A grant leaves the usage a size. -/
theorem usage_add_grant_le
    (quota : Quota)
    (requested minimal : Nat)
    (usage_le : quota.usage ≤ Size.limit)
    (ceiling_le : quota.ceiling ≤ Size.limit) :
    quota.usage + quota.grant requested minimal ≤ Size.limit := by
  unfold grant
  split
  · rename_i fitting
    simp only [fits, room, Bool.and_eq_true, decide_eq_true_eq] at fitting
    have capped := Nat.min_le_right requested quota.room
    unfold room at capped ⊢
    omega
  · split
    · rename_i soft
      simp only [Bool.and_eq_true, decide_eq_true_eq] at soft
      omega
    · omega

/--
Books a grant.  The request must not accept more than it asks for, and the usage
must stay a size.
-/
def allocate (quota : Quota) (requested minimal : Nat) :
    Except Fault (Nat × Quota) :=
  if requested < minimal then
    .error .grantAboveRequested
  else do
    let granted := quota.grant requested minimal
    let usage ← Size.add quota.usage granted
    return (granted, { quota with usage })

/-- What booking a grant tells the operator. -/
def allocateDiagnostics (quota : Quota) (requested minimal : Nat) :
    List Diagnostic :=
  if quota.fits minimal then []
  else
    [.outOfQuota requested minimal quota.ceiling quota.usage quota.enforced
      (quota.grant requested minimal)]

/--
Takes a booking back; the usage stays at zero where more comes back
than was granted.
-/
def free (quota : Quota) (amount : Nat) : Quota :=
  { quota with usage := quota.usage - amount }

/--
Usages above this are reported: they are the remainder of a mistake in
the accounting.
-/
def suspiciousUsage : Nat :=
  Size.limit - 268435456

/-- What taking a booking back tells the operator. -/
def freeDiagnostics (quota : Quota) (amount : Nat) : List Diagnostic :=
  (if quota.usage < amount then [.overRelease quota.usage amount] else []) ++
    (if suspiciousUsage < (quota.free amount).usage then
      [.suspiciousUsage (quota.free amount).usage]
    else [])

/--
Moves the ceiling; the usage stays where it is, also when it is then above.
-/
def setCeiling (quota : Quota) (ceiling : Nat) : Quota :=
  { quota with ceiling }

@[simp]
theorem usage_free (quota : Quota) (amount : Nat) :
    (quota.free amount).usage = quota.usage - amount :=
  rfl

@[simp]
theorem usage_setCeiling (quota : Quota) (ceiling : Nat) :
    (quota.setCeiling ceiling).usage = quota.usage :=
  rfl

@[simp]
theorem ceiling_setCeiling (quota : Quota) (ceiling : Nat) :
    (quota.setCeiling ceiling).ceiling = ceiling :=
  rfl

end Quota

end BufferBudget
