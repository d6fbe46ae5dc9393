import BufferBudget.Account.Quota

/-!
# Mediators

A mediator is asked before memory is: it grants a part of a request, and is
given back what is not used or no longer held.  Quotas are mediators.  Any
other rule is an *arbiter*: a policy that decides from the calls it has seen.
-/

namespace BufferBudget

/-- A call to a mediator together with its answer. -/
inductive MediatorCall where
  | allocated (requested minimal granted : Nat)
  | freed (amount : Nat)
deriving DecidableEq, Repr

namespace MediatorCall

/-- Whether a call asked for a grant. -/
def isAllocation : MediatorCall → Bool
  | .allocated .. => true
  | .freed _ => false

/-- What a call adds to the balance of its mediator. -/
def balance : MediatorCall → Int
  | .allocated _ _ granted => granted
  | .freed amount => -amount

end MediatorCall

/-- A mediator that follows a rule of its own. -/
structure Arbiter where
  /--
  What is granted, from the calls so far (latest first), the request, and the
  least that is accepted.
  -/
  policy : List MediatorCall → Nat → Nat → Nat
  /-- The budget that is reported, from the calls so far. -/
  reserve : List MediatorCall → Nat
  /-- The calls so far, latest first. -/
  history : List MediatorCall

namespace Arbiter

/--
Grants the amounts of a list one after the other, whatever is asked, and follows
`after` once they have run out.  It reports no bound on its budget.
-/
def scripted (grants : List Nat) (after : Nat → Nat) : Arbiter where
  policy := fun history requested _ =>
    grants.getD (history.countP MediatorCall.isAllocation) (after requested)
  reserve := fun _ => Size.limit
  history := []

/-- What the next request is granted. -/
def grant (arbiter : Arbiter) (requested minimal : Nat) : Nat :=
  arbiter.policy arbiter.history requested minimal

/-- Notes a call. -/
def record (arbiter : Arbiter) (call : MediatorCall) : Arbiter :=
  { arbiter with history := call :: arbiter.history }

/-- All grants less all that was given back. -/
def balance (arbiter : Arbiter) : Int :=
  (arbiter.history.map MediatorCall.balance).foldr (· + ·) 0

@[simp]
theorem balance_record (arbiter : Arbiter) (call : MediatorCall) :
    (arbiter.record call).balance = call.balance + arbiter.balance := by
  simp [balance, record]

end Arbiter

/-- A budget that requests for memory are put to. -/
inductive Mediator where
  | ofQuota (quota : Quota)
  | ofArbiter (arbiter : Arbiter)

namespace Mediator

/-- A quota with no ceiling to speak of. -/
def unlimited : Mediator :=
  .ofQuota (.ofCeiling Size.limit true false)

/-- Decides on a request and books the grant. -/
def allocate (mediator : Mediator) (requested minimal : Nat) :
    Except Fault (Nat × Mediator) :=
  match mediator with
  | .ofQuota quota => do
      let (granted, next) ← quota.allocate requested minimal
      return (granted, .ofQuota next)
  | .ofArbiter arbiter =>
      let granted := arbiter.grant requested minimal
      .ok (granted,
        .ofArbiter (arbiter.record (.allocated requested minimal granted)))

/-- What deciding on a request tells the operator. -/
def allocateDiagnostics (mediator : Mediator) (requested minimal : Nat) :
    List Diagnostic :=
  match mediator with
  | .ofQuota quota => quota.allocateDiagnostics requested minimal
  | .ofArbiter _ => []

/-- Takes an amount back. -/
def free (mediator : Mediator) (amount : Nat) : Mediator :=
  match mediator with
  | .ofQuota quota => .ofQuota (quota.free amount)
  | .ofArbiter arbiter => .ofArbiter (arbiter.record (.freed amount))

/-- What taking an amount back tells the operator. -/
def freeDiagnostics (mediator : Mediator) (amount : Nat) : List Diagnostic :=
  match mediator with
  | .ofQuota quota => quota.freeDiagnostics amount
  | .ofArbiter _ => []

/-- The budget still to be had. -/
def available : Mediator → Nat
  | .ofQuota quota => quota.room
  | .ofArbiter arbiter => arbiter.reserve arbiter.history

/--
What has been granted and not given back.  The counter of an arbiter keeps the
remainder of its balance.
-/
def usage : Mediator → Nat
  | .ofQuota quota => quota.usage
  | .ofArbiter arbiter => (arbiter.balance % 18446744073709551616).toNat

/-- The ceiling of a quota; an arbiter has none. -/
def ceiling? : Mediator → Option Nat
  | .ofQuota quota => some quota.ceiling
  | .ofArbiter _ => none

/-- Whether requests past the ceiling are denied for good. -/
def enforced : Mediator → Bool
  | .ofQuota quota => quota.enforced
  | .ofArbiter _ => true

/-- Whether every access takes the lock of the mediator. -/
def guarded : Mediator → Bool
  | .ofQuota quota => quota.guarded
  | .ofArbiter _ => false

/-- Moves the ceiling of a quota; an arbiter has none to move. -/
def setCeiling (mediator : Mediator) (ceiling : Nat) : Mediator :=
  match mediator with
  | .ofQuota quota => .ofQuota (quota.setCeiling ceiling)
  | .ofArbiter arbiter => .ofArbiter arbiter

end Mediator

end BufferBudget
