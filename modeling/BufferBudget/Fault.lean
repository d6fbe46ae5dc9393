/-!
# Faults and refusals

Two ways for a request to end without its result.  A *fault* is a broken
precondition or an arithmetic overflow: it stops the call where it stands, and
whatever was written before it stays written.  A *refusal* is an ordinary
answer: memory was asked for and not granted.

Each is a list of causes; the wording of a cause is one function, `message`.
-/

namespace BufferBudget

/-- Why a call stopped before it had an answer. -/
inductive Fault where
  /--
  A request accepts no less than `minimal`, which is above what it asks for.
  -/
  | minimalAboveRequested (minimal requested : Nat)
  /-- A quota was asked to grant at least more than it was asked for. -/
  | grantAboveRequested
  /-- A sum of sizes is above the largest size. -/
  | additionOverflow
  /-- A difference of sizes would be below zero. -/
  | subtractionOverflow
  /-- A sum of signed amounts left their range. -/
  | amountAdditionOverflow
  /-- A difference of signed amounts left their range. -/
  | amountSubtractionOverflow
  /-- A buffer came back larger than what was granted for it. -/
  | growthAboveGrant
deriving DecidableEq, Repr

namespace Fault

/-- Whether a fault arose in the signed arithmetic of trackers. -/
def OfAmount (fault : Fault) : Prop :=
  fault = .amountAdditionOverflow ∨ fault = .amountSubtractionOverflow

instance (fault : Fault) : Decidable fault.OfAmount :=
  inferInstanceAs (Decidable (_ ∨ _))

/-- The text that a fault is reported with. -/
def message : Fault → String
  | .minimalAboveRequested minimal requested =>
      "minimal (" ++ toString minimal ++
        ") shouldn't be bigger than requested (" ++ toString requested ++ ")"
  | .grantAboveRequested => "\"minimal\" shouldn't be bigger than \"requested\""
  | .additionOverflow | .amountAdditionOverflow =>
      "attempt to add with overflow"
  | .subtractionOverflow | .amountSubtractionOverflow =>
      "attempt to subtract with overflow"
  | .growthAboveGrant => "assertion failed: new_size <= old_size + granted"

end Fault

/-- An answer that denies memory, with the figures that the caller is told. -/
inductive Refusal where
  /--
  No buffer was made; `available` is what the allocator reports afterwards.
  -/
  | allocation (requested minimal available : Nat)
  /-- A buffer of size `current` kept its size. -/
  | reallocation (current requested minimal : Nat)
deriving DecidableEq, Repr

/-- The text that a refusal is reported with. -/
def Refusal.message : Refusal → String
  | .allocation requested minimal available =>
      "allocation refused: requested " ++ toString requested ++
        " bytes (minimal " ++
        toString minimal ++ "), available " ++ toString available
  | .reallocation current requested minimal =>
      "reallocation refused: buffer of " ++ toString current ++
        " bytes, requested " ++
        toString requested ++ " (minimal " ++ toString minimal ++ ")"

end BufferBudget
