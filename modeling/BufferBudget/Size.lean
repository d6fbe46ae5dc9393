import BufferBudget.Fault

/-!
# Sizes and signed amounts

Sizes are natural numbers up to `Size.limit`, the largest that 64 bits hold;
signed amounts are integers from `Amount.least` to `Amount.greatest`.  Values
are plain `Nat` and `Int`, and each way of treating a result outside the range
is a named operation: *checked* operations end in a fault, *wrapping* ones keep
the remainder, *saturating* ones stay at the end of the range.
-/

namespace BufferBudget

namespace Size

/-- The largest size. -/
def limit : Nat := 18446744073709551615

/-- The sum, or a fault where it is above the largest size. -/
def add (left right : Nat) : Except Fault Nat :=
  if left + right ≤ limit then .ok (left + right) else .error .additionOverflow

theorem add_of_le {left right : Nat} (fits : left + right ≤ limit) :
    add left right = .ok (left + right) := by
  simp [add, fits]

/-- The difference, or a fault where it would be below zero. -/
def sub (left right : Nat) : Except Fault Nat :=
  if right ≤ left then .ok (left - right) else .error .subtractionOverflow

theorem sub_of_le {left right : Nat} (below : right ≤ left) :
    sub left right = .ok (left - right) := by
  simp [sub, below]

/-- The remainder that a counter keeps when it runs past the largest size. -/
def wrap (value : Nat) : Nat :=
  value % (limit + 1)

theorem wrap_of_le {value : Nat} (fits : value ≤ limit) : wrap value = value :=
  Nat.mod_eq_of_lt (Nat.lt_succ_of_le fits)

theorem wrap_le (value : Nat) : wrap value ≤ limit :=
  Nat.le_of_lt_succ (Nat.mod_lt value (Nat.succ_pos limit))

end Size

namespace Amount

/-- The largest signed amount. -/
def greatest : Int := 9223372036854775807

/-- The smallest signed amount. -/
def least : Int := -9223372036854775808

/-- Whether a value is a signed amount. -/
def InRange (value : Int) : Prop :=
  least ≤ value ∧ value ≤ greatest

instance (value : Int) : Decidable (InRange value) :=
  inferInstanceAs (Decidable (_ ∧ _))

/-- The amount that a counter keeps when it runs past an end of the range. -/
def wrap (value : Int) : Int :=
  Int.bmod value 18446744073709551616

theorem wrap_of_inRange {value : Int} (inside : InRange value) :
    wrap value = value := by
  unfold InRange least greatest at inside
  unfold wrap
  rw [Int.bmod_def]
  omega

theorem inRange_wrap (value : Int) : InRange (wrap value) := by
  unfold InRange least greatest wrap
  rw [Int.bmod_def]
  omega

/-- The nearest amount of the range. -/
def saturate (value : Int) : Int :=
  max least (min greatest value)

theorem saturate_of_inRange {value : Int} (inside : InRange value) :
    saturate value = value := by
  unfold InRange at inside
  unfold saturate
  omega

theorem saturate_of_lt {value : Int} (beyond : greatest < value) :
    saturate value = greatest := by
  unfold saturate least greatest at *
  omega

/-- The largest signed amount that stands for a size. -/
def ofSize (size : Nat) : Int :=
  min greatest size

theorem ofSize_nonneg (size : Nat) : 0 ≤ ofSize size := by
  unfold ofSize greatest
  omega

/-- The difference, or a fault where it is no signed amount. -/
def sub (left right : Int) : Except Fault Int :=
  if InRange (left - right) then .ok (left - right)
    else .error .amountSubtractionOverflow

theorem sub_of_inRange {left right : Int} (inside : InRange (left - right)) :
    sub left right = .ok (left - right) := by
  simp [sub, inside]

end Amount

end BufferBudget
