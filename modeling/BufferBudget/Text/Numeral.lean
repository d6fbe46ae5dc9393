import BufferBudget.Size

/-!
# Numerals

Natural numbers in base ten.  A number is written without leading zeros; read
back, any string of digits has a value.  `size?` reads what stands for a size:
digits, after an optional plus sign, with a value up to the largest size.
-/

namespace BufferBudget

namespace Numeral

/-- A number in base ten. -/
def write (number : Nat) : List Char :=
  Nat.toDigits 10 number

/-- The number that a string of digits stands for. -/
def value (digits : List Char) : Nat :=
  Nat.ofDigitChars 10 digits 0

@[simp]
theorem value_write (number : Nat) : value (write number) = number :=
  Nat.ofDigitChars_toDigits (by decide) (by decide)

theorem isDigit_of_mem_write
    {number : Nat}
    {c : Char}
    (member : c ∈ write number) :
    c.isDigit = true :=
  Nat.isDigit_of_mem_toDigits (by decide) (by decide) member

theorem write_ne_nil (number : Nat) : write number ≠ [] :=
  Nat.toDigits_ne_nil

theorem ofList_write (number : Nat) :
    String.ofList (write number) = toString number :=
  rfl

/-- Reads a string of digits; there must be at least one. -/
def natural? (chars : List Char) : Option Nat :=
  if chars ≠ [] ∧ chars.all Char.isDigit = true then some (value chars)
  else none

/-- Reads a size: digits with an optional plus sign before them. -/
def size? (chars : List Char) : Option Nat :=
  let digits := match chars with
    | '+' :: rest => rest
    | _ => chars
  (natural? digits).filter (· ≤ Size.limit)

end Numeral

end BufferBudget
