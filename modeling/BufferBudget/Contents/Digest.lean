import BufferBudget.Contents

/-!
# Digests

A digest shows the contents of a buffer: all bytes of a small one, and the
two ends of a large one together with a checksum of the whole.
-/

namespace BufferBudget

/-- What is shown of the contents of a buffer. -/
inductive Digest where
  /-- Every byte. -/
  | whole (size : Nat) (hex : String)
  /-- The first bytes, the last bytes, and the checksum of all of them. -/
  | ends (size : Nat) (head tail : String) (checksum : Nat)
deriving DecidableEq, Repr

namespace Digest

/-- A digit of base sixteen, in lower case. -/
def hexDigit (value : Nat) : Char :=
  Char.ofNat (if value < 10 then 48 + value else 87 + value)

/-- Two digits a byte. -/
def hex (bytes : Array UInt8) : String :=
  String.ofList (bytes.toList.flatMap fun byte =>
    [hexDigit (byte.toNat / 16), hexDigit (byte.toNat % 16)])

/-- The polynomial in 31 with the bytes as coefficients, to 32 bits. -/
def checksum (bytes : Array UInt8) : Nat :=
  bytes.foldl (fun sum byte => (sum * 31 + byte.toNat) % 4294967296) 0

/-- Buffers up to this size are shown whole. -/
def wholeLimit : Nat := 48

/-- How many bytes are shown of either end of a larger buffer. -/
def endLength : Nat := 16

/-- What is shown of some contents. -/
def ofContents (contents : Contents) : Digest :=
  if contents.size ≤ wholeLimit then
    .whole contents.size (hex contents)
  else
    .ends contents.size (hex (contents.take endLength))
      (hex (contents.drop (contents.size - endLength))) (checksum contents)

end Digest

end BufferBudget
