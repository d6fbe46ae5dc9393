/-!
# JSON strings

A JSON string is written as a row of glyphs between quotes: characters that
stand for themselves, and escapes.  An escape with four hexadecimal digits is a
unit of sixteen bits; two of them in a row may stand for one character, and a
half of such a pair on its own stands for none.

`scan` reads the glyphs, `chars?` gives the characters they stand for.
-/

namespace BufferBudget

/-- One written element of a JSON string. -/
inductive Glyph where
  /-- A character that is written as itself or as a short escape. -/
  | plain (c : Char)
  /-- A unit that is written with four hexadecimal digits. -/
  | unit (value : Nat)
deriving DecidableEq, Repr

namespace Glyph

/-- The value of a hexadecimal digit. -/
def hexValue? (c : Char) : Option Nat :=
  if '0' ≤ c ∧ c ≤ '9' then some (c.toNat - 48)
  else if 'a' ≤ c ∧ c ≤ 'f' then some (c.toNat - 87)
  else if 'A' ≤ c ∧ c ≤ 'F' then some (c.toNat - 55)
  else none

/-- The unit that four hexadecimal digits stand for. -/
def unit? (first second third fourth : Char) : Option Nat := do
  let first ← hexValue? first
  let second ← hexValue? second
  let third ← hexValue? third
  let fourth ← hexValue? fourth
  return ((first * 16 + second) * 16 + third) * 16 + fourth

/-- The character that a short escape stands for. -/
def escaped? (mark : Char) : Option Char :=
  match mark with
  | '\x22' => some '\x22'
  | '\x5c' => some '\x5c'
  | '/' => some '/'
  | 'b' => some '\x08'
  | 'f' => some '\x0c'
  | 'n' => some '\x0a'
  | 'r' => some '\x0d'
  | 't' => some '\x09'
  | _ => none

/--
Reads glyphs up to the closing quote, and gives what comes after it.  Control
characters must be escaped.
-/
def scan (done : List Glyph) : List Char → Option (List Glyph × List Char)
  | [] => none
  | '\x22' :: rest => some (done.reverse, rest)
  | '\x5c' :: 'u' :: first :: second :: third :: fourth :: rest =>
      match unit? first second third fourth with
      | some value => scan (.unit value :: done) rest
      | none => none
  | '\x5c' :: mark :: rest =>
      match escaped? mark with
      | some c => scan (.plain c :: done) rest
      | none => none
  | c :: rest => if c.toNat < 32 then none else scan (.plain c :: done) rest

/-- What is left after a string is shorter. -/
theorem length_scan
    {done glyphs : List Glyph}
    {chars rest : List Char}
    (scanned : scan done chars = some (glyphs, rest)) :
    rest.length < chars.length := by
  fun_induction scan done chars with
  | case1 => simp at scanned
  | case2 => simp_all
  | case3 _ _ _ _ _ _ _ _ ih =>
      have shorter := ih scanned
      simp only [List.length_cons]
      omega
  | case4 => simp at scanned
  | case5 _ _ _ _ _ _ ih =>
      have shorter := ih scanned
      simp only [List.length_cons]
      omega
  | case6 => simp at scanned
  | case7 => simp at scanned
  | case8 _ _ _ _ _ _ _ ih =>
      have shorter := ih scanned
      simp only [List.length_cons]
      omega

/-- Whether a unit is the first half of a pair. -/
def isHigh (value : Nat) : Bool :=
  0xd800 ≤ value && value < 0xdc00

/-- Whether a unit is the second half of a pair. -/
def isLow (value : Nat) : Bool :=
  0xdc00 ≤ value && value < 0xe000

/-- The character that a pair of units stands for. -/
def ofPair (high low : Nat) : Char :=
  Char.ofNat (0x10000 + (high - 0xd800) * 0x400 + (low - 0xdc00))

/--
The characters that a row of glyphs stands for, if no half of a pair is alone.
-/
def charsFrom (done : List Char) : List Glyph → Option (List Char)
  | [] => some done.reverse
  | .plain c :: rest => charsFrom (c :: done) rest
  | .unit high :: .unit low :: rest =>
      if isHigh high then
        if isLow low then charsFrom (ofPair high low :: done) rest else none
      else if isLow high then none
      else charsFrom (Char.ofNat high :: done) (.unit low :: rest)
  | .unit value :: rest =>
      if isHigh value || isLow value then none
      else charsFrom (Char.ofNat value :: done) rest

/-- The text that a row of glyphs stands for, if no half of a pair is alone. -/
def text? (glyphs : List Glyph) : Option String :=
  (charsFrom [] glyphs).map String.ofList

end Glyph

end BufferBudget
