import BufferBudget.Json.Glyph
import BufferBudget.Text.Numeral

/-!
# JSON tokens

A JSON text is a row of tokens with blanks between them.  Only four characters
are blanks here.  A number token keeps its value if it is written as a natural
number, and a string token keeps its text if it stands for one; that is all
that a reader of configurations asks of them.

`Token.ofChars?` reads the whole row.
-/

namespace BufferBudget

/-- One token of a JSON text. -/
inductive Token where
  | openList
  | closeList
  | openObject
  | closeObject
  | comma
  | colon
  | null
  | boolean (value : Bool)
  /-- A number; its value if it is written with digits alone. -/
  | number (natural : Option Nat)
  /-- A string; its text if it stands for one. -/
  | text (value : Option String)
deriving DecidableEq, Repr

namespace Token

/-- Whether a character may stand between tokens without being one. -/
def isBlank (c : Char) : Bool :=
  c = ' ' || c = '\x09' || c = '\x0a' || c = '\x0d'

/-- Reads as many digits as there are. -/
def scanDigits (chars : List Char) : List Char × List Char :=
  (chars.takeWhile Char.isDigit, chars.dropWhile Char.isDigit)

theorem length_scanDigits (chars : List Char) :
    (scanDigits chars).1.length + (scanDigits chars).2.length =
      chars.length := by
  rw [← List.length_append]
  simp [scanDigits]

/--
Whether digits are the whole part of a number: one zero, or no zero in front.
-/
def isWhole (digits : List Char) : Bool :=
  digits = ['0'] || (digits ≠ [] && digits.head? ≠ some '0')

/-- Reads a fraction, if there is one, and says whether there was. -/
def scanFraction? : List Char → Option (Bool × List Char)
  | '.' :: rest =>
      let (digits, later) := scanDigits rest
      if digits = [] then none else some (true, later)
  | chars => some (false, chars)

/-- The rest after the sign of an exponent. -/
def dropSign : List Char → List Char
  | '+' :: rest => rest
  | '-' :: rest => rest
  | chars => chars

/-- Reads an exponent, if there is one, and says whether there was. -/
def scanExponent? : List Char → Option (Bool × List Char)
  | c :: rest =>
      if c = 'e' ∨ c = 'E' then
        let (digits, later) := scanDigits (dropSign rest)
        if digits = [] then none else some (true, later)
      else
        some (false, c :: rest)
  | [] => some (false, [])

/-- Reads a number without its sign. -/
def scanMagnitude? (negative : Bool) (chars : List Char) :
    Option (Token × List Char) := do
  let (digits, rest) := scanDigits chars
  if !isWhole digits then
    none
  let (fraction, rest) ← scanFraction? rest
  let (exponent, rest) ← scanExponent? rest
  let plain := !negative && !fraction && !exponent
  return (.number (if plain then some (Numeral.value digits) else none), rest)

/-- Reads one token at the start of a text. -/
def next? : List Char → Option (Token × List Char)
  | '[' :: rest => some (.openList, rest)
  | ']' :: rest => some (.closeList, rest)
  | '\x7b' :: rest => some (.openObject, rest)
  | '\x7d' :: rest => some (.closeObject, rest)
  | ',' :: rest => some (.comma, rest)
  | ':' :: rest => some (.colon, rest)
  | '\x22' :: rest =>
      (Glyph.scan [] rest).map fun (glyphs, later) =>
        (.text (Glyph.text? glyphs), later)
  | 'n' :: 'u' :: 'l' :: 'l' :: rest => some (.null, rest)
  | 't' :: 'r' :: 'u' :: 'e' :: rest => some (.boolean true, rest)
  | 'f' :: 'a' :: 'l' :: 's' :: 'e' :: rest => some (.boolean false, rest)
  | '-' :: rest => scanMagnitude? true rest
  | chars => scanMagnitude? false chars

theorem length_scanFraction
    {chars rest : List Char}
    {found : Bool}
    (scanned : scanFraction? chars = some (found, rest)) :
    rest.length ≤ chars.length := by
  unfold scanFraction? at scanned
  split at scanned
  · rename_i later
    have lengths := length_scanDigits later
    simp only at scanned
    split at scanned
    · simp at scanned
    · simp only [Option.some.injEq, Prod.mk.injEq] at scanned
      obtain ⟨_, rfl⟩ := scanned
      simp only [List.length_cons]
      omega
  · simp_all

theorem length_dropSign (chars : List Char) :
    (dropSign chars).length ≤ chars.length := by
  unfold dropSign
  split <;> simp

theorem length_scanExponent
    {chars rest : List Char}
    {found : Bool}
    (scanned : scanExponent? chars = some (found, rest)) :
    rest.length ≤ chars.length := by
  unfold scanExponent? at scanned
  split at scanned
  · rename_i c later
    split at scanned
    · have lengths := length_scanDigits (dropSign later)
      have dropped := length_dropSign later
      simp only at scanned
      split at scanned
      · simp at scanned
      · simp only [Option.some.injEq, Prod.mk.injEq] at scanned
        obtain ⟨_, rfl⟩ := scanned
        simp only [List.length_cons]
        omega
    · simp_all
  · simp_all

theorem length_scanMagnitude
    {negative : Bool}
    {chars rest : List Char}
    {token : Token}
    (scanned : scanMagnitude? negative chars = some (token, rest)) :
    rest.length < chars.length := by
  unfold scanMagnitude? at scanned
  have lengths := length_scanDigits chars
  cases whole : isWhole (scanDigits chars).1 with
  | false => simp [whole] at scanned
  | true =>
      have digits : (scanDigits chars).1 ≠ [] := by
        intro empty
        simp [isWhole, empty] at whole
      have positive := List.length_pos_iff.mpr digits
      simp only [whole, Bool.not_true, Bool.false_eq_true, if_false,
        Option.bind_eq_bind, Option.pure_def, Option.bind_eq_some_iff,
        Prod.exists, Option.some.injEq, Prod.mk.injEq] at scanned
      obtain ⟨_, afterFraction, fraction, _, afterExponent, exponent, _, rfl⟩ :=
        scanned
      have first := length_scanFraction fraction
      have second := length_scanExponent exponent
      omega

/-- What is left after a token is shorter. -/
theorem length_next
    {chars rest : List Char}
    {token : Token}
    (scanned : next? chars = some (token, rest)) :
    rest.length < chars.length := by
  unfold next? at scanned
  split at scanned
  case h_7 later =>
      simp only [Option.map_eq_some_iff, Prod.exists, Prod.mk.injEq] at scanned
      obtain ⟨_, _, glyphs, _, rfl⟩ := scanned
      have shorter := Glyph.length_scan glyphs
      simp only [List.length_cons]
      omega
  case h_11 later =>
      have shorter := length_scanMagnitude scanned
      simp only [List.length_cons]
      omega
  case h_12 => exact length_scanMagnitude scanned
  all_goals
    simp only [Option.some.injEq, Prod.mk.injEq] at scanned
    obtain ⟨_, rfl⟩ := scanned
    simp only [List.length_cons]
    omega

/--
Reads the tokens of a text after those already read, which are
given latest first.
-/
def ofCharsFrom (done : List Token) (chars : List Char) : Option (List Token) :=
  match chars with
  | [] => some done.reverse
  | c :: rest =>
      if isBlank c then
        ofCharsFrom done rest
      else
        match _scanned : next? (c :: rest) with
        | none => none
        | some (token, later) => ofCharsFrom (token :: done) later
termination_by chars.length
decreasing_by
  · simp
  · exact length_next _scanned

/-- The tokens of a text, if it is a row of tokens. -/
def ofChars? (chars : List Char) : Option (List Token) :=
  ofCharsFrom [] chars

end Token

end BufferBudget
