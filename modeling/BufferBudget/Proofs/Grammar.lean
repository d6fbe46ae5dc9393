import BufferBudget.Json.Token

/-!
# The grammar of JSON tokens

Most tokens are written in one way only.  A number is written with an optional
sign, a whole part without needless zeros, and an optional fraction and
exponent. A string is a row of glyphs between quotes: characters that stand for
themselves, short escapes, and units of four hexadecimal digits.
`Glyph.Written` and `Token.Written` are that grammar.

What a token is read from does not depend on what follows, with one exception: a
number goes on as long as it can, so that something has to end it.  `Spells`
says of some characters that they are read as a token wherever the token ends,
and whatever the grammar derives is read in this way.
-/

namespace BufferBudget

namespace Numeral

/-- A number is written with a zero in front only if it is zero. -/
theorem head?_write_ne_zero {number : Nat} (positive : 0 < number) :
    (write number).head? ≠ some '0' := by
  induction number using Nat.strongRecOn with
  | ind number ih =>
      rw [write, Nat.toDigits_eq_if (by decide)]
      by_cases small : number < 10
      · have first : ∀ digit < 10, 0 < digit →
            Nat.digitChar digit ≠ '0' := by decide
        rw [if_pos small]
        exact fun same => first number small positive (Option.some.inj same)
      · have earlier := ih (number / 10) (Nat.div_lt_self positive (by decide))
          (Nat.div_pos (Nat.le_of_not_lt small) (by decide))
        obtain ⟨c, rest, written⟩ :=
          List.exists_cons_of_ne_nil (write_ne_nil (number / 10))
        rw [written] at earlier
        rw [if_neg small, show Nat.toDigits 10 (number / 10) =
          c :: rest from written]
        exact earlier

end Numeral

namespace Token

/-- A character that stands for itself in a string. -/
def IsPlain (c : Char) : Prop :=
  c ≠ '\x22' ∧ c ≠ '\x5c' ∧ 32 ≤ c.toNat

instance (c : Char) : Decidable (IsPlain c) :=
  inferInstanceAs (Decidable (_ ∧ _ ∧ _))

theorem isPlain_of_all
    {chars : List Char}
    (all : chars.all (decide <| IsPlain ·) = true) :
    ∀ c ∈ chars, IsPlain c :=
  fun c member => of_decide_eq_true (List.all_eq_true.mp all c member)

end Token

namespace Glyph

/-- What is written for a row of glyphs. -/
inductive Written : List Char → List Glyph → Prop where
  | nil : Written [] []
  | plain
      {c : Char}
      {chars : List Char}
      {glyphs : List Glyph}
      (plain : Token.IsPlain c)
      (rest : Written chars glyphs) :
      Written (c :: chars) (.plain c :: glyphs)
  | short
      {mark c : Char}
      {chars : List Char}
      {glyphs : List Glyph}
      (stands : escaped? mark = some c)
      (rest : Written chars glyphs) :
      Written ('\x5c' :: mark :: chars) (.plain c :: glyphs)
  | unit
      {first second third fourth : Char}
      {value : Nat}
      {chars : List Char}
      {glyphs : List Glyph}
      (stands : unit? first second third fourth = some value)
      (rest : Written chars glyphs) :
      Written ('\x5c' :: 'u' :: first :: second :: third :: fourth :: chars)
        (.unit value :: glyphs)

theorem written_plain
    {chars : List Char}
    (plain : ∀ c ∈ chars, Token.IsPlain c) :
    Written chars (chars.map .plain) := by
  induction chars with
  | nil => exact .nil
  | cons c chars ih =>
      exact .plain (plain c List.mem_cons_self)
        (ih fun other member => plain other (List.mem_cons_of_mem c member))

theorem scan_cons_of_isPlain
    {c : Char}
    (plain : Token.IsPlain c)
    (done : List Glyph)
    (chars : List Char) :
    scan done (c :: chars) = scan (.plain c :: done) chars := by
  obtain ⟨quote, escape, shown⟩ := plain
  rw [scan.eq_def]
  split
  case h_1 same => exact nomatch same
  case h_2 same => exact absurd (List.cons.inj same).1 quote
  case h_3 same => exact absurd (List.cons.inj same).1 escape
  case h_4 same => exact absurd (List.cons.inj same).1 escape
  case h_5 same =>
    obtain ⟨rfl, rfl⟩ := List.cons.inj same
    exact if_neg (Nat.not_lt.mpr shown)

/-- No short escape is the mark of a unit. -/
theorem scan_short
    {mark c : Char}
    (stands : escaped? mark = some c)
    (done : List Glyph)
    (chars : List Char) :
    scan done ('\x5c' :: mark :: chars) = scan (.plain c :: done) chars := by
  have short : mark ≠ 'u' := by
    rintro rfl
    exact nomatch stands
  rw [scan]
  · rw [stands]
  · rintro first second third fourth rest rfl
    exact absurd rfl short

/--
Glyphs are read from what is written for them, up to the quote that ends them.
-/
theorem Written.scan
    {chars : List Char}
    {glyphs : List Glyph}
    (written : Written chars glyphs)
    (done : List Glyph)
    (rest : List Char) :
    Glyph.scan done (chars ++ '\x22' :: rest) =
      some (done.reverse ++ glyphs, rest) := by
  induction written generalizing done with
  | nil => rw [List.nil_append, Glyph.scan, List.append_nil]
  | plain plain _ ih =>
      rw [List.cons_append, scan_cons_of_isPlain plain, ih, List.reverse_cons,
        List.append_assoc, List.singleton_append]
  | short stands _ ih =>
      rw [List.cons_append, List.cons_append, scan_short stands, ih,
        List.reverse_cons, List.append_assoc, List.singleton_append]
  | unit stands _ ih =>
      simp only [List.cons_append]
      rw [Glyph.scan, stands]
      dsimp only
      rw [ih, List.reverse_cons, List.append_assoc, List.singleton_append]

theorem charsFrom_plain (done chars : List Char) :
    charsFrom done (chars.map .plain) = some (done.reverse ++ chars) := by
  induction chars generalizing done with
  | nil => rw [List.map_nil, charsFrom, List.append_nil]
  | cons c chars ih =>
      rw [List.map_cons, charsFrom, ih, List.reverse_cons, List.append_assoc,
        List.singleton_append]

theorem text_plain (chars : List Char) :
    text? (chars.map .plain) = some (String.ofList chars) := by
  rw [text?, charsFrom_plain]
  rfl

end Glyph

namespace Token

/-- The whole part of a number. -/
inductive Whole : List Char → Prop where
  | zero : Whole ['0']
  | other
      {digits : List Char}
      (nonempty : digits ≠ [])
      (all : ∀ c ∈ digits, c.isDigit = true)
      (shortest : digits.head? ≠ some '0') :
      Whole digits

/-- A fraction, or nothing. -/
inductive Fraction : Bool → List Char → Prop where
  | none : Fraction false []
  | point
      {digits : List Char}
      (nonempty : digits ≠ [])
      (all : ∀ c ∈ digits, c.isDigit = true) :
      Fraction true ('.' :: digits)

/-- An exponent, or nothing. -/
inductive Exponent : Bool → List Char → Prop where
  | none : Exponent false []
  | power
      {mark : Char}
      {sign digits : List Char}
      (marks : mark = 'e' ∨ mark = 'E')
      (signs : sign = [] ∨ sign = ['+'] ∨ sign = ['-'])
      (nonempty : digits ≠ [])
      (all : ∀ c ∈ digits, c.isDigit = true) :
      Exponent true (mark :: (sign ++ digits))

/-- What is written for a token. -/
inductive Written : List Char → Token → Prop where
  | openList : Written ['['] .openList
  | closeList : Written [']'] .closeList
  | openObject : Written ['\x7b'] .openObject
  | closeObject : Written ['\x7d'] .closeObject
  | comma : Written [','] .comma
  | colon : Written [':'] .colon
  | null : Written ['n', 'u', 'l', 'l'] .null
  | yes : Written ['t', 'r', 'u', 'e'] (.boolean true)
  | no : Written ['f', 'a', 'l', 's', 'e'] (.boolean false)
  | positive
      {fraction exponent : Bool}
      {digits tenths power : List Char}
      (whole : Whole digits)
      (tenth : Fraction fraction tenths)
      (powers : Exponent exponent power) :
      Written (digits ++ (tenths ++ power)) (.number
        (if fraction || exponent then none else some (Numeral.value digits)))
  | negative
      {fraction exponent : Bool}
      {digits tenths power : List Char}
      (whole : Whole digits)
      (tenth : Fraction fraction tenths)
      (powers : Exponent exponent power) :
      Written ('-' :: (digits ++ (tenths ++ power))) (.number none)
  | text
      {chars : List Char}
      {glyphs : List Glyph}
      (row : Glyph.Written chars glyphs) :
      Written ('\x22' :: (chars ++ ['\x22'])) (.text (Glyph.text? glyphs))

/--
A number ends in front of a text: the text does not go on with a digit, a
fraction or an exponent.
-/
def Apart (chars : List Char) : Prop :=
  ∀ c ∈ chars.head?, c.isDigit = false ∧ c ≠ '.' ∧ c ≠ 'e' ∧ c ≠ 'E'

/--
A token ends in front of a text.  Only a number has to be ended by what follows.
-/
def EndsAt : Token → List Char → Prop
  | .number _, chars => Apart chars
  | _, _ => True

/--
Characters that are read as a token wherever the token ends, and that begin
with no blank.
-/
structure Spells (chars : List Char) (token : Token) : Prop where
  begins : ∀ c ∈ chars.head?, isBlank c = false
  reads : ∀ rest, token.EndsAt rest → next? (chars ++ rest) = some (token, rest)

section Reading

variable {rest : List Char}

theorem apart_nil : Apart [] := by
  intro c member
  cases member

theorem apart_cons
    {c : Char}
    (apart : c.isDigit = false ∧ c ≠ '.' ∧ c ≠ 'e' ∧ c ≠ 'E')
    (chars : List Char) :
    Apart (c :: chars) := by
  rintro other ⟨⟩
  exact apart

theorem apart_of_isBlank
    {c : Char}
    (blank : isBlank c = true)
    (chars : List Char) :
    Apart (c :: chars) := by
  refine apart_cons ?_ chars
  simp only [isBlank, Bool.or_eq_true, decide_eq_true_eq] at blank
  rcases blank with ((rfl | rfl) | rfl) | rfl <;> decide

theorem begins_cons {c : Char} (shown : isBlank c = false) (chars : List Char) :
    ∀ first ∈ (c :: chars).head?, isBlank first = false := by
  rintro first ⟨⟩
  exact shown

theorem not_isBlank_of_isDigit {c : Char} (digit : c.isDigit = true) :
    isBlank c = false := by
  rw [Bool.eq_false_iff]
  intro blank
  exact absurd digit (Bool.eq_false_iff.mp (apart_of_isBlank blank [] c rfl).1)

/-- Digits are cut off where they end. -/
theorem scanDigits_append
    {digits : List Char}
    (all : ∀ c ∈ digits, c.isDigit = true)
    (ends : ∀ c ∈ rest.head?, c.isDigit = false) :
    scanDigits (digits ++ rest) = (digits, rest) := by
  have none : rest.takeWhile Char.isDigit = [] ∧
      rest.dropWhile Char.isDigit = rest := by
    cases rest with
    | nil => exact ⟨rfl, rfl⟩
    | cons c chars =>
        have other := ends c rfl
        exact ⟨List.takeWhile_cons_of_neg (by simp [other]),
          List.dropWhile_cons_of_neg (by simp [other])⟩
  rw [scanDigits, List.takeWhile_append_of_pos all,
    List.dropWhile_append_of_pos all, none.1, none.2, List.append_nil]

section Numbers

variable {digits tenths power : List Char} {fraction exponent : Bool}

theorem Whole.isWhole (whole : Whole digits) : isWhole digits = true := by
  cases whole with
  | zero => rfl
  | other nonempty all shortest => simp [Token.isWhole, nonempty, shortest]

theorem isDigit_singleton {c : Char} (digit : c.isDigit = true) :
    ∀ other ∈ [c], other.isDigit = true :=
  fun _ member => List.mem_singleton.mp member ▸ digit

theorem Whole.isDigit (whole : Whole digits) :
    ∀ c ∈ digits, c.isDigit = true := by
  cases whole with
  | zero => exact isDigit_singleton rfl
  | other nonempty all shortest => exact all

theorem Whole.exists_cons (whole : Whole digits) :
    ∃ c others, digits = c :: others ∧ c.isDigit = true := by
  have nonempty : digits ≠ [] := by
    cases whole with
    | zero => exact List.cons_ne_nil _ _
    | other nonempty => exact nonempty
  obtain ⟨c, others, rfl⟩ := List.exists_cons_of_ne_nil nonempty
  exact ⟨c, others, rfl, whole.isDigit c List.mem_cons_self⟩

/-- An exponent does not go on with a digit or a fraction. -/
theorem Exponent.begins
    (powers : Exponent exponent power)
    (apart : Apart rest) :
    ∀ c ∈ (power ++ rest).head?, c.isDigit = false ∧ c ≠ '.' := by
  cases powers with
  | none => exact fun c member => ⟨(apart c member).1, (apart c member).2.1⟩
  | power marks =>
      rintro c ⟨⟩
      rcases marks with rfl | rfl <;> decide

theorem Fraction.begins
    (tenth : Fraction fraction tenths)
    {chars : List Char}
    (ends : ∀ c ∈ chars.head?, c.isDigit = false) :
    ∀ c ∈ (tenths ++ chars).head?, c.isDigit = false := by
  cases tenth with
  | none => exact ends
  | point =>
      rintro c ⟨⟩
      decide

theorem dropSign_append
    {sign : List Char}
    (signs : sign = [] ∨ sign = ['+'] ∨ sign = ['-'])
    (nonempty : digits ≠ [])
    (all : ∀ c ∈ digits, c.isDigit = true) :
    dropSign (sign ++ (digits ++ rest)) = digits ++ rest := by
  obtain ⟨c, others, rfl⟩ := List.exists_cons_of_ne_nil nonempty
  have digit : c.isDigit = true := all c List.mem_cons_self
  rcases signs with rfl | rfl | rfl
  · rw [List.nil_append, List.cons_append, dropSign]
    · rintro others same
      exact absurd digit ((List.cons.inj same).1 ▸ by decide)
    · rintro others same
      exact absurd digit ((List.cons.inj same).1 ▸ by decide)
  · rfl
  · rfl

theorem Exponent.scan (powers : Exponent exponent power) (apart : Apart rest) :
    scanExponent? (power ++ rest) = some (exponent, rest) := by
  cases powers with
  | none =>
      cases rest with
      | nil => rfl
      | cons c chars =>
          obtain ⟨-, -, lower, upper⟩ := apart c rfl
          exact if_neg (not_or.mpr ⟨lower, upper⟩)
  | power marks signs nonempty all =>
      have digits := scanDigits_append all fun c member => (apart c member).1
      rw [List.cons_append, List.append_assoc, scanExponent?, if_pos marks,
        dropSign_append signs nonempty all, digits]
      exact if_neg nonempty

theorem Fraction.scan
    (tenth : Fraction fraction tenths)
    {chars : List Char}
    (ends : ∀ c ∈ chars.head?, c.isDigit = false ∧ c ≠ '.') :
    scanFraction? (tenths ++ chars) = some (fraction, chars) := by
  cases tenth with
  | none =>
      rw [List.nil_append, scanFraction?.eq_def]
      split
      · exact absurd rfl (ends '.' rfl).2
      · rfl
  | point nonempty all =>
      have digits := scanDigits_append all fun c member => (ends c member).1
      rw [List.cons_append, scanFraction?, digits]
      exact if_neg nonempty

theorem scanMagnitude_written
    (whole : Whole digits)
    (tenth : Fraction fraction tenths)
    (powers : Exponent exponent power)
    (apart : Apart rest)
    (negative : Bool) :
    scanMagnitude? negative (digits ++ (tenths ++ (power ++ rest))) =
      some (.number
        (if !negative && !fraction && !exponent then
          some (Numeral.value digits)
        else none), rest) := by
  have begins := powers.begins apart
  have cut := scanDigits_append whole.isDigit
    (tenth.begins fun c member => (begins c member).1)
  simp [scanMagnitude?, cut, whole.isWhole, tenth.scan begins,
    powers.scan apart]

end Numbers

/-- A text that begins with a digit is read as a number. -/
theorem next_of_isDigit
    {c : Char}
    (digit : c.isDigit = true)
    (chars : List Char) :
    next? (c :: chars) = scanMagnitude? false (c :: chars) := by
  unfold next?
  split
  case h_12 => rfl
  all_goals
    rename_i same
    obtain ⟨rfl, -⟩ := List.cons.inj same
    exact absurd digit (by decide)

/-- What is written for a token is read as the token. -/
theorem Written.spells
    {chars : List Char}
    {token : Token}
    (written : Written chars token) :
    Spells chars token := by
  cases written with
  | @positive fraction exponent _ _ _ whole tenth powers =>
      obtain ⟨c, others, rfl, digit⟩ := whole.exists_cons
      refine ⟨begins_cons (not_isBlank_of_isDigit digit) _,
        fun rest apart => ?_⟩
      have scanned := scanMagnitude_written whole tenth powers apart false
      rw [List.append_assoc, List.append_assoc, List.cons_append,
        next_of_isDigit digit, ← List.cons_append, scanned]
      cases fraction <;> cases exponent <;> rfl
  | negative whole tenth powers =>
      refine ⟨begins_cons rfl _, fun rest apart => ?_⟩
      have scanned := scanMagnitude_written whole tenth powers apart true
      rw [List.cons_append, List.append_assoc,
        List.append_assoc, next?, scanned]
      rfl
  | text row =>
      refine ⟨begins_cons rfl _, fun rest _ => ?_⟩
      rw [List.cons_append, List.append_assoc, List.singleton_append,
        next?, row.scan]
      rfl
  | _ => exact ⟨begins_cons rfl _, fun _ _ => rfl⟩

theorem written_number (number : Nat) :
    Written (Numeral.write number) (.number (some number)) := by
  have whole : Whole (Numeral.write number) := by
    cases number with
    | zero => exact .zero
    | succ lower =>
        exact .other (Numeral.write_ne_nil _)
          (fun _ => Numeral.isDigit_of_mem_write)
          (Numeral.head?_write_ne_zero (Nat.succ_pos lower))
  have written := Written.positive whole .none .none
  simpa using written

/-- A text of plain characters is written between quotes. -/
theorem written_text {text : String} (plain : ∀ c ∈ text.toList, IsPlain c) :
    Written ('\x22' :: (text.toList ++ ['\x22'])) (.text (some text)) := by
  have written := Written.text (Glyph.written_plain plain)
  rwa [Glyph.text_plain, String.ofList_toList] at written

end Reading

end Token

end BufferBudget
