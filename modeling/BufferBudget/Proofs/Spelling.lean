import BufferBudget.Json.Datum
import BufferBudget.Proofs.Grammar

/-!
# How JSON texts are read

A text is a row of tokens, with blanks anywhere between them, and it is read in
two passes.  The first cuts the text into tokens again.  It could not tell a
number from another one right behind it, but in the tokens of a value a number
is always followed by a comma, or by the end of a list, an object or the text.

The second pass makes a value of the tokens.  The tokens of a value are a
function of the value, and the reader inverts it, however deep the value is
nested: inside of an open list or object it reads the tokens of an item, and is
then where it would be after a single token.

`Token.Row` says what texts a value may be written as, and `ofText_of_row` that
it is read from each of them.  `Datum.Spells` is closed under the ways in which
values are built.
-/

namespace BufferBudget

namespace Token

/-- A text is a row of tokens, with blanks between them. -/
inductive Row : List Char → List Token → Prop where
  | nil : Row [] []
  | blank
      {c : Char}
      {chars : List Char}
      {tokens : List Token}
      (blank : isBlank c = true)
      (rest : Row chars tokens) :
      Row (c :: chars) tokens
  | token
      {word chars : List Char}
      {token : Token}
      {tokens : List Token}
      (written : Written word token)
      (rest : Row chars tokens) :
      Row (word ++ chars) (token :: tokens)

/--
No value follows: there are no tokens, or the first of them comes after a value.
-/
def Closes (tokens : List Token) : Prop :=
  ∀ token ∈ tokens.head?, token = .comma ∨ token = .closeList ∨
    token = .closeObject

/-- Nothing that a number could be continued with follows a number. -/
def Separated : List Token → Prop
  | [] => True
  | .number _ :: rest => Closes rest ∧ Separated rest
  | _ :: rest => Separated rest

/--
Whatever a row begins with that comes after a value, a number ends
in front of it.
-/
theorem Row.apart
    {chars : List Char}
    {tokens : List Token}
    (row : Row chars tokens)
    (closes : Closes tokens) :
    Apart chars := by
  cases row with
  | nil => exact apart_nil
  | blank blank rest => exact apart_of_isBlank blank _
  | token written rest =>
      rcases closes _ rfl with rfl | rfl | rfl
      all_goals
        cases written
        exact apart_cons (by decide) _

theorem Separated.tail
    {token : Token}
    {tokens : List Token}
    (separated : Separated (token :: tokens)) :
    Separated tokens := by
  cases token with
  | number natural => exact separated.2
  | _ => exact separated

theorem Row.endsAt
    {chars : List Char}
    {token : Token}
    {tokens : List Token}
    (row : Row chars tokens)
    (separated : Separated (token :: tokens)) :
    token.EndsAt chars := by
  cases token with
  | number natural => exact row.apart separated.1
  | _ => trivial

theorem ofCharsFrom_of_spells
    {word chars : List Char}
    {token : Token}
    (spells : Spells word token)
    (ends : token.EndsAt chars)
    (done : List Token) :
    ofCharsFrom done (word ++ chars) = ofCharsFrom (token :: done) chars := by
  have scanned := spells.reads chars ends
  cases word with
  | nil =>
      have shorter := length_next scanned
      exact absurd shorter (Nat.lt_irrefl _)
  | cons c others =>
      rw [List.cons_append] at scanned ⊢
      rw [ofCharsFrom, if_neg (Bool.eq_false_iff.mp (spells.begins c rfl))]
      split
      case h_1 failed =>
        rw [scanned] at failed
        cases failed
      case h_2 found =>
        obtain ⟨rfl, rfl⟩ :=
          Prod.mk.inj (Option.some.inj (scanned.symm.trans found))
        rfl

/-- A row of tokens is read as these tokens. -/
theorem Row.ofCharsFrom
    {chars : List Char}
    {tokens : List Token}
    (row : Row chars tokens)
    (separated : Separated tokens)
    (done : List Token) :
    Token.ofCharsFrom done chars = some (done.reverse ++ tokens) := by
  induction row generalizing done with
  | nil => rw [Token.ofCharsFrom, List.append_nil]
  | blank blank _ ih => rw [Token.ofCharsFrom, if_pos blank, ih separated]
  | token written rest ih =>
      rw [ofCharsFrom_of_spells written.spells (rest.endsAt separated),
        ih separated.tail,
        List.reverse_cons, List.append_assoc, List.singleton_append]

end Token

namespace Datum

mutual

/-- The tokens of a value. -/
def tokens : Datum → List Token
  | .null => [.null]
  | .boolean value => [.boolean value]
  | .number natural => [.number natural]
  | .text value => [.text value]
  | .list [] => [.openList, .closeList]
  | .list (item :: items) => .openList :: (item.tokens ++ restOfList items)
  | .object [] => [.openObject, .closeObject]
  | .object (member :: members) =>
      .openObject :: (memberTokens member ++ restOfObject members)

/-- The tokens of the items after the first, and of the end of the list. -/
def restOfList : List Datum → List Token
  | [] => [.closeList]
  | item :: items => .comma :: (item.tokens ++ restOfList items)

/-- The tokens of one member. -/
def memberTokens : Option String × Datum → List Token
  | (name, value) => .text name :: .colon :: value.tokens

/-- The tokens of the members after the first, and of the end of the object. -/
def restOfObject : List (Option String × Datum) → List Token
  | [] => [.closeObject]
  | member :: members => .comma :: (memberTokens member ++ restOfObject members)

end

namespace Reader

/-- The reader after a row of tokens. -/
def run? (reader : Reader) (tokens : List Token) : Option Reader :=
  tokens.foldlM step? reader

/-- The first item of a list is read as a value. -/
theorem run_item (datum : Datum) (frames : List Frame) (rest : List Token) :
    run? { expectation := .item, frames } (datum.tokens ++ rest) =
      run? { expectation := .value, frames } (datum.tokens ++ rest) := by
  cases datum with
  | list items => cases items <;> rfl
  | object members => cases members <;> rfl
  | _ => rfl

mutual

/-- The tokens of a value are read as the value, whatever is open around it. -/
theorem run_tokens (datum : Datum) (frames : List Frame) (rest : List Token) :
    run? { expectation := .value, frames } (datum.tokens ++ rest) =
      run? { expectation := .after datum, frames } rest := by
  match datum with
  | .null => rfl
  | .boolean _ => rfl
  | .number _ => rfl
  | .text _ => rfl
  | .list [] => rfl
  | .list (item :: items) =>
      show run? { expectation := .item, frames := .list [] :: frames }
        (item.tokens ++ restOfList items ++ rest) = _
      rw [List.append_assoc, run_item, run_tokens item, run_restOfList items]
      rfl
  | .object [] => rfl
  | .object ((name, value) :: members) =>
      show run? { expectation := .value, frames := .object [] name :: frames }
        (value.tokens ++ restOfObject members ++ rest) = _
      rw [List.append_assoc, run_tokens value, run_restOfObject members]
      rfl

/-- The items after the first complete a list. -/
theorem run_restOfList
    (items : List Datum)
    (value : Datum)
    (done : List Datum)
    (frames : List Frame)
    (rest : List Token) :
    run? { expectation := .after value, frames := .list done :: frames }
        (restOfList items ++ rest) =
      run? { expectation := .after (.list (done.reverse ++ value :: items)),
             frames } rest := by
  match items with
  | [] =>
      rw [← List.reverse_cons]
      rfl
  | item :: items =>
      show run?
          { expectation := .value, frames := .list (value :: done) :: frames }
          (item.tokens ++ restOfList items ++ rest) = _
      rw [List.append_assoc, run_tokens item, run_restOfList items,
        List.reverse_cons, List.append_assoc]
      rfl

/-- The members after the first complete an object. -/
theorem run_restOfObject
    (members : List (Option String × Datum))
    (name : Option String)
    (value : Datum)
    (done : List (Option String × Datum))
    (frames : List Frame)
    (rest : List Token) :
    run? { expectation := .after value, frames := .object done name :: frames }
        (restOfObject members ++ rest) = run? { expectation := .after (.object
          (done.reverse ++ (name, value) :: members)), frames } rest := by
  match members with
  | [] =>
      rw [← List.reverse_cons]
      rfl
  | (next, item) :: members =>
      show run? { expectation := .value,
                  frames := .object ((name, value) :: done) next :: frames }
          (item.tokens ++ restOfObject members ++ rest) = _
      rw [List.append_assoc, run_tokens item, run_restOfObject members,
        List.reverse_cons, List.append_assoc]
      rfl

end

end Reader

/-- A value is read from its tokens. -/
theorem ofTokens_tokens (datum : Datum) :
    ofTokens? datum.tokens = some datum := by
  have read := Reader.run_tokens datum [] []
  rw [List.append_nil] at read
  show (Reader.run? .start datum.tokens).bind Reader.result? = some datum
  rw [Reader.start, read]
  rfl

theorem closes_restOfList (items : List Datum) (rest : List Token) :
    Token.Closes (restOfList items ++ rest) := by
  cases items <;> rintro token ⟨⟩ <;> simp

theorem closes_restOfObject
    (members : List (Option String × Datum))
    (rest : List Token) :
    Token.Closes (restOfObject members ++ rest) := by
  cases members <;> rintro token ⟨⟩ <;> simp

mutual

/--
In the tokens of a value, nothing follows a number that it could be
continued with.
-/
theorem separated_tokens
    (datum : Datum)
    {rest : List Token}
    (closes : Token.Closes rest)
    (further : Token.Separated rest) :
    Token.Separated (datum.tokens ++ rest) := by
  match datum with
  | .null => exact further
  | .boolean _ => exact further
  | .number _ => exact ⟨closes, further⟩
  | .text _ => exact further
  | .list [] => exact further
  | .list (item :: items) =>
      show Token.Separated (item.tokens ++ restOfList items ++ rest)
      rw [List.append_assoc]
      exact separated_tokens item (closes_restOfList items rest)
        (separated_restOfList items further)
  | .object [] => exact further
  | .object ((name, value) :: members) =>
      show Token.Separated (value.tokens ++ restOfObject members ++ rest)
      rw [List.append_assoc]
      exact separated_tokens value (closes_restOfObject members rest)
        (separated_restOfObject members further)

theorem separated_restOfList
    (items : List Datum)
    {rest : List Token}
    (further : Token.Separated rest) :
    Token.Separated (restOfList items ++ rest) := by
  match items with
  | [] => exact further
  | item :: items =>
      show Token.Separated (item.tokens ++ restOfList items ++ rest)
      rw [List.append_assoc]
      exact separated_tokens item (closes_restOfList items rest)
        (separated_restOfList items further)

theorem separated_restOfObject
    (members : List (Option String × Datum))
    {rest : List Token}
    (further : Token.Separated rest) :
    Token.Separated (restOfObject members ++ rest) := by
  match members with
  | [] => exact further
  | (name, value) :: members =>
      show Token.Separated (value.tokens ++ restOfObject members ++ rest)
      rw [List.append_assoc]
      exact separated_tokens value (closes_restOfObject members rest)
        (separated_restOfObject members further)

end

/-- A value is read from every text that is a row of its tokens. -/
theorem ofText_of_row
    {text : String}
    {datum : Datum}
    (row : Token.Row text.toList datum.tokens) :
    ofText? text = some datum := by
  have separated : Token.Separated (datum.tokens ++ []) :=
    separated_tokens datum (fun _ member => nomatch member) trivial
  rw [List.append_nil] at separated
  have read : Token.ofChars? text.toList = some datum.tokens :=
    row.ofCharsFrom separated []
  rw [ofText?, read]
  exact ofTokens_tokens datum

/-- What is written for a value: a row of its tokens. -/
def Spells (chars : List Char) (datum : Datum) : Prop :=
  ∀ rest tokens, Token.Row rest tokens →
    Token.Row (chars ++ rest) (datum.tokens ++ tokens)

/-- A value is read from what is written for it. -/
theorem Spells.ofText
    {text : String}
    {datum : Datum}
    (spells : Spells text.toList datum) :
    ofText? text = some datum := by
  have row := spells [] [] .nil
  rw [List.append_nil, List.append_nil] at row
  exact ofText_of_row row

theorem spells_of_written
    {chars : List Char}
    {token : Token}
    {datum : Datum}
    (written : Token.Written chars token)
    (single : datum.tokens = [token]) :
    Spells chars datum := by
  intro rest tokens row
  rw [single, List.singleton_append]
  exact .token written row

theorem spells_number (number : Nat) :
    Spells (Numeral.write number) (.number (some number)) :=
  spells_of_written (Token.written_number number) rfl

/-- A member of an object, with what is written for its value. -/
structure Entry where
  name : String
  chars : List Char
  datum : Datum
  plain : ∀ c ∈ name.toList, Token.IsPlain c
  spells : Spells chars datum

/-- A member as the reader gives it. -/
def Entry.member (entry : Entry) : Option String × Datum :=
  (some entry.name, entry.datum)

/-- A member as it is written. -/
def Entry.write (entry : Entry) : List Char :=
  '\x22' :: (entry.name.toList ++ '\x22' :: ':' :: entry.chars)

/--
The members after the first, each behind a comma, and the end of the object.
-/
def writeRest : List Entry → List Char
  | [] => ['\x7d']
  | entry :: entries => ',' :: (entry.write ++ writeRest entries)

/-- An object without blanks. -/
def writeObject : List Entry → List Char
  | [] => ['\x7b', '\x7d']
  | entry :: entries => '\x7b' :: (entry.write ++ writeRest entries)

variable {rest : List Char} {tokens : List Token}

theorem Entry.row (entry : Entry) (row : Token.Row rest tokens) :
    Token.Row (entry.write ++ rest) (memberTokens entry.member ++ tokens) := by
  have value := entry.spells rest tokens row
  have name :=
    Token.Row.token (Token.written_text entry.plain) (.token .colon value)
  simpa [write, member, memberTokens] using name

theorem row_writeRest (entries : List Entry) (row : Token.Row rest tokens) :
    Token.Row (writeRest entries ++ rest)
      (restOfObject (entries.map Entry.member) ++ tokens) := by
  induction entries with
  | nil => exact .token .closeObject row
  | cons entry entries ih =>
      have members := Token.Row.token .comma (entry.row ih)
      simpa [writeRest, restOfObject] using members

/-- An object is what is written for its members between braces. -/
theorem spells_writeObject (entries : List Entry) :
    Spells (writeObject entries) (.object (entries.map Entry.member)) := by
  intro rest tokens row
  cases entries with
  | nil =>
      have braces := Token.Row.token .openObject (.token .closeObject row)
      exact braces
  | cons entry entries =>
      have members :=
        Token.Row.token .openObject (entry.row (row_writeRest entries row))
      simpa [writeObject, Datum.tokens] using members

end Datum

end BufferBudget
