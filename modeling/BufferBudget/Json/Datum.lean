import BufferBudget.Json.Token

/-!
# JSON values

A JSON text stands for a value.  Values keep what their tokens keep: a number
its value if it is written as a natural number, a string its text if it stands
for one.  The members of an object keep their order and their repetitions.

The reader takes one token at a time and remembers the lists and objects that
are still open, so nesting may be as deep as it likes.
-/

namespace BufferBudget

/-- What a JSON text stands for. -/
inductive Datum where
  | null
  | boolean (value : Bool)
  | number (natural : Option Nat)
  | text (value : Option String)
  | list (items : List Datum)
  | object (members : List (Option String × Datum))

namespace Datum

/--
A list or an object that is still open.  What it already holds is latest first.
-/
inductive Frame where
  | list (items : List Datum)
  /-- An object, and the name of the member whose value is being read. -/
  | object (members : List (Option String × Datum)) (name : Option String)

/-- What may come next. -/
inductive Expectation where
  | value
  /-- The first item of a list, or its end. -/
  | item
  /-- The first member of an object, or its end. -/
  | member
  /-- The name of another member. -/
  | name (members : List (Option String × Datum))
  /-- The colon after a name. -/
  | colon (members : List (Option String × Datum)) (name : Option String)
  /-- Whatever may follow a value that has been read. -/
  | after (value : Datum)

/--
A reader in the course of its work: what may come next, and the lists and
objects that are open around that place, the innermost first.
-/
structure Reader where
  expectation : Expectation
  frames : List Frame

namespace Reader

/-- The reader at the start of a text. -/
def start : Reader :=
  { expectation := .value, frames := [] }

/-- The reader after the first token of a value. -/
def open? (frames : List Frame) : Token → Option Reader
  | .null => some { expectation := .after .null, frames }
  | .boolean value => some { expectation := .after (.boolean value), frames }
  | .number natural => some { expectation := .after (.number natural), frames }
  | .text value => some { expectation := .after (.text value), frames }
  | .openList => some { expectation := .item, frames := .list [] :: frames }
  | .openObject => some { expectation := .member, frames }
  | _ => none

/-- The reader after a token that follows a value inside a list or an object. -/
def continue? (value : Datum) (frames : List Frame) (token : Token) :
    Option Reader :=
  match frames, token with
  | .list items :: below, .comma =>
      some { expectation := .value, frames := .list (value :: items) :: below }
  | .list items :: below, .closeList =>
      some { expectation := .after (.list (value :: items).reverse),
             frames := below }
  | .object members name :: below, .comma =>
      some { expectation := .name ((name, value) :: members), frames := below }
  | .object members name :: below, .closeObject =>
      some { expectation := .after (.object ((name, value) :: members).reverse),
             frames := below }
  | _, _ => none

/-- The reader after one more token, if the token may come there. -/
def step? (reader : Reader) (token : Token) : Option Reader :=
  match reader.expectation, token with
  | .value, token => open? reader.frames token
  | .item, .closeList =>
      match reader.frames with
      | .list items :: below =>
          some { expectation := .after (.list items.reverse), frames := below }
      | _ => none
  | .item, token => open? reader.frames token
  | .member, .closeObject =>
      some { reader with expectation := .after (.object []) }
  | .member, .text name => some { reader with expectation := .colon [] name }
  | .name members, .text name =>
      some { reader with expectation := .colon members name }
  | .colon members name, .colon =>
      some { expectation := .value,
             frames := .object members name :: reader.frames }
  | .after value, token => continue? value reader.frames token
  | _, _ => none

/-- The value that has been read, if nothing is open any more. -/
def result? (reader : Reader) : Option Datum :=
  match reader.expectation, reader.frames with
  | .after value, [] => some value
  | _, _ => none

end Reader

/-- The value of a row of tokens, if it is the row of one value. -/
def ofTokens? (tokens : List Token) : Option Datum := do
  (← tokens.foldlM Reader.step? Reader.start).result?

/-- The value of a text, if it is a JSON text. -/
def ofText? (text : String) : Option Datum := do
  ofTokens? (← Token.ofChars? text.toList)

/--
A size: a number that is written with digits alone and is not above
the largest size.
-/
def size? : Datum → Option Nat
  | .number (some value) => if value ≤ Size.limit then some value else none
  | _ => none

/-- A size or nothing. -/
def optionalSize? : Datum → Option (Option Nat)
  | .null => some none
  | datum => datum.size?.map some

/-- A flag. -/
def flag? : Datum → Option Bool
  | .boolean value => some value
  | _ => none

end Datum

/-- The members of an object by name.  Every name must stand for a text. -/
abbrev Members : Type :=
  List (String × Datum)

namespace Members

/-- The members of an object, if every name stands for a text. -/
def ofObject? (members : List (Option String × Datum)) : Option Members :=
  members.mapM fun (name, datum) => name.map fun text => (text, datum)

/-- Every value that is given under a name. -/
def values (members : Members) (name : String) : List Datum :=
  (members.filter fun pair => pair.1 = name).map (·.2)

/-- Reads the member of a name, which may be missing but not repeated. -/
def readOr?
    {α : Type}
    (members : Members)
    (read? : Datum → Option α)
    (missing : α)
    (name : String) : Option α :=
  match members.values name with
  | [] => some missing
  | [datum] => read? datum
  | _ => none

/-- Reads the member of a name, which may be neither missing nor repeated. -/
def read?
    {α : Type}
    (members : Members)
    (read? : Datum → Option α)
    (name : String) : Option α :=
  match members.values name with
  | [datum] => read? datum
  | _ => none

end Members

end BufferBudget
