/-!
# Tables

A table gives every number a value: it holds the accounts that several
allocators share, each under its own number.  `set` changes one entry and
leaves every other entry alone.
-/

namespace BufferBudget

/-- A value for every number. -/
def Table (α : Type) : Type :=
  Nat → α

namespace Table

/-- The table with the same value everywhere. -/
def constant {α : Type} (value : α) : Table α :=
  fun _ => value

/-- The entry of a number. -/
def entry {α : Type} (table : Table α) (key : Nat) : α :=
  table key

@[simp]
theorem entry_constant {α : Type} (value : α) (key : Nat) :
    (constant value).entry key = value :=
  rfl

/-- The table with another value at one number. -/
def set {α : Type} (table : Table α) (key : Nat) (value : α) : Table α :=
  fun other => if other = key then value else table.entry other

theorem entry_set {α : Type} (table : Table α) (key other : Nat) (value : α) :
    (table.set key value).entry other =
      if other = key then value else table.entry other :=
  rfl

@[simp]
theorem entry_set_self {α : Type} (table : Table α) (key : Nat) (value : α) :
    (table.set key value).entry key = value := by
  simp [entry_set]

/-- Two tables with the same entries are the same table. -/
theorem ext
    {α : Type}
    {left right : Table α}
    (same : ∀ key, left.entry key = right.entry key) :
    left = right :=
  funext same

@[simp]
theorem set_entry {α : Type} (table : Table α) (key : Nat) :
    table.set key (table.entry key) = table := by
  apply ext
  intro other
  by_cases equal : other = key <;> simp [entry_set, equal]

@[simp]
theorem set_set {α : Type} (table : Table α) (key : Nat) (first second : α) :
    (table.set key first).set key second = table.set key second := by
  apply ext
  intro other
  by_cases equal : other = key <;> simp [entry_set, equal]

/--
The table whose first entries are those of a list, and whose others are `rest`.
-/
def ofList {α : Type} (values : List α) (rest : α) : Table α :=
  fun key => values.getD key rest

@[simp]
theorem entry_ofList {α : Type} (values : List α) (rest : α) (key : Nat) :
    (ofList values rest).entry key = values.getD key rest :=
  rfl

end Table

end BufferBudget
