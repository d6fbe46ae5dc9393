/-!
# Shelves

A shelf holds values under numbers, its places in increasing order.  At most
one value is held under a number: putting a second one there replaces the
first.  Both facts are kept in the type, so that a shelf with the same values
under the same numbers is the same shelf.
-/

namespace BufferBudget

/-- Values under numbers, in increasing order of the numbers. -/
structure Shelf (α : Type) where
  /-- What a shelf holds, in order. -/
  toList : List (Nat × α)
  increasing : toList.Pairwise fun left right => left.1 < right.1

namespace Shelf

/-- A shelf with nothing on it. -/
def empty {α : Type} : Shelf α :=
  { toList := [], increasing := List.Pairwise.nil }

/-- The first value of a list under a number. -/
def lookupIn {α : Type} (key : Nat) : List (Nat × α) → Option α
  | [] => none
  | (held, content) :: rest =>
      if held = key then some content else lookupIn key rest

/-- The value held under a number. -/
def find? {α : Type} (shelf : Shelf α) (key : Nat) : Option α :=
  lookupIn key shelf.toList

/-- The places of a list with a value put among them. -/
def insertInto {α : Type} (key : Nat) (value : α) :
    List (Nat × α) → List (Nat × α)
  | [] => [(key, value)]
  | (held, content) :: rest =>
      if key < held then (key, value) :: (held, content) :: rest
      else if key = held then (key, value) :: rest
      else (held, content) :: insertInto key value rest

theorem key_of_mem_insertInto
    {α : Type}
    {key : Nat}
    {value : α}
    {places : List (Nat × α)}
    {place : Nat × α}
    (member : place ∈ insertInto key value places) :
    place.1 = key ∨ place ∈ places := by
  induction places with
  | nil =>
      simp only [insertInto, List.mem_singleton] at member
      exact Or.inl (congrArg Prod.fst member)
  | cons first rest ih =>
      obtain ⟨held, content⟩ := first
      simp only [insertInto] at member
      split at member
      · rcases List.mem_cons.mp member with rfl | old
        · exact Or.inl rfl
        · exact Or.inr old
      · split at member
        · rcases List.mem_cons.mp member with rfl | old
          · exact Or.inl rfl
          · exact Or.inr (List.mem_cons_of_mem _ old)
        · rcases List.mem_cons.mp member with rfl | later
          · exact Or.inr List.mem_cons_self
          · rcases ih later with same | old
            · exact Or.inl same
            · exact Or.inr (List.mem_cons_of_mem _ old)

theorem pairwise_insertInto
    {α : Type}
    (key : Nat)
    (value : α)
    {places : List (Nat × α)}
    (increasing : places.Pairwise fun left right => left.1 < right.1) :
    (insertInto key value places).Pairwise fun left right =>
      left.1 < right.1 := by
  induction places with
  | nil => exact List.pairwise_singleton _ _
  | cons first rest ih =>
      obtain ⟨held, content⟩ := first
      obtain ⟨below, tail⟩ := List.pairwise_cons.mp increasing
      simp only [insertInto]
      split
      · rename_i less
        refine List.pairwise_cons.mpr ⟨?_, increasing⟩
        intro place member
        rcases List.mem_cons.mp member with rfl | later
        · exact less
        · exact Nat.lt_trans less (below place later)
      · split
        · rename_i same
          subst same
          exact List.pairwise_cons.mpr ⟨below, tail⟩
        · rename_i notLess distinct
          refine List.pairwise_cons.mpr ⟨?_, ih tail⟩
          intro place member
          rcases key_of_mem_insertInto member with same | old
          · simp only [same]
            omega
          · exact below place old

/-- A shelf with a value put under a number. -/
def insert {α : Type} (shelf : Shelf α) (key : Nat) (value : α) : Shelf α where
  toList := insertInto key value shelf.toList
  increasing := pairwise_insertInto key value shelf.increasing

/-- A shelf with nothing under a number. -/
def erase {α : Type} (shelf : Shelf α) (key : Nat) : Shelf α where
  toList := shelf.toList.filter fun place => place.1 != key
  increasing := shelf.increasing.filter _

@[simp]
theorem find?_empty {α : Type} (key : Nat) :
    (empty : Shelf α).find? key = none :=
  rfl

theorem lookupIn_insertInto
    {α : Type}
    (key other : Nat)
    (value : α)
    (places : List (Nat × α)) :
    lookupIn other (insertInto key value places) =
      if other = key then some value else lookupIn other places := by
  induction places with
  | nil => simp [insertInto, lookupIn, eq_comm]
  | cons place rest ih =>
      obtain ⟨held, content⟩ := place
      simp only [insertInto]
      split
      · simp [lookupIn, eq_comm]
      · split
        · rename_i same
          subst same
          by_cases equal : key = other <;> simp [lookupIn, equal, eq_comm]
        · rename_i distinct
          by_cases atPlace : held = other
          · subst atPlace
            simp [lookupIn, Ne.symm distinct]
          · simp [lookupIn, atPlace, ih]

/--
Putting a value under a number changes what is held there and nowhere else.
-/
theorem find?_insert
    {α : Type}
    (shelf : Shelf α)
    (key other : Nat)
    (value : α) :
    (shelf.insert key value).find? other =
      if other = key then some value else shelf.find? other :=
  lookupIn_insertInto key other value shelf.toList

theorem find?_insert_self {α : Type} (shelf : Shelf α) (key : Nat) (value : α) :
    (shelf.insert key value).find? key = some value := by
  rw [find?_insert, if_pos rfl]

theorem lookupIn_filter_ne
    {α : Type}
    (key other : Nat)
    (places : List (Nat × α)) :
    lookupIn other (places.filter fun place => place.1 != key) =
      if other = key then none else lookupIn other places := by
  induction places with
  | nil => simp [lookupIn]
  | cons place rest ih =>
      obtain ⟨held, content⟩ := place
      by_cases dropped : held = key
      · subst dropped
        by_cases equal : other = held
        · simp [equal] at ih ⊢
          exact ih
        · simp [lookupIn, equal, Ne.symm equal, ih]
      · by_cases atPlace : held = other
        · subst atPlace
          simp [lookupIn, dropped]
        · simp [lookupIn, dropped, atPlace, ih]

/-- Taking away what is held under a number changes nothing elsewhere. -/
theorem find?_erase {α : Type} (shelf : Shelf α) (key other : Nat) :
    (shelf.erase key).find? other =
      if other = key then none else shelf.find? other :=
  lookupIn_filter_ne key other shelf.toList

theorem lookupIn_eq_none_of_forall_lt
    {α : Type}
    {key : Nat}
    {places : List (Nat × α)}
    (above : ∀ place ∈ places, key < place.1) :
    lookupIn key places = none := by
  induction places with
  | nil => rfl
  | cons place rest ih =>
      obtain ⟨held, content⟩ := place
      have first := above (held, content) List.mem_cons_self
      simp only [lookupIn]
      rw [if_neg (Nat.ne_of_gt first)]
      exact ih fun place member => above place (List.mem_cons_of_mem _ member)

theorem eq_of_lookupIn_eq
    {α : Type}
    {left right : List (Nat × α)}
    (leftIncreasing : left.Pairwise fun left right => left.1 < right.1)
    (rightIncreasing : right.Pairwise fun left right => left.1 < right.1)
    (same : ∀ key, lookupIn key left = lookupIn key right) :
    left = right := by
  induction left generalizing right with
  | nil =>
      cases right with
      | nil => rfl
      | cons place rest => simpa [lookupIn] using same place.1
  | cons first rest ih =>
      obtain ⟨held, content⟩ := first
      obtain ⟨below, tail⟩ := List.pairwise_cons.mp leftIncreasing
      cases right with
      | nil => simpa [lookupIn] using same held
      | cons first' rest' =>
          obtain ⟨held', content'⟩ := first'
          obtain ⟨below', tail'⟩ := List.pairwise_cons.mp rightIncreasing
          have atHeld := same held
          have atHeld' := same held'
          have heldEq : held = held' := by
            rcases Nat.lt_trichotomy held held' with less | equal | greater
            · have absent : lookupIn held rest' = none :=
                lookupIn_eq_none_of_forall_lt fun place member =>
                  Nat.lt_trans less (below' place member)
              simp [lookupIn, Nat.ne_of_gt less, absent] at atHeld
            · exact equal
            · have absent : lookupIn held' rest = none :=
                lookupIn_eq_none_of_forall_lt fun place member =>
                  Nat.lt_trans greater (below place member)
              simp [lookupIn, Nat.ne_of_gt greater, absent] at atHeld'
          subst heldEq
          have contentEq : content = content' := by
            simpa [lookupIn] using atHeld
          subst contentEq
          have restEq : rest = rest' := by
            apply ih tail tail'
            intro key
            by_cases equal : held = key
            · subst equal
              rw [lookupIn_eq_none_of_forall_lt below,
                lookupIn_eq_none_of_forall_lt below']
            · simpa [lookupIn, equal] using same key
          rw [restEq]

/-- Two shelves that hold the same under every number are the same shelf. -/
theorem ext
    {α : Type}
    {left right : Shelf α}
    (same : ∀ key, left.find? key = right.find? key) :
    left = right := by
  obtain ⟨leftPlaces, leftIncreasing⟩ := left
  obtain ⟨rightPlaces, rightIncreasing⟩ := right
  congr
  exact eq_of_lookupIn_eq leftIncreasing rightIncreasing same

end Shelf

end BufferBudget
