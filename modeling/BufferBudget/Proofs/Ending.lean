import BufferBudget.Source

/-!
# How actions end

An action on a world, or on a world and the contents of one buffer, ends in a
value or in a fault, and leaves a state either way.  `Ends` says of an action
begun in a state what holds of its ending.

The equations for `Ends` take an action apart along its definition: the ending
of a sequence is an ending of its first action after which the rest ends as
wanted, and a fault passes through unchanged.  A fact about a function is then
stated once, as an ending, and a caller needs no more than that.
-/

namespace BufferBudget

/--
An action begun in a state ends in a value and a state that satisfy `onValue`,
or in a fault and a state that satisfy `onFault`.
-/
def Ends
    {σ α : Type}
    (action : EStateM Fault σ α)
    (state : σ)
    (onValue : α → σ → Prop)
    (onFault : Fault → σ → Prop) : Prop :=
  match action.run state with
  | .ok value later => onValue value later
  | .error fault later => onFault fault later

section Rules

variable
    {σ α β : Type}
    {state : σ}
    {onValue : α → σ → Prop}
    {onFault : Fault → σ → Prop}

theorem Ends.mono
    {weakValue : α → σ → Prop}
    {weakFault : Fault → σ → Prop}
    {action : EStateM Fault σ α}
    (ends : Ends action state onValue onFault)
    (values : ∀ value later, onValue value later → weakValue value later)
    (faults : ∀ fault later, onFault fault later → weakFault fault later) :
    Ends action state weakValue weakFault := by
  unfold Ends at ends ⊢
  split at ends
  · exact values _ _ ends
  · exact faults _ _ ends

/-- An action that never stops stops in whatever way one likes. -/
theorem Ends.sure
    {weakValue : α → σ → Prop}
    {action : EStateM Fault σ α}
    (ends : Ends action state onValue fun _ _ => False)
    (values : ∀ value later, onValue value later → weakValue value later) :
    Ends action state weakValue onFault :=
  ends.mono values fun _ _ impossible => impossible.elim

/--
What is said of the values alone follows from it, whatever is known
of the faults.
-/
theorem Ends.imp
    {weakValue : α → σ → Prop}
    {action : EStateM Fault σ α}
    (ends : Ends action state onValue onFault)
    (values : ∀ value later, onValue value later → weakValue value later) :
    Ends action state weakValue (fun _ _ => True) :=
  ends.mono values fun _ _ _ => trivial

/-- Two facts about an ending are facts about the same ending. -/
theorem Ends.and
    {otherValue : α → σ → Prop}
    {otherFault : Fault → σ → Prop}
    {action : EStateM Fault σ α}
    (left : Ends action state onValue onFault)
    (right : Ends action state otherValue otherFault) :
    Ends action state
      (fun value later => onValue value later ∧ otherValue value later)
      (fun fault later => onFault fault later ∧ otherFault fault later) := by
  unfold Ends at left right ⊢
  split at left
  · rename_i ended
    rw [ended] at right
    exact ⟨left, right⟩
  · rename_i ended
    rw [ended] at right
    exact ⟨left, right⟩

/-- Of values alone, two facts are again facts about the same ending. -/
theorem Ends.both
    {otherValue : α → σ → Prop}
    {action : EStateM Fault σ α}
    (left : Ends action state onValue (fun _ _ => True))
    (right : Ends action state otherValue (fun _ _ => True)) :
    Ends action state
      (fun value later => onValue value later ∧ otherValue value later)
      (fun _ _ => True) :=
  (left.and right).imp fun _ _ facts => facts

/--
What is said of the values and what is said of the faults are said
of one ending.
-/
theorem Ends.stopping
    {action : EStateM Fault σ α}
    (values : Ends action state onValue (fun _ _ => True))
    (faults : Ends action state (fun _ _ => True) onFault) :
    Ends action state onValue onFault :=
  (values.and faults).mono (fun _ _ ended => ended.1) (fun _ _ ended => ended.2)

/-- What holds of everything holds of an ending. -/
theorem ends_of_forall
    {action : EStateM Fault σ α}
    (values : ∀ value later, onValue value later)
    (faults : ∀ fault later, onFault fault later) :
    Ends action state onValue onFault := by
  unfold Ends
  split
  · exact values _ _
  · exact faults _ _

/-- An action ends, in whatever way. -/
theorem ends_somehow {action : EStateM Fault σ α} :
    Ends action state (fun _ _ => True) (fun _ _ => True) :=
  ends_of_forall (fun _ _ => trivial) (fun _ _ => trivial)

@[simp]
theorem ends_pure (value : α) :
    Ends (pure value) state onValue onFault ↔ onValue value state :=
  Iff.rfl

@[simp]
theorem ends_throw (fault : Fault) :
    Ends (throw fault) state onValue onFault ↔ onFault fault state :=
  Iff.rfl

@[simp]
theorem ends_get {onValue : σ → σ → Prop} :
    Ends get state onValue onFault ↔ onValue state state :=
  Iff.rfl

@[simp]
theorem ends_modify {onValue : Unit → σ → Prop} (change : σ → σ) :
    Ends (modify change) state onValue onFault ↔ onValue () (change state) :=
  Iff.rfl

@[simp]
theorem ends_bind
    {onValue : β → σ → Prop}
    (action : EStateM Fault σ α)
    (next : α → EStateM Fault σ β) :
    Ends (action >>= next) state onValue onFault ↔
      Ends action state (fun value later =>
        Ends (next value) later onValue onFault) onFault := by
  simp only [Ends, EStateM.run, bind, EStateM.bind]
  cases action state <;> rfl

/--
One action after another ends as wanted if the first ends somewhere from where
the second does.
-/
theorem Ends.bind
    {between : α → σ → Prop}
    {onValue : β → σ → Prop}
    {action : EStateM Fault σ α}
    {next : α → EStateM Fault σ β}
    (first : Ends action state between onFault)
    (rest : ∀ value later, between value later →
      Ends (next value) later onValue onFault) :
    Ends (action >>= next) state onValue onFault :=
  (ends_bind action next).mpr (first.mono rest fun _ _ stopped => stopped)

theorem Ends.ite
    {condition : Prop}
    [Decidable condition]
    {yes no : EStateM Fault σ α}
    (whenTrue : condition → Ends yes state onValue onFault)
    (whenFalse : ¬condition → Ends no state onValue onFault) :
    Ends (if condition then yes else no) state onValue onFault := by
  by_cases holds : condition
  · rw [if_pos holds]
    exact whenTrue holds
  · rw [if_neg holds]
    exact whenFalse holds

end Rules

section Operations

variable
    {α : Type}
    {world : World}
    {onValue : α → World → Prop}
    {onFault : Fault → World → Prop}

@[simp]
theorem ends_note {onValue : Unit → World → Prop} (event : Event) :
    Ends (Operation.note event) world onValue onFault ↔
      onValue () (world.note event) :=
  Iff.rfl

@[simp]
theorem ends_noteAll {onValue : Unit → World → Prop} (events : List Event) :
    Ends (Operation.noteAll events) world onValue onFault ↔
      onValue () (world.noteAll events) :=
  Iff.rfl

@[simp]
theorem ends_emit
    {onValue : Unit → World → Prop}
    (diagnostics : List Diagnostic) :
    Ends (Operation.emit diagnostics) world onValue onFault ↔
      onValue () (world.noteAll (diagnostics.map .emitted)) :=
  Iff.rfl

theorem ends_ofExcept (result : Except Fault α) :
    Ends (Operation.ofExcept result) world onValue onFault ↔
      (∀ value, result = .ok value → onValue value world) ∧
        ∀ fault, result = .error fault → onFault fault world := by
  cases result <;> simp [Operation.ofExcept]

@[simp]
theorem ends_ofExcept_ok (value : α) :
    Ends (Operation.ofExcept (.ok value)) world onValue onFault ↔
      onValue value world :=
  Iff.rfl

theorem ends_sub
    {left right : Nat}
    {onValue : Nat → World → Prop}
    (fits : right ≤ left → onValue (left - right) world)
    (short : left < right → onFault .subtractionOverflow world) :
    Ends (Operation.ofExcept (Size.sub left right)) world onValue onFault := by
  rw [Size.sub]
  split
  · rename_i enough
    exact fits enough
  · rename_i notEnough
    exact short (Nat.not_le.mp notEnough)

theorem ends_add
    {left right : Nat}
    {onValue : Nat → World → Prop}
    (fits : left + right ≤ Size.limit → onValue (left + right) world)
    (beyond : Size.limit < left + right → onFault .additionOverflow world) :
    Ends (Operation.ofExcept (Size.add left right)) world onValue onFault := by
  rw [Size.add]
  split
  · rename_i inside
    exact fits inside
  · rename_i notInside
    exact beyond (Nat.not_le.mp notInside)

@[simp]
theorem ends_holding (lock : Lock) (operation : Operation α) :
    Ends (Operation.holding lock operation) world onValue onFault ↔
      Ends operation (world.note (.acquired lock))
        (fun value later => onValue value (later.note (.released lock)))
        (fun fault later => onFault fault (later.note (.released lock))) := by
  simp only [Ends, Operation.holding, EStateM.run]
  cases operation (world.note (.acquired lock)) <;> rfl

/-- The ending of an operation is what `perform` gives. -/
theorem ends_iff_perform (operation : Operation α) :
    Ends operation world onValue onFault ↔
      match operation.perform world with
      | (.ok value, later) => onValue value later
      | (.error fault, later) => onFault fault later := by
  simp only [Ends, Operation.perform]
  cases operation.run world <;> rfl

end Operations

section Resizings

variable
    {α : Type}
    {bench : Workbench}
    {onValue : α → Workbench → Prop}
    {onFault : Fault → Workbench → Prop}

@[simp]
theorem ends_size {onValue : Nat → Workbench → Prop} :
    Ends Resizing.size bench onValue onFault ↔
      onValue bench.contents.size bench :=
  Iff.rfl

/--
An operation within a resizing ends as on its own, and leaves the
contents alone.
-/
@[simp]
theorem ends_liftM (operation : Operation α) :
    Ends (liftM operation : Resizing α) bench onValue onFault ↔
      Ends operation bench.world
        (fun value later => onValue value { bench with world := later })
        (fun fault later => onFault fault { bench with world := later }) := by
  simp only [Ends, Resizing.liftM_eq_ofOperation,
    Resizing.ofOperation, EStateM.run]
  cases operation bench.world <;> rfl

/-- An operation and then the rest of a resizing. -/
theorem Ends.bindResizing
    {β : Type}
    {between : α → World → Prop}
    {onValue : β → Workbench → Prop}
    {operation : Operation α}
    {next : α → Resizing β}
    (first : Ends operation bench.world between
      (fun fault later => onFault fault { bench with world := later }))
    (rest : ∀ value later, between value later →
      Ends (next value) { bench with world := later } onValue onFault) :
    Ends (liftM operation >>= next) bench onValue onFault :=
  (ends_bind _ _).mpr
    ((ends_liftM _).mpr (first.mono rest fun _ _ stopped => stopped))

@[simp]
theorem ends_holdingResizing (lock : Lock) (resizing : Resizing α) :
    Ends (Resizing.holding lock resizing) bench onValue onFault ↔
      Ends resizing { bench with world := bench.world.note (.acquired lock) }
        (fun value later => onValue value
          { later with world := later.world.note (.released lock) })
        (fun fault later =>
          onFault fault
            { later with world := later.world.note (.released lock) }) := by
  simp only [Ends, Resizing.holding, EStateM.run]
  cases resizing { bench with world := bench.world.note (.acquired lock) }
    <;> rfl

end Resizings

end BufferBudget
