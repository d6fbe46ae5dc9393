import BufferBudget.Proofs.Ending

/-!
# Two actions side by side

Of two runs one wants to know that they cannot be told apart.  `EndAlike` says
it of a pair of actions: begun in states that are related, they end in values
that agree or at one and the same fault, and in states that are related again.
There may be faults that excuse a pair from all of this, whichever of the two
stops at one.

Pairs are put together as actions are.  Since the states stay related all along,
nothing but the values that agree has to be carried from one action to the next.
-/

namespace BufferBudget

/--
Two results agree, and so do the states after them, unless one of them is a
fault that excuses them.
-/
inductive EndedAlike
    {σ α β : Type}
    (excused : Fault → Prop)
    (related : σ → σ → Prop)
    (agree : α → β → Prop) :
    EStateM.Result Fault σ α → EStateM.Result Fault σ β → Prop where
  | values
      {value : α}
      {other : β}
      {later last : σ}
      (agrees : agree value other)
      (still : related later last) :
      EndedAlike excused related agree (.ok value later) (.ok other last)
  | faults {fault : Fault} {later last : σ} (still : related later last) :
      EndedAlike excused related agree (.error fault later) (.error fault last)
  | left
      {fault : Fault}
      {later : σ}
      {other : EStateM.Result Fault σ β}
      (excuses : excused fault) :
      EndedAlike excused related agree (.error fault later) other
  | right
      {fault : Fault}
      {last : σ}
      {result : EStateM.Result Fault σ α}
      (excuses : excused fault) :
      EndedAlike excused related agree result (.error fault last)

/-- Where nothing excuses two results, they are two values or one fault. -/
@[elab_as_elim]
theorem EndedAlike.unexcused
    {σ α β : Type}
    {related : σ → σ → Prop}
    {agree : α → β → Prop}
    {motive : ∀ result other,
      EndedAlike (fun _ => False) related agree result other → Prop}
    {result : EStateM.Result Fault σ α}
    {other : EStateM.Result Fault σ β}
    (ended : EndedAlike (fun _ => False) related agree result other)
    (values : ∀ {value other later last} (agrees : agree value other)
      (still : related later last),
      motive (.ok value later) (.ok other last) (.values agrees still))
    (faults : ∀ {fault later last} (still : related later last),
      motive (.error fault later) (.error fault last) (.faults still)) :
    motive result other ended := by
  cases ended with
  | values agrees still => exact values agrees still
  | faults still => exact faults still
  | left excuses => exact excuses.elim
  | right excuses => exact excuses.elim

/-- A result with its state changed, whether it is a value or a fault. -/
def mapState {σ τ α : Type} (change : σ → τ) :
    EStateM.Result Fault σ α → EStateM.Result Fault τ α
  | .ok value later => .ok value (change later)
  | .error fault later => .error fault (change later)

/-- Two actions end alike from any two states that are related. -/
def EndAlike
    {σ α β : Type}
    (excused : Fault → Prop)
    (related : σ → σ → Prop)
    (agree : α → β → Prop)
    (left : EStateM Fault σ α)
    (right : EStateM Fault σ β) : Prop :=
  ∀ first second, related first second →
    EndedAlike excused related agree (left.run first) (right.run second)

/-- What follows a value starts where the value has been got. -/
theorem run_bind_of_ok
    {σ α β : Type}
    {action : EStateM Fault σ α}
    {next : α → EStateM Fault σ β}
    {state later : σ}
    {value : α}
    (ran : action.run state = .ok value later) :
    (action >>= next).run state = (next value).run later := by
  show EStateM.bind action next state = _
  unfold EStateM.bind
  rw [show action state = .ok value later from ran]
  rfl

section Rules

variable
    {σ α β γ δ : Type}
    {excused : Fault → Prop}
    {related : σ → σ → Prop}
    {agree : α → β → Prop}
    {further : γ → δ → Prop}
    {first second : σ}

/--
Of two actions that each end in a known way, it is enough that these ways agree.
-/
theorem endedAlike_of_ends
    {left : EStateM Fault σ α}
    {right : EStateM Fault σ β}
    {onValue : α → σ → Prop}
    {onOther : β → σ → Prop}
    (one : Ends left first onValue fun fault _ => excused fault)
    (two : Ends right second onOther fun fault _ => excused fault)
    (both : ∀ value later other last, onValue value later → onOther other last →
      agree value other ∧ related later last) :
    EndedAlike excused related agree (left.run first) (right.run second) := by
  unfold Ends at one two
  generalize left.run first = result at one ⊢
  generalize right.run second = other at two ⊢
  cases result with
  | error fault later => exact .left one
  | ok value later =>
      cases other with
      | error fault last => exact .right two
      | ok value last =>
          obtain ⟨agrees, still⟩ := both _ _ _ _ one two
          exact .values agrees still

/-- Two actions that never stop end alike if their values agree. -/
theorem endedAlike_of_values
    {left : EStateM Fault σ α}
    {right : EStateM Fault σ β}
    {onValue : α → σ → Prop}
    {onOther : β → σ → Prop}
    (one : Ends left first onValue fun _ _ => False)
    (two : Ends right second onOther fun _ _ => False)
    (both : ∀ value later other last, onValue value later → onOther other last →
      agree value other ∧ related later last) :
    EndedAlike excused related agree (left.run first) (right.run second) :=
  endedAlike_of_ends (one.sure fun _ _ ended => ended)
    (two.sure fun _ _ ended => ended) both

/--
A value that has been got already agrees with what a second action
never stops at.
-/
theorem endedAlike_of_value
    {value : α}
    {later : σ}
    {right : EStateM Fault σ β}
    {onOther : β → σ → Prop}
    (two : Ends right second onOther fun _ _ => False)
    (both : ∀ other last, onOther other last → agree value other ∧
      related later last) :
    EndedAlike excused related agree (.ok value later) (right.run second) := by
  have one : Ends (pure value : EStateM Fault σ α) later
      (fun given state => given = value ∧ state = later) (fun _ _ => False) :=
    ⟨rfl, rfl⟩
  refine endedAlike_of_values one two ?_
  rintro _ _ other last ⟨rfl, rfl⟩ came
  exact both other last came

/-- Two actions that stop at the same fault end alike. -/
theorem endedAlike_of_faults
    {left : EStateM Fault σ α}
    {right : EStateM Fault σ β}
    {onFault onOther : Fault → σ → Prop}
    (one : Ends left first (fun _ _ => False) onFault)
    (two : Ends right second (fun _ _ => False) onOther)
    (both : ∀ fault later other last, onFault fault later → onOther other last →
      fault = other ∧ related later last) :
    EndedAlike excused related agree (left.run first) (right.run second) := by
  unfold Ends at one two
  generalize left.run first = result at one ⊢
  generalize right.run second = other at two ⊢
  cases result with
  | ok value later => exact one.elim
  | error fault later =>
      cases other with
      | ok value last => exact two.elim
      | error stopped last =>
          obtain ⟨rfl, still⟩ := both _ _ _ _ one two
          exact .faults still

/-- Results stay alike under a change of the states. -/
theorem EndedAlike.mapState
    {τ : Type}
    {relatedAfter : τ → τ → Prop}
    {change others : σ → τ}
    {result : EStateM.Result Fault σ α}
    {other : EStateM.Result Fault σ β}
    (ended : EndedAlike excused related agree result other)
    (kept : ∀ later last, related later last →
      relatedAfter (change later) (others last)) :
    EndedAlike excused relatedAfter agree (BufferBudget.mapState change result)
      (BufferBudget.mapState others other) := by
  cases ended with
  | values agrees still => exact .values agrees (kept _ _ still)
  | faults still => exact .faults (kept _ _ still)
  | left excuses => exact .left excuses
  | right excuses => exact .right excuses

theorem endAlike_pure {value : α} {other : β} (agrees : agree value other) :
    EndAlike excused related agree (pure value) (pure other) :=
  fun _ _ begun => .values agrees begun

theorem endAlike_throw (fault : Fault) :
    EndAlike excused related agree (throw fault) (throw fault) :=
  fun _ _ begun => .faults begun

theorem endAlike_get : EndAlike excused related related get get :=
  fun _ _ begun => .values begun begun

theorem endAlike_modify
    {change other : σ → σ}
    (kept : ∀ first second, related first second →
      related (change first) (other second)) :
    EndAlike excused related Eq (modify change) (modify other) :=
  fun first second begun => .values rfl (kept first second begun)

theorem EndAlike.bind
    {left : EStateM Fault σ α}
    {right : EStateM Fault σ β}
    {next : α → EStateM Fault σ γ}
    {follow : β → EStateM Fault σ δ}
    (pair : EndAlike excused related agree left right)
    (rest : ∀ value other, agree value other →
      EndAlike excused related further (next value) (follow other)) :
    EndAlike excused related further (left >>= next) (right >>= follow) := by
  intro first second begun
  have ended := pair first second begun
  show EndedAlike excused related further (EStateM.bind left next first)
    (EStateM.bind right follow second)
  unfold EStateM.bind
  unfold EStateM.run at ended
  generalize left first = result at ended ⊢
  generalize right second = other at ended ⊢
  cases ended with
  | values agrees still => exact rest _ _ agrees _ _ still
  | faults still => exact .faults still
  | left excuses => exact .left excuses
  | right excuses => exact .right excuses

/-- What follows a value that both actions share. -/
theorem EndAlike.bindEq
    {left right : EStateM Fault σ α}
    {next : α → EStateM Fault σ γ}
    {follow : α → EStateM Fault σ δ}
    (pair : EndAlike excused related Eq left right)
    (rest : ∀ value,
      EndAlike excused related further (next value) (follow value)) :
    EndAlike excused related further (left >>= next) (right >>= follow) :=
  pair.bind fun value _ same => same ▸ rest value

/--
The left of two actions does something first that the right one does not notice.
-/
theorem EndAlike.leftFirst
    {first : EStateM Fault σ γ}
    {next : γ → EStateM Fault σ α}
    {right : EStateM Fault σ β}
    (silent : ∀ state other, related state other →
      Ends first state (fun _ later => related later other) (fun _ _ => False))
    (rest : ∀ value, EndAlike excused related agree (next value) right) :
    EndAlike excused related agree (first >>= next) right := by
  intro state other begun
  have ended := silent state other begun
  show EndedAlike excused related agree (EStateM.bind first next state)
    (right.run other)
  unfold EStateM.bind
  unfold Ends EStateM.run at ended
  generalize first state = result at ended ⊢
  cases result with
  | ok value later => exact rest value later other ended
  | error fault later => exact ended.elim

/--
The left of two actions goes on by itself, in a way that the right one
does not notice.
-/
theorem EndAlike.leftLast
    {left : EStateM Fault σ α}
    {right : EStateM Fault σ β}
    {next : α → EStateM Fault σ γ}
    {further : γ → β → Prop}
    (pair : EndAlike excused related agree left right)
    (silent : ∀ value other, agree value other → ∀ state last,
      related state last → Ends (next value) state (fun result later =>
        further result other ∧ related later last) (fun _ _ => False)) :
    EndAlike excused related further (left >>= next) right := by
  intro state last begun
  have ended := pair state last begun
  show EndedAlike excused related further (EStateM.bind left next state)
    (right.run last)
  unfold EStateM.bind
  unfold EStateM.run at ended ⊢
  generalize left state = result at ended ⊢
  generalize right last = other at ended ⊢
  cases ended with
  | @values value other later last agrees still =>
      have onward := silent value other agrees later last still
      dsimp only
      unfold Ends EStateM.run at onward
      generalize next value later = outcome at onward ⊢
      cases outcome with
      | ok value later => exact .values onward.1 onward.2
      | error fault later => exact onward.elim
  | faults still => exact .faults still
  | left excuses => exact .left excuses
  | right excuses => exact .right excuses

theorem EndAlike.ite
    {condition : Prop}
    [Decidable condition]
    {yes no : EStateM Fault σ α}
    {positive negative : EStateM Fault σ β}
    (whenTrue : EndAlike excused related agree yes positive)
    (whenFalse : EndAlike excused related agree no negative) :
    EndAlike excused related agree (if condition then yes else no)
      (if condition then positive else negative) := by
  split
  · exact whenTrue
  · exact whenFalse

/--
What an action beside itself preserves of a state and the same state, it
preserves of the state.
-/
theorem EndAlike.preserves
    {kept : σ → Prop}
    {action : EStateM Fault σ α}
    (pair : EndAlike (fun _ => False)
      (fun left right => left = right ∧ kept left) Eq action action)
    {state : σ}
    (begins : kept state) :
    Ends action state (fun _ later => kept later)
      (fun _ later => kept later) := by
  have ended := pair state state ⟨rfl, begins⟩
  unfold Ends
  generalize action.run state = result at ended ⊢
  cases ended with
  | values _ still => exact still.2
  | faults still => exact still.2
  | left impossible => exact impossible.elim
  | right impossible => exact impossible.elim

end Rules

section Operations

variable {α : Type} {excused : Fault → Prop} {related : World → World → Prop}

theorem endAlike_ofExcept (result : Except Fault α) :
    EndAlike excused related Eq (Operation.ofExcept result)
      (Operation.ofExcept result) := by
  cases result with
  | ok value => exact endAlike_pure rfl
  | error fault => exact endAlike_throw fault

@[simp]
theorem mapState_id {σ : Type} (result : EStateM.Result Fault σ α) :
    mapState (fun state => state) result = result := by
  cases result <;> rfl

/-- A lock is let go of whatever the result is. -/
theorem run_holding (lock : Lock) (operation : Operation α) (world : World) :
    (Operation.holding lock operation).run world =
      mapState (·.note (.released lock))
      (operation.run (world.note (.acquired lock))) := by
  simp only [Operation.holding, EStateM.run]
  cases operation (world.note (.acquired lock)) <;> rfl

theorem run_holdingResizing
    (lock : Lock)
    (resizing : Resizing α)
    (bench : Workbench) :
    (Resizing.holding lock resizing).run bench = mapState (fun later =>
      { later with world := later.world.note (.released lock) }) (resizing.run
        { bench with world := bench.world.note (.acquired lock) }) := by
  simp only [Resizing.holding, EStateM.run]
  cases resizing { bench with world := bench.world.note (.acquired lock) }
    <;> rfl

/-- An operation within a resizing leaves the contents as they are. -/
theorem run_liftM (operation : Operation α) (bench : Workbench) :
    (liftM operation : Resizing α).run bench = mapState
      (fun world => { bench with world }) (operation.run bench.world) := by
  simp only [Resizing.liftM_eq_ofOperation, Resizing.ofOperation, EStateM.run]
  cases operation bench.world <;> rfl

end Operations

end BufferBudget
