import BufferBudget.Proofs.Ledger
import BufferBudget.Proofs.Requests
import Mathlib.Algebra.GroupWithZero.Nat

/-!
# What is outstanding is what is held

The contract of sources about the books, carried up to the calls of a session.
What a mediator has outstanding is what the held buffers cost of it, and every
call keeps that, provided that buffers are resized through the allocators that
they came from and mediators are asked and paid by allocators only.

A call that stops at the arithmetic of a tracker may leave more outstanding than
the held buffers cost, and never less.  The difference is the slack of a
session; it is zero as long as no call stops.
-/

namespace BufferBudget

namespace Shelf

variable {α : Type}

/-- The sum of what the values of a list weigh. -/
def totalIn (weight : α → Nat) (places : List (Nat × α)) : Nat :=
  (places.map fun place => weight place.2).sum

/-- The sum of what the values on a shelf weigh. -/
def total (weight : α → Nat) (shelf : Shelf α) : Nat :=
  totalIn weight shelf.toList

/-- What a value weighs, if there is one. -/
def weightOf (weight : α → Nat) : Option α → Nat
  | none => 0
  | some value => weight value

variable {weight : α → Nat} {key : Nat}

theorem totalIn_cons (place : Nat × α) (rest : List (Nat × α)) :
    totalIn weight (place :: rest) = weight place.2 + totalIn weight rest :=
  rfl

theorem totalIn_insertInto
    (value : α)
    {places : List (Nat × α)}
    (increasing : places.Pairwise fun left right => left.1 < right.1) :
    totalIn weight (insertInto key value places) + weightOf weight
        (lookupIn key places) = totalIn weight places + weight value := by
  induction places with
  | nil => exact Nat.add_comm (weight value) 0
  | cons place rest ih =>
      obtain ⟨held, content⟩ := place
      obtain ⟨below, tail⟩ := List.pairwise_cons.mp increasing
      rw [insertInto, lookupIn]
      by_cases less : key < held
      · have absent : lookupIn key rest = none := lookupIn_eq_none_of_forall_lt
          fun other member => Nat.lt_trans less (below other member)
        rw [if_pos less, if_neg (Nat.ne_of_gt less), absent]
        simp only [totalIn_cons, weightOf]
        omega
      · rw [if_neg less]
        by_cases same : key = held
        · rw [if_pos same, if_pos same.symm]
          simp only [totalIn_cons, weightOf]
          omega
        · rw [if_neg same, if_neg (Ne.symm same)]
          have others := ih tail
          simp only [totalIn_cons]
          omega

/--
Putting a value on a shelf adds what it weighs, less what the one in
its place did.
-/
theorem total_insert (shelf : Shelf α) (key : Nat) (value : α) :
    (shelf.insert key value).total weight + weightOf weight (shelf.find? key) =
      shelf.total weight + weight value :=
  totalIn_insertInto value shelf.increasing

theorem totalIn_filter_ne
    {places : List (Nat × α)}
    (increasing : places.Pairwise fun left right => left.1 < right.1) :
    totalIn weight (places.filter fun place => place.1 != key) +
        weightOf weight (lookupIn key places) = totalIn weight places := by
  induction places with
  | nil => rfl
  | cons place rest ih =>
      obtain ⟨held, content⟩ := place
      obtain ⟨below, tail⟩ := List.pairwise_cons.mp increasing
      have others := ih tail
      rw [lookupIn]
      by_cases same : held = key
      · have absent : lookupIn key rest = none := lookupIn_eq_none_of_forall_lt
          fun other member => same ▸ below other member
        rw [absent] at others
        rw [if_pos same, List.filter_cons_of_neg (by simp [same])]
        simp only [totalIn_cons, weightOf] at others ⊢
        omega
      · rw [if_neg same, List.filter_cons_of_pos (by simp [same])]
        simp only [totalIn_cons]
        omega

/-- Emptying a place takes away what the value in it weighs. -/
theorem total_erase (shelf : Shelf α) (key : Nat) :
    (shelf.erase key).total weight + weightOf weight (shelf.find? key) =
      shelf.total weight :=
  totalIn_filter_ne shelf.increasing

end Shelf

/-- What a buffer costs of a mediator. -/
def Buffer.cost (buffer : Buffer) (mediator : Nat) : Nat :=
  buffer.originator.cost mediator buffer.size

namespace Allocator

variable {allocator : Allocator} {mediator rest requested minimal : Nat}

theorem balanced_allocate
    {world : World}
    (stands : Stands mediator rest world)
    (size : requested ≤ Size.limit) :
    Ends (allocator.allocate requested minimal) world
      (fun result later => (result = none → Stands mediator rest later) ∧
        ∀ buffer, result = some buffer →
          Stands mediator (rest + buffer.cost mediator) later)
      (fun _ later => Over mediator rest later) := by
  refine allocate_rule (fun result later =>
    Stands mediator (rest + priceOf (allocator.cost mediator) result) later)
    ?inverted ?called ?told
  case inverted => exact fun _ => stands.over (Nat.le_refl rest)
  case called =>
    exact fun accepted =>
      (allocator.balanced_source mediator).allocate stands accepted size
  case told =>
    intro result later standing diagnostics
    have told := standing.tell diagnostics
    cases result with
    | none => exact ⟨fun _ => told, nofun⟩
    | some contents =>
        refine ⟨nofun, ?_⟩
        rintro _ ⟨⟩
        exact told

theorem stands_readAvailable
    {world : World}
    (stands : Stands mediator rest world) :
    Ends allocator.source.readAvailable world
      (fun _ later => Stands mediator rest later)
      (fun _ later => Over mediator rest later) := by
  have read := stands.noteAll fun event member =>
    (allocator.stepwise_source.readLocks world event member).aside
  exact Source.readAvailable_rule (fun _ _ => read) fun _ _ =>
    read.over (Nat.le_refl rest)

theorem balanced_tryAllocate
    {world : World}
    (stands : Stands mediator rest world)
    (size : requested ≤ Size.limit) :
    Ends (allocator.tryAllocate requested minimal) world (fun result later =>
      (∀ refusal, result = .error refusal → Stands mediator rest later) ∧
        ∀ buffer, result = .ok buffer →
          Stands mediator (rest + buffer.cost mediator) later)
      (fun _ later => Over mediator rest later) := by
  refine tryAllocate_rule (balanced_allocate stands size) ?given ?read
  case given =>
    rintro buffer later ⟨-, standing⟩
    refine ⟨nofun, ?_⟩
    rintro _ ⟨⟩
    exact standing buffer rfl
  case read =>
    rintro later ⟨standing, -⟩
    exact (stands_readAvailable (standing rfl)).mono
      (fun _ _ read => ⟨fun _ _ => read, nofun⟩) (fun _ _ stopped => stopped)

theorem balanced_resize
    {bench : Workbench}
    (stands : Stands mediator
      (rest + allocator.cost mediator bench.contents.size) bench.world)
    (size : requested ≤ Size.limit) :
    Ends (allocator.resize requested minimal) bench
      (fun _ later => Stands mediator
        (rest + allocator.cost mediator later.contents.size) later.world)
      (fun _ later => Over mediator
        (rest + allocator.cost mediator later.contents.size) later.world) := by
  refine resize_rule (fun _ later => Stands mediator
    (rest + allocator.cost mediator later.contents.size) later.world)
    ?inverted ?called ?told
  case inverted => exact fun _ => stands.over (Nat.le_refl _)
  case called =>
    exact fun accepted =>
      (allocator.balanced_source mediator).resize stands accepted size
  case told => exact fun _ _ standing diagnostics => standing.tell diagnostics

theorem balanced_tryResize
    {bench : Workbench}
    (stands : Stands mediator
      (rest + allocator.cost mediator bench.contents.size) bench.world)
    (size : requested ≤ Size.limit) :
    Ends (allocator.tryResize requested) bench (fun _ later => Stands mediator
      (rest + allocator.cost mediator later.contents.size) later.world)
      (fun _ later => Over mediator
        (rest + allocator.cost mediator later.contents.size) later.world) :=
  tryResize_rule _ (balanced_resize stands size) (fun _ standing => standing)
    (fun _ standing => standing)

end Allocator

namespace Session

/-- What the held buffers cost of a mediator. -/
def charged (session : Session) (mediator : Nat) : Nat :=
  session.shelf.total (·.cost mediator)

/--
What is outstanding at a mediator is what the held buffers cost of it,
and the slack.
-/
def Holds (session : Session) (mediator slack : Nat) : Prop :=
  Stands mediator (session.charged mediator + slack) session.world

/--
A call that has been given an answer has ended with the slack that there was, or
has stopped with at least as much.
-/
def Keeps (session : Session) (mediator slack : Nat) (answer : Answer) : Prop :=
  ∃ more, slack ≤ more ∧ session.Holds mediator more ∧
    (answer.fault? = none → more = slack)

/--
The calls that keep the books: their figures are sizes, a buffer is
resized through the allocator that it came from, and mediators are left to
the allocators.
-/
def Admits (session : Session) : Call → Prop
  | .allocate _ _ requested _ => requested ≤ Size.limit
  | .tryAllocate _ _ requested _ => requested ≤ Size.limit
  | .resizeSlot handle allocator requested _ =>
      requested ≤ Size.limit ∧
        ∀ buffer, session.shelf.find? handle = some buffer →
          allocator = buffer.originator
  | .resize handle through requested _ =>
      requested ≤ Size.limit ∧
        ∀ buffer, session.shelf.find? handle = some buffer →
          through.getD buffer.originator = buffer.originator
  | .tryResize handle through requested =>
      requested ≤ Size.limit ∧
        ∀ buffer, session.shelf.find? handle = some buffer →
          through.getD buffer.originator = buffer.originator
  | .setCeiling _ ceiling => ceiling ≤ Size.limit
  | .mediatorAllocate _ _ _ => False
  | .mediatorFree _ _ => False
  | _ => True

variable {session : Session} {mediator slack handle : Nat}

theorem keeps_of_stands
    (stands : Stands mediator (session.charged mediator + slack) session.world)
    (answer : Answer) :
    session.Keeps mediator slack answer :=
  ⟨slack, Nat.le_refl slack, stands, fun _ => rfl⟩

theorem keeps_of_over
    (above : Over mediator (session.charged mediator + slack) session.world)
    {answer : Answer}
    {fault : Fault}
    (stopped : answer.fault? = some fault) :
    session.Keeps mediator slack answer := by
  obtain ⟨amount, enough, stands⟩ := above
  refine ⟨amount - session.charged mediator,
    by omega, stands.congr (by omega), ?_⟩
  rw [stopped]
  exact nofun

theorem Keeps.holds
    {answer : Answer}
    (keeps : session.Keeps mediator slack answer)
    (ended : answer.fault? = none) :
    session.Holds mediator slack := by
  obtain ⟨more, -, holds, same⟩ := keeps
  exact same ended ▸ holds

theorem charged_insert
    (session : Session)
    (handle : Nat)
    (buffer : Buffer)
    (world : World)
    (mediator : Nat) :
    ({ world, shelf := session.shelf.insert handle buffer } :
      Session).charged mediator +
        Shelf.weightOf (·.cost mediator) (session.shelf.find? handle) =
      session.charged mediator + buffer.cost mediator :=
  session.shelf.total_insert handle buffer

theorem charged_erase
    (session : Session)
    (handle : Nat)
    (world : World)
    (mediator : Nat) :
    ({ world, shelf := session.shelf.erase handle } :
      Session).charged mediator +
        Shelf.weightOf (·.cost mediator) (session.shelf.find? handle) =
      session.charged mediator :=
  session.shelf.total_erase handle

/--
A session that gives back what a handle holds has nothing under the
handle afterwards.
-/
theorem find?_release (session : Session) (handle : Nat) :
    (session.release handle).2.shelf.find? handle = none := by
  refine release_rule (fun _ later => later.shelf.find? handle = none)
    (fun vacant => vacant) fun buffer _ => ?_
  have emptied : (session.shelf.erase handle).find? handle = none := by
    rw [Shelf.find?_erase, if_pos rfl]
  rw [ends_iff_perform]
  split
  · exact emptied
  · exact emptied

theorem keeps_release (holds : session.Holds mediator slack) (handle : Nat) :
    (session.release handle).2.Keeps mediator slack
      (.freed (session.release handle).1) := by
  refine release_rule
    (fun result later => later.Keeps mediator slack (.freed result))
    (fun _ => keeps_of_stands holds _) fun buffer held => ?_
  have fewer : ∀ world,
      ({ world, shelf := session.shelf.erase handle } : Session).charged
        mediator + buffer.cost mediator = session.charged mediator := by
    intro world
    have erased := session.charged_erase handle world mediator
    rwa [held] at erased
  have begins : Stands mediator
      (({ session with shelf := session.shelf.erase handle } : Session).charged
          mediator + slack + buffer.cost mediator) session.world :=
    holds.congr (by have less := fewer session.world; omega)
  exact ((buffer.originator.balanced_source mediator).free begins).mono
    (fun _ _ stands => keeps_of_stands stands _)
    (fun _ _ above => keeps_of_over above rfl)

/--
A buffer that is put under an empty handle costs what it has been charged.
-/
theorem holds_insert
    (vacant : session.shelf.find? handle = none)
    {buffer : Buffer}
    {later : World}
    (stands : Stands mediator
      (session.charged mediator + slack + buffer.cost mediator) later) :
    ({ world := later, shelf := session.shelf.insert handle buffer } :
      Session).Holds mediator slack := by
  have more := session.charged_insert handle buffer later mediator
  rw [vacant] at more
  exact stands.congr (by simp only [Shelf.weightOf] at more; omega)

theorem keeps_allocateInto
    (holds : session.Holds mediator slack)
    (vacant : session.shelf.find? handle = none)
    (allocator : Allocator)
    {requested : Nat}
    (minimal : Nat)
    (size : requested ≤ Size.limit)
    (answer : Except Fault (Option Contents) → Answer)
    (reports : ∀ fault, (answer (.error fault)).fault? = some fault) :
    (session.allocateInto handle allocator requested minimal).2.Keeps
      mediator slack
      (answer (session.allocateInto handle allocator requested minimal).1) := by
  refine allocateInto_rule
    (fun result later => later.Keeps mediator slack (answer result)) ?_
  refine (Allocator.balanced_allocate holds size).mono ?_
    (fun fault _ above => keeps_of_over above (reports fault))
  rintro result later ⟨refused, given⟩
  exact ⟨fun none => keeps_of_stands (refused none) _, fun buffer made =>
    keeps_of_stands (holds_insert vacant (given buffer made)) _⟩

theorem keeps_tryAllocateInto
    (holds : session.Holds mediator slack)
    (vacant : session.shelf.find? handle = none)
    (allocator : Allocator)
    {requested : Nat}
    (minimal : Nat)
    (size : requested ≤ Size.limit) :
    (session.tryAllocateInto handle allocator requested minimal).2.Keeps
      mediator slack (.tried
        (session.tryAllocateInto handle allocator requested minimal).1) := by
  refine tryAllocateInto_rule
    (fun result later => later.Keeps mediator slack (.tried result)) ?_
  refine (Allocator.balanced_tryAllocate holds size).mono ?_
    (fun _ _ above => keeps_of_over above rfl)
  rintro result later ⟨refused, given⟩
  exact ⟨fun refusal made => keeps_of_stands (refused refusal made) _,
    fun buffer made =>
    keeps_of_stands (holds_insert vacant (given buffer made)) _⟩

/--
A buffer that is resized in its place costs what it has been charged
for its new size.
-/
theorem keeps_resizeHeld
    {α : Type}
    {resizing : Resizing α}
    {buffer : Buffer}
    (holds : session.Holds mediator slack)
    (held : session.shelf.find? handle = some buffer)
    (balanced : ∀ rest,
      Stands mediator (rest + buffer.cost mediator) session.world →
      Ends resizing { world := session.world, contents := buffer.contents }
      (fun _ later => Stands mediator (rest + buffer.originator.cost mediator
        later.contents.size) later.world) (fun _ later => Over mediator (rest +
          buffer.originator.cost mediator later.contents.size) later.world))
    (answer : Except Fault α → Contents → Answer)
    (reports : ∀ fault contents,
      (answer (.error fault) contents).fault? = some fault) :
    (session.resizeHeld handle buffer resizing).2.2.Keeps mediator slack
      (answer (session.resizeHeld handle buffer resizing).1
        (session.resizeHeld handle buffer resizing).2.1) := by
  refine resizeHeld_rule (fun result contents later =>
    later.Keeps mediator slack (answer result contents)) ?_
  have others := session.charged_erase handle session.world mediator
  rw [held] at others
  have begins : Stands mediator (session.charged mediator -
      buffer.cost mediator + slack + buffer.cost mediator) session.world :=
    holds.congr (by simp only [Shelf.weightOf] at others; omega)
  refine (balanced _ begins).mono ?_ ?_
  · intro _ later stands
    have more := session.charged_insert handle
      { buffer with contents := later.contents } later.world mediator
    rw [held] at more
    refine keeps_of_stands (stands.congr ?_) _
    simp only [Shelf.weightOf, Buffer.cost, Buffer.size] at more others ⊢
    omega
  · intro fault later above
    have more := session.charged_insert handle
      { buffer with contents := later.contents } later.world mediator
    rw [held] at more
    refine keeps_of_over (above.weaken ?_) (reports fault _)
    simp only [Shelf.weightOf, Buffer.cost, Buffer.size] at more others ⊢
    omega

theorem keeps_run
    {α : Type}
    {operation : Operation α}
    (ended : Ends operation session.world
      (fun _ later => Stands mediator (session.charged mediator + slack) later)
      (fun _ later => Over mediator (session.charged mediator + slack) later))
    (answer : Except Fault α → Answer)
    (reports : ∀ fault, (answer (.error fault)).fault? = some fault) :
    (session.run operation).2.Keeps mediator slack
      (answer (session.run operation).1) :=
  run_rule (fun result later => later.Keeps mediator slack (answer result))
    (ended.mono (fun _ _ stands => keeps_of_stands stands _)
      fun fault _ above => keeps_of_over above (reports fault))

theorem keeps_performNew
    {next : Session → Answer × Session}
    {stopped : Fault → Answer}
    (holds : session.Holds mediator slack)
    (handle : Nat)
    (onwards : ∀ later : Session, later.Holds mediator slack →
      later.shelf.find? handle = none →
      (next later).2.Keeps mediator slack (next later).1)
    (reports : ∀ fault, (stopped fault).fault? = some fault) :
    (session.performNew handle next stopped).2.Keeps mediator slack
      (session.performNew handle next stopped).1 := by
  have kept := keeps_release holds handle
  have vacant := session.find?_release handle
  refine performNew_rule
    (fun outcome => outcome.2.Keeps mediator slack outcome.1)
    (fun fault later released => ?_) (fun _ later released => ?_)
  · rw [released] at kept
    obtain ⟨more, least, holding, -⟩ := kept
    exact ⟨more, least, holding, fun ended =>
      nomatch (reports fault).symm.trans ended⟩
  · rw [released] at kept vacant
    exact onwards later (kept.holds rfl) vacant

theorem keeps_performHeld
    {next : Buffer → Answer × Session}
    (holds : session.Holds mediator slack)
    (handle : Nat)
    (onwards : ∀ buffer, session.shelf.find? handle = some buffer →
      (next buffer).2.Keeps mediator slack (next buffer).1) :
    (session.performHeld handle next).2.Keeps mediator slack
      (session.performHeld handle next).1 :=
  performHeld_rule (fun outcome => outcome.2.Keeps mediator slack outcome.1)
    (fun _ => keeps_of_stands holds _) onwards

theorem keeps_performWrite
    (holds : session.Holds mediator slack)
    (handle : Nat)
    (edit : Contents → Contents)
    (sameSize : ∀ contents, (edit contents).size = contents.size) :
    (session.performWrite handle edit).2.Keeps mediator slack
      (session.performWrite handle edit).1 := by
  refine keeps_performHeld holds handle fun buffer held => ?_
  have same := session.charged_insert handle
    { buffer with contents := edit buffer.contents } session.world mediator
  rw [held] at same
  have holding : (session.hold handle
      { buffer with contents := edit buffer.contents }).Holds
      mediator slack := by
    refine holds.congr ?_
    simp only [Shelf.weightOf, Buffer.cost, Buffer.size, sameSize, hold]
        at same ⊢
    omega
  exact keeps_of_stands holding _

/-- Every call that may be made keeps the books. -/
theorem keeps_perform
    (holds : session.Holds mediator slack)
    {call : Call}
    (admits : session.Admits call) :
    (session.perform call).2.Keeps mediator slack (session.perform call).1 := by
  have same :
      Stands mediator (session.charged mediator + slack) session.world := holds
  cases call with
  | allocate handle allocator requested minimal =>
      exact keeps_performNew holds handle (fun _ holding vacant =>
        keeps_allocateInto holding vacant allocator minimal admits
        Answer.allocated fun _ => rfl) (fun _ => rfl)
  | tryAllocate handle allocator requested minimal =>
      exact keeps_performNew holds handle (fun _ holding vacant =>
        keeps_tryAllocateInto holding vacant allocator minimal admits)
        (fun _ => rfl)
  | resizeSlot handle allocator requested minimal =>
      rw [perform]
      split
      · rename_i vacant
        exact keeps_allocateInto holds vacant allocator minimal admits.1
          (fun result => .resized (result.map Option.isSome)
            (result.toOption.bind id)) fun _ => rfl
      · rename_i buffer held
        obtain rfl := admits.2 buffer held
        exact keeps_resizeHeld holds held
          (fun _ begins => Allocator.balanced_resize begins admits.1)
          (fun result contents => .resized result (some contents))
          fun _ _ => rfl
  | resize handle through requested minimal =>
      refine keeps_performHeld holds handle fun buffer held => ?_
      dsimp only
      rw [admits.2 buffer held]
      exact keeps_resizeHeld holds held
        (fun _ begins => Allocator.balanced_resize begins admits.1)
        (fun result contents => .resized result (some contents)) fun _ _ => rfl
  | tryResize handle through requested =>
      refine keeps_performHeld holds handle fun buffer held => ?_
      dsimp only
      rw [admits.2 buffer held]
      exact keeps_resizeHeld holds held
        (fun _ begins => Allocator.balanced_tryResize begins admits.1)
        Answer.triedResize fun _ _ => rfl
  | free handle => exact keeps_release holds handle
  | fill handle byte =>
      exact keeps_performWrite holds handle (fun contents => contents.fill byte)
        fun contents => contents.size_fill byte
  | write handle offset bytes =>
      exact keeps_performWrite holds handle
        (fun contents => contents.write offset bytes) fun contents =>
        contents.size_write offset bytes
  | read handle =>
      exact keeps_performHeld holds handle fun _ _ => keeps_of_stands holds _
  | originAvailable handle =>
      exact keeps_performHeld holds handle fun _ _ => keeps_run
        (Allocator.stands_readAvailable same) Answer.available fun _ => rfl
  | describe handle address =>
      exact keeps_performHeld holds handle fun _ _ => keeps_of_stands holds _
  | setCeiling own ceiling =>
      refine keeps_run
        ((Mediation.ends_setCeiling own ceiling session.world).sure ?_)
        Answer.done fun _ => rfl
      exact fun _ later came =>
        same.around came fun _ _ standing => standing.setCeiling own admits
  | mediatorAllocate own requested minimal => exact admits.elim
  | mediatorFree own amount => exact admits.elim
  | tryConsume lineage bytes =>
      exact keeps_run ((Charging.tracks_tryConsume lineage bytes).stands same)
        Answer.admitted fun _ => rfl
  | consume lineage bytes =>
      exact keeps_run ((Charging.tracks_consume lineage bytes).stands same)
        Answer.done fun _ => rfl
  | release lineage bytes =>
      exact keeps_run ((Charging.tracks_release lineage bytes).stands same)
        Answer.done fun _ => rfl

end Session

/-- No mediator has been called in a fresh world. -/
theorem World.Fresh.calls_eq_nil
    {world : World}
    (fresh : world.Fresh)
    (mediator : Nat) :
    world.calls mediator = [] := by
  refine List.filterMap_eq_nil_iff.mpr fun event member => ?_
  exact (fresh.trail event member).aside.mediatorCall? mediator

/-- Nothing is outstanding in a fresh world. -/
theorem World.Fresh.stands
    {world : World}
    (fresh : world.Fresh)
    (mediator : Nat) :
    Stands mediator 0 world := by
  have none := fresh.calls_eq_nil mediator
  have nothing : world.balance mediator = 0 := by
    rw [World.balance, none]
    rfl
  refine ⟨fresh.orderly, ⟨none ▸ trivial, fun quota held => ?_⟩, nothing⟩
  have unused := fresh.mediators mediator
  rw [held] at unused
  rw [nothing, unused.1]
  rfl

namespace Session

/-- The calls that keep the books and do not stop. -/
def AdmitsEnding (session : Session) (call : Call) : Prop :=
  session.Admits call ∧ (session.perform call).1.fault? = none

theorem holds_performAll
    {world : World}
    (fresh : world.Fresh)
    {calls : List Call}
    (follows : (start world).Follows AdmitsEnding calls)
    (mediator : Nat) :
    ((start world).performAll calls).Holds mediator 0 :=
  follows.invariant (·.Holds mediator 0)
    (fun _ _ admits holds => (keeps_perform holds admits.1).holds admits.2)
    (fresh.stands mediator)

/--
After any run that keeps the books and does not stop, from any accounts that are
fresh, what a mediator has granted and not been paid back is the size of each
buffer that is held, as often as the allocator that it goes back to charges the
mediator.  This is the usage of a quota, and no payment on the way was larger
than what was outstanding.
-/
theorem balance_eq_charged
    {world : World}
    (fresh : world.Fresh)
    {calls : List Call}
    (follows : (start world).Follows AdmitsEnding calls)
    (mediator : Nat) :
    let session := (start world).performAll calls
    session.world.balance mediator = session.charged mediator ∧
      (∀ quota, session.world.mediators.entry mediator = .ofQuota quota →
        quota.usage = session.charged mediator) ∧
          MediatorCall.Covered (session.world.calls mediator) := by
  intro session
  have stands : Stands mediator (session.charged mediator) session.world :=
    holds_performAll fresh follows mediator
  refine ⟨stands.balance, fun quota held => ?_, stands.booked.covered⟩
  have usage := stands.booked.usage quota held
  rw [stands.balance] at usage
  exact Int.ofNat.inj usage

/--
A quota that is charged twice for each byte, under a mediator that grants half
of what it is asked for: 60 and 8 bytes are held in the end.
-/
theorem balance_eq_charged_of_quota_on_path_twice :
    let half : Mediator := .ofArbiter (.scripted [] (· / 2))
    let allocator : Allocator :=
      { layers := [.mediated 1, .mediated 0, .clearing, .mediated 0],
        heap := .standard }
    let session := (start
      (.start [.ofQuota (.ofCeiling 200 false false), half] [])).performAll
      [.allocate 0 allocator 60 10, .resize 0 none 90 20, .setCeiling 0 10,
        .allocate 1 allocator 40 8]
    session.charged 0 = 136 ∧ session.world.balance 0 = session.charged 0 := by
  intro half allocator session
  have fresh :
      (World.start [.ofQuota (.ofCeiling 200 false false), half] []).Fresh := by
    refine .start (fun mediator member => ?_)
      (fun _ member => absurd member List.not_mem_nil)
    rcases List.mem_cons.mp member with rfl | other
    · exact ⟨rfl, by decide⟩
    · rw [List.mem_singleton.mp other]
      exact ⟨rfl, fun history requested minimal => Nat.div_le_self requested 2⟩
  have follows :
      (start (.start [.ofQuota (.ofCeiling 200 false false), half] [])).Follows
        AdmitsEnding [.allocate 0 allocator 60 10, .resize 0 none 90 20,
          .setCeiling 0 10, .allocate 1 allocator 40 8] := by
    have small : ∀ size ≤ 90, size ≤ Size.limit :=
      fun _ less => Nat.le_trans less (by decide)
    refine ⟨⟨small 60 (by decide), ?_⟩,
      ⟨⟨small 90 (by decide), fun _ _ => rfl⟩, ?_⟩,
      ⟨small 10 (by decide), ?_⟩, ⟨small 40 (by decide), ?_⟩, trivial⟩
    all_goals decide +kernel
  exact ⟨by decide +kernel, (balance_eq_charged fresh follows 0).1⟩

end Session

end BufferBudget
