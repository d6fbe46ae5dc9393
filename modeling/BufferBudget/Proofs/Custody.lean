import BufferBudget.Proofs.Accounting
import BufferBudget.Proofs.Register

/-!
# What held buffers are charged

The contract of sources about a register, carried up to the calls of a session.
A custody names the allocators that may be used and what their buffers cost.
After every call that keeps to it, the held buffers are charged to the accounts
of the register, and besides them the slack of the session.

The slack grows only where a call stops with an excuse; any other call is
answered, unless it is a request that accepts no less than more than it asks
for, and such a request changes nothing of what is charged.
-/

namespace BufferBudget

/-- A request accepts no less than more than it asks for. -/
def Call.Inverted (call : Call) : Prop :=
  ∃ requested minimal, call.request? = some (requested, minimal) ∧
    requested < minimal

theorem Call.not_inverted
    {call : Call}
    {requested minimal : Nat}
    (request : call.request? = some (requested, minimal))
    (accepted : minimal ≤ requested) :
    ¬call.Inverted := by
  rintro ⟨asked, least, same, less⟩
  obtain ⟨rfl, rfl⟩ := Prod.mk.inj (Option.some.inj (request.symm.trans same))
  exact absurd less (Nat.not_lt.mpr accepted)

/--
The allocators that may be used, which keep a register, each at a price of its
own, and the lineages that may be charged past all allocators, which have no
account in it.
-/
structure Custody where
  register : Register
  Uses : Allocator → Prop
  cost : Allocator → Nat → Nat → Nat
  keeps : ∀ allocator, Uses allocator →
    allocator.source.Registers register (cost allocator)
  Frees : Lineage → Prop
  frees : ∀ {lineage}, Frees lineage → ∀ {α : Type} {operation : Operation α},
      operation.Tracks lineage.members →
      ∀ {amounts world}, register.At amounts world →
      Ends operation world (fun _ later => register.At amounts later)
        (fun _ later => register.Past amounts later)

namespace Custody

variable {custody : Custody}

/-- What a buffer costs of an account. -/
def price (custody : Custody) (key : Nat) (buffer : Buffer) : Nat :=
  custody.cost buffer.originator buffer.size key

/-- What the held buffers cost of an account. -/
def charged (custody : Custody) (session : Session) (key : Nat) : Nat :=
  session.shelf.total (custody.price key)

/--
All buffers come from allocators that may be used, and have sizes that
they may have.
-/
def Owns (custody : Custody) (shelf : Shelf Buffer) : Prop :=
  ∀ handle buffer, shelf.find? handle = some buffer →
    custody.Uses buffer.originator ∧ custody.register.Fits buffer.size

/--
What is charged to the accounts is what the held buffers cost, and the slack.
-/
structure Holds (custody : Custody) (slack : Nat → Nat) (session : Session) :
    Prop where
  charged : custody.register.At
    (fun key => custody.charged session key + slack key) session.world
  owns : custody.Owns session.shelf

/--
A call has been answered with the slack that there was, or has stopped with
an excuse and with at least as much.  A call that is inverted may stop
without an excuse.
-/
def Settles
    (custody : Custody)
    (slack : Nat → Nat)
    (call : Call)
    (outcome : Answer × Session) : Prop :=
  ∃ more, (∀ key, slack key ≤ more key) ∧ custody.Holds more outcome.2 ∧
    (outcome.1.fault? ≠ none ∧ custody.register.Excuse outcome.2.world ∨
      more = slack ∧ (outcome.1.fault? = none ∨ call.Inverted))

/--
The calls that keep to a custody: they name allocators that may be used, and
resize a buffer through the allocator that it came from.
-/
def Admits (custody : Custody) (session : Session) : Call → Prop
  | .allocate _ allocator _ _ => custody.Uses allocator
  | .tryAllocate _ allocator _ _ => custody.Uses allocator
  | .resizeSlot handle allocator _ _ =>
      custody.Uses allocator ∧
        ∀ buffer, session.shelf.find? handle = some buffer →
          allocator = buffer.originator
  | .resize handle through _ _ =>
      ∀ buffer, session.shelf.find? handle = some buffer →
        through.getD buffer.originator = buffer.originator
  | .tryResize handle through _ =>
      ∀ buffer, session.shelf.find? handle = some buffer →
        through.getD buffer.originator = buffer.originator
  | _ => True

/--
A call does not go to a tracker past all allocators, but if the lineage is free.
-/
def Leaves (custody : Custody) : Call → Prop
  | .tryConsume lineage _ | .consume lineage _ | .release lineage _ =>
      custody.Frees lineage
  | _ => True

/--
The calls that keep to a custody, with figures that are sizes, and leave to the
allocators the trackers that are not free.
-/
def Allows (custody : Custody) (session : Session) (call : Call) : Prop :=
  call.Sized ∧ custody.Leaves call ∧ custody.Admits session call

section Shelves

variable {shelf : Shelf Buffer} {handle : Nat}

theorem Owns.insert
    (owns : custody.Owns shelf)
    {buffer : Buffer}
    (uses : custody.Uses buffer.originator)
    (fits : custody.register.Fits buffer.size) :
    custody.Owns (shelf.insert handle buffer) := by
  intro other held found
  rw [Shelf.find?_insert] at found
  split at found
  · obtain rfl := Option.some.inj found
    exact ⟨uses, fits⟩
  · exact owns other held found

theorem Owns.erase (owns : custody.Owns shelf) :
    custody.Owns (shelf.erase handle) := by
  intro other held found
  rw [Shelf.find?_erase] at found
  split at found
  · exact nomatch found
  · exact owns other held found

end Shelves

variable {slack : Nat → Nat} {session : Session} {handle : Nat} {call : Call}

theorem charged_insert
    (session : Session)
    (handle : Nat)
    (buffer : Buffer)
    (world : World)
    (key : Nat) :
    custody.charged { world, shelf := session.shelf.insert handle buffer } key +
        Shelf.weightOf (custody.price key) (session.shelf.find? handle) =
      custody.charged session key + custody.price key buffer :=
  session.shelf.total_insert handle buffer

theorem charged_erase
    (session : Session)
    (handle : Nat)
    (world : World)
    (key : Nat) :
    custody.charged { world, shelf := session.shelf.erase handle } key +
        Shelf.weightOf (custody.price key) (session.shelf.find? handle) =
      custody.charged session key :=
  session.shelf.total_erase handle

theorem settles_of_holds
    (holds : custody.Holds slack session)
    {answer : Answer}
    (answered : answer.fault? = none ∨ call.Inverted) :
    custody.Settles slack call (answer, session) :=
  ⟨slack, fun key => Nat.le_refl (slack key), holds, .inr ⟨rfl, answered⟩⟩

/-- A call has stopped with an excuse, and at least the slack that there was. -/
def Stalls (custody : Custody) (slack : Nat → Nat) (session : Session) : Prop :=
  custody.Owns session.shelf ∧
    custody.register.Past
      (fun key => custody.charged session key + slack key) session.world

/-- What is charged beyond what the held buffers cost is slack. -/
theorem Stalls.settles
    (stalls : custody.Stalls slack session)
    {answer : Answer}
    {fault : Fault}
    (stopped : answer.fault? = some fault) :
    custody.Settles slack call (answer, session) := by
  rcases stalls with ⟨owns, amounts, enough, charged, excuse⟩
  have above : ∀ key, custody.charged session key + slack key ≤
      amounts key := enough
  refine ⟨fun key => amounts key - custody.charged session key, fun key =>
    ?_, ⟨?_, owns⟩, .inl ⟨?_, excuse⟩⟩
  · exact Nat.le_sub_of_add_le' (above key)
  · refine charged.congr fun key => ?_
    exact (Nat.add_sub_cancel'
      (Nat.le_trans (Nat.le_add_right _ _) (above key))).symm
  · exact stopped ▸ nofun

section Requests

variable
    {allocator : Allocator}
    {rest : Nat → Nat}
    {requested minimal : Nat}
    {world : World}

/-- A buffer has been made by an allocator and is paid for. -/
def Sells
    (custody : Custody)
    (allocator : Allocator)
    (rest : Nat → Nat)
    (buffer : Buffer)
    (world : World) : Prop :=
  buffer.originator = allocator ∧ custody.register.Fits buffer.size ∧
    custody.register.At (fun key => rest key + custody.price key buffer) world

/--
A call has stopped because the request was wrong, with nothing changed, or
with an excuse.
-/
def Halts
    (custody : Custody)
    (wrong : Prop)
    (rest : Nat → Nat)
    (world : World) : Prop :=
  wrong ∧ custody.register.At rest world ∨ custody.register.Past rest world

theorem sells_allocate
    (uses : custody.Uses allocator)
    (charged : custody.register.At rest world)
    (size : requested ≤ Size.limit) :
    Ends (allocator.allocate requested minimal) world
      (fun result later => (result = none → custody.register.At rest later) ∧
        ∀ buffer, result = some buffer →
          custody.Sells allocator rest buffer later)
      (fun _ later => custody.Halts (requested < minimal) rest later) := by
  refine Allocator.allocate_rule
    (custody.register.Paid (custody.cost allocator) rest)
    ?inverted ?called ?told
  case inverted => exact fun wrong => .inl ⟨wrong, charged⟩
  case called =>
    intro accepted
    exact ((custody.keeps allocator uses).allocate charged accepted size).mono
      (fun _ _ paid => paid) (fun _ _ stopped => .inr stopped)
  case told =>
    intro result later paid diagnostics
    have told := paid.1.tell diagnostics
    cases result with
    | none => exact ⟨fun _ => told, nofun⟩
    | some contents =>
        refine ⟨nofun, ?_⟩
        rintro _ ⟨⟩
        exact ⟨rfl, paid.2 contents rfl, told⟩

theorem reads_available
    (uses : custody.Uses allocator)
    (charged : custody.register.At rest world) :
    Ends allocator.source.readAvailable world
      (fun _ later => custody.register.At rest later)
      (fun _ later => custody.register.Past rest later) :=
  (custody.keeps allocator uses).readAvailable allocator.stepwise_source charged

theorem sells_tryAllocate
    (uses : custody.Uses allocator)
    (charged : custody.register.At rest world)
    (size : requested ≤ Size.limit) :
    Ends (allocator.tryAllocate requested minimal) world (fun result later =>
        (∀ refusal, result = .error refusal → custody.register.At rest later) ∧
          ∀ buffer, result = .ok buffer →
            custody.Sells allocator rest buffer later)
      (fun _ later => custody.Halts (requested < minimal) rest later) := by
  refine Allocator.tryAllocate_rule (sells_allocate uses charged size)
    ?given ?read
  case given =>
    rintro buffer later ⟨-, sold⟩
    refine ⟨nofun, ?_⟩
    rintro _ ⟨⟩
    exact sold buffer rfl
  case read =>
    rintro later ⟨refused, -⟩
    exact (reads_available uses (refused rfl)).mono (fun _ _ read =>
      ⟨fun _ _ => read, nofun⟩) (fun _ _ stopped => .inr stopped)

variable {bench : Workbench}

/--
A call on a buffer has stopped because the request was wrong, or with an excuse.
-/
def HaltsResizing
    (custody : Custody)
    (allocator : Allocator)
    (wrong : Prop)
    (rest : Nat → Nat)
    (bench : Workbench) : Prop :=
  custody.register.Fits bench.contents.size ∧
    custody.Halts wrong
      (fun key => rest key + custody.cost allocator bench.contents.size key)
      bench.world

theorem carries_resize
    (uses : custody.Uses allocator)
    (carries : custody.register.Carries (custody.cost allocator) rest bench)
    (size : requested ≤ Size.limit) :
    Ends (allocator.resize requested minimal) bench
      (fun _ => custody.register.Carries (custody.cost allocator) rest)
      (fun _ => custody.HaltsResizing allocator
        (requested < minimal) rest) := by
  refine Allocator.resize_rule
    (fun _ => custody.register.Carries (custody.cost allocator) rest)
    ?inverted ?called ?told
  case inverted => exact fun wrong => ⟨carries.2, .inl ⟨wrong, carries.1⟩⟩
  case called =>
    intro accepted
    exact ((custody.keeps allocator uses).resize carries accepted size).mono
      (fun _ _ carried => carried)
      (fun _ _ stopped => ⟨stopped.2, .inr stopped.1⟩)
  case told =>
    exact fun _ _ carried diagnostics => ⟨carried.1.tell diagnostics, carried.2⟩

theorem carries_tryResize
    (uses : custody.Uses allocator)
    (carries : custody.register.Carries (custody.cost allocator) rest bench)
    (size : requested ≤ Size.limit) :
    Ends (allocator.tryResize requested) bench
      (fun _ => custody.register.Carries (custody.cost allocator) rest)
      (fun _ => custody.HaltsResizing allocator (requested < requested) rest) :=
  Allocator.tryResize_rule _ (carries_resize uses carries size)
    (fun _ carried => carried) (fun _ carried => carried)

end Requests

variable {requested minimal : Nat}

theorem Holds.noteless
    {later : World}
    (holds : custody.Holds slack session)
    (charged : custody.register.At
      (fun key => custody.charged session key + slack key) later) :
    custody.Holds slack { session with world := later } :=
  ⟨charged, holds.owns⟩

/-- A session gives back what a handle holds, or stops with an excuse. -/
theorem release_cases (holds : custody.Holds slack session) (handle : Nat) :
    (∀ given, (session.release handle).1 = .ok given →
      custody.Holds slack (session.release handle).2) ∧
    ∀ fault, (session.release handle).1 = .error fault →
      custody.Stalls slack (session.release handle).2 := by
  refine Session.release_rule (fun result later =>
    (∀ given, result = .ok given → custody.Holds slack later) ∧
      ∀ fault, result = .error fault → custody.Stalls slack later)
    (fun _ => ⟨fun _ _ => holds, nofun⟩) (fun buffer held => ?_)
  rcases holds.owns handle buffer held with ⟨uses, fits⟩
  have fewer : ∀ world key,
      custody.charged { world, shelf := session.shelf.erase handle } key +
        custody.price key buffer = custody.charged session key := by
    intro world key
    have erased := custody.charged_erase session handle world key
    rwa [held] at erased
  have begins : custody.register.At (fun key =>
      (custody.charged { session with shelf := session.shelf.erase handle }
          key + slack key) +
        custody.cost buffer.originator buffer.size key) session.world := by
    refine holds.charged.congr fun key => ?_
    have less := fewer session.world key
    simp only [price] at less
    omega
  refine ((custody.keeps buffer.originator uses).free begins fits).mono ?_ ?_
  · intro _ later freed
    exact ⟨fun _ _ => ⟨freed, holds.owns.erase⟩, nofun⟩
  · intro _ later stopped
    exact ⟨nofun, fun _ _ => ⟨holds.owns.erase, stopped⟩⟩

theorem settles_free (holds : custody.Holds slack session) (handle : Nat) :
    custody.Settles slack call
      (.freed (session.release handle).1, (session.release handle).2) := by
  rcases release_cases holds handle with ⟨given, stopped⟩
  cases released : (session.release handle).1 with
  | ok found => exact settles_of_holds (given found released) (.inl rfl)
  | error fault => exact (stopped fault released).settles rfl

/--
A buffer that is put under an empty handle costs what it has been charged.
-/
theorem holds_insert
    (holds : custody.Holds slack session)
    (vacant : session.shelf.find? handle = none)
    {allocator : Allocator}
    {buffer : Buffer}
    {later : World}
    (uses : custody.Uses allocator)
    (sold : custody.Sells allocator
      (fun key => custody.charged session key + slack key) buffer later) :
    custody.Holds slack
      { world := later, shelf := session.shelf.insert handle buffer } := by
  rcases sold with ⟨rfl, fits, charged⟩
  refine ⟨charged.congr fun key => ?_, holds.owns.insert uses fits⟩
  have more := custody.charged_insert session handle buffer later key
  rw [vacant] at more
  simp only [Shelf.weightOf] at more ⊢
  omega

/-- A call that halts leaves the session as it was held, or stalls. -/
theorem settles_of_halts
    (holds : custody.Holds slack session)
    {wrong : Prop}
    {later : World}
    (halts : custody.Halts wrong
      (fun key => custody.charged session key + slack key) later)
    (inverted : wrong → call.Inverted)
    {answer : Answer}
    {fault : Fault}
    (stops : answer.fault? = some fault) :
    custody.Settles slack call (answer, { session with world := later }) := by
  rcases halts with ⟨isWrong, charged⟩ | stopped
  · exact settles_of_holds (holds.noteless charged) (.inr (inverted isWrong))
  · have stalls : custody.Stalls slack { session with world := later } :=
      ⟨holds.owns, stopped⟩
    exact stalls.settles stops

theorem settles_allocateInto
    (holds : custody.Holds slack session)
    (vacant : session.shelf.find? handle = none)
    {allocator : Allocator}
    (uses : custody.Uses allocator)
    (size : requested ≤ Size.limit)
    (request : call.request? = some (requested, minimal))
    (answer : Except Fault (Option Contents) → Answer)
    (answers : ∀ result, (answer (.ok result)).fault? = none)
    (reports : ∀ fault, (answer (.error fault)).fault? = some fault) :
    custody.Settles slack call
      (answer (session.allocateInto handle allocator requested minimal).1,
        (session.allocateInto handle allocator requested minimal).2) := by
  refine Session.allocateInto_rule
    (fun result later => custody.Settles slack call (answer result, later)) ?_
  refine (sells_allocate uses holds.charged size).mono ?_ ?_
  · rintro result later ⟨refused, sold⟩
    constructor
    · intro none
      exact settles_of_holds (holds.noteless (refused none)) (.inl (answers _))
    · intro buffer made
      exact settles_of_holds (holds_insert holds vacant uses (sold buffer made))
        (.inl (answers _))
  · intro fault later halts
    exact settles_of_halts holds halts
      (fun wrong => ⟨_, _, request, wrong⟩) (reports fault)

theorem settles_tryAllocateInto
    (holds : custody.Holds slack session)
    (vacant : session.shelf.find? handle = none)
    {allocator : Allocator}
    (uses : custody.Uses allocator)
    (size : requested ≤ Size.limit)
    (request : call.request? = some (requested, minimal)) :
    custody.Settles slack call
      (.tried (session.tryAllocateInto handle allocator requested minimal).1,
        (session.tryAllocateInto handle allocator requested minimal).2) := by
  refine Session.tryAllocateInto_rule
    (fun result later => custody.Settles slack call (.tried result, later)) ?_
  refine (sells_tryAllocate uses holds.charged size).mono ?_ ?_
  · rintro result later ⟨refused, sold⟩
    constructor
    · intro refusal made
      exact settles_of_holds (holds.noteless (refused refusal made)) (.inl rfl)
    · intro buffer made
      exact settles_of_holds (holds_insert holds vacant uses (sold buffer made))
        (.inl rfl)
  · intro fault later halts
    exact settles_of_halts holds halts (fun wrong => ⟨_, _, request, wrong⟩) rfl

/--
A buffer that is resized in its place costs what it has been charged
for its new size.
-/
theorem settles_resizeHeld
    {α : Type}
    {resizing : Resizing α}
    {buffer : Buffer}
    {wrong : Prop}
    (holds : custody.Holds slack session)
    (held : session.shelf.find? handle = some buffer)
    (carries : ∀ rest : Nat → Nat,
      custody.register.Carries (custody.cost buffer.originator) rest
        { world := session.world, contents := buffer.contents } →
      Ends resizing { world := session.world, contents := buffer.contents }
      (fun _ => custody.register.Carries (custody.cost buffer.originator) rest)
      (fun _ => custody.HaltsResizing buffer.originator wrong rest))
    (inverted : wrong → call.Inverted)
    (answer : Except Fault α → Contents → Answer)
    (answers : ∀ value contents, (answer (.ok value) contents).fault? = none)
    (reports : ∀ fault contents,
      (answer (.error fault) contents).fault? = some fault) :
    custody.Settles slack call
      (answer (session.resizeHeld handle buffer resizing).1
        (session.resizeHeld handle buffer resizing).2.1,
        (session.resizeHeld handle buffer resizing).2.2) := by
  rcases holds.owns handle buffer held with ⟨uses, fits⟩
  have others : ∀ key, custody.price key buffer ≤
      custody.charged session key := by
    intro key
    have erased := custody.charged_erase session handle session.world key
    rw [held] at erased
    simp only [Shelf.weightOf] at erased
    omega
  -- what is charged for all other buffers, and the slack
  let rest : Nat → Nat := fun key =>
    custody.charged session key - custody.price key buffer + slack key
  have becomes : ∀ (contents : Contents) (world : World) (key : Nat), rest key +
        custody.cost buffer.originator contents.size key = custody.charged
        { world, shelf := session.shelf.insert handle { buffer with contents } }
        key + slack key := by
    intro contents world key
    have more :=
      custody.charged_insert session handle { buffer with contents } world key
    have own := others key
    rw [held] at more
    simp only [Shelf.weightOf, price, Buffer.size] at more own ⊢
    simp only [rest, price, Buffer.size]
    omega
  have begins : custody.register.Carries (custody.cost buffer.originator) rest
      { world := session.world, contents := buffer.contents } := by
    refine ⟨holds.charged.congr fun key => ?_, fits⟩
    have own := others key
    simp only [rest, price, Buffer.size] at own ⊢
    omega
  refine Session.resizeHeld_rule (fun result contents later =>
    custody.Settles slack call (answer result contents, later)) ?_
  have owns : ∀ contents : Contents, custody.register.Fits contents.size →
      custody.Owns (session.shelf.insert handle { buffer with contents }) :=
    fun contents fitting => holds.owns.insert uses fitting
  refine (carries rest begins).mono ?_ ?_
  · rintro value later ⟨charged, fitting⟩
    exact settles_of_holds ⟨charged.congr (becomes later.contents later.world),
      owns later.contents fitting⟩ (.inl (answers value later.contents))
  · rintro fault later ⟨fitting, ⟨isWrong, charged⟩ | stopped⟩
    · exact settles_of_holds
        ⟨charged.congr (becomes later.contents later.world),
          owns later.contents fitting⟩ (.inr (inverted isWrong))
    · refine Stalls.settles ⟨owns later.contents fitting,
        stopped.weaken fun key => ?_⟩ (reports fault later.contents)
      exact Nat.le_of_eq (becomes later.contents later.world key).symm

theorem settles_run
    {α : Type}
    {operation : Operation α}
    (holds : custody.Holds slack session)
    (ended : Ends operation session.world (fun _ later => custody.register.At
      (fun key => custody.charged session key + slack key) later)
      (fun _ later => custody.register.Past
        (fun key => custody.charged session key + slack key) later))
    (answer : Except Fault α → Answer)
    (answers : ∀ value, (answer (.ok value)).fault? = none)
    (reports : ∀ fault, (answer (.error fault)).fault? = some fault) :
    custody.Settles slack call
      (answer (session.run operation).1, (session.run operation).2) := by
  refine Session.run_rule (fun result later =>
    custody.Settles slack call (answer result, later)) (ended.mono ?_ ?_)
  · intro value later charged
    exact settles_of_holds (holds.noteless charged) (.inl (answers value))
  · intro fault later stopped
    have stalls : custody.Stalls slack { session with world := later } :=
      ⟨holds.owns, stopped⟩
    exact stalls.settles (reports fault)

theorem settles_performNew
    {next : Session → Answer × Session}
    {stopped : Fault → Answer}
    (holds : custody.Holds slack session)
    (handle : Nat)
    (onwards : ∀ later : Session, custody.Holds slack later →
      later.shelf.find? handle = none → custody.Settles slack call (next later))
    (reports : ∀ fault, (stopped fault).fault? = some fault) :
    custody.Settles slack call (session.performNew handle next stopped) := by
  have released := release_cases holds handle
  have vacant := session.find?_release handle
  refine Session.performNew_rule (custody.Settles slack call) ?_ ?_
  · intro fault later stops
    rw [stops] at released
    exact (released.2 fault rfl).settles (reports fault)
  · intro given later gives
    rw [gives] at released vacant
    exact onwards later (released.1 given rfl) vacant

theorem settles_performHeld
    {next : Buffer → Answer × Session}
    (holds : custody.Holds slack session)
    (handle : Nat)
    (onwards : ∀ buffer, session.shelf.find? handle = some buffer →
      custody.Settles slack call (next buffer)) :
    custody.Settles slack call (session.performHeld handle next) :=
  Session.performHeld_rule (custody.Settles slack call)
    (fun _ => settles_of_holds holds (.inl rfl)) onwards

theorem settles_performWrite
    (holds : custody.Holds slack session)
    (handle : Nat)
    (edit : Contents → Contents)
    (sameSize : ∀ contents, (edit contents).size = contents.size) :
    custody.Settles slack call (session.performWrite handle edit) := by
  refine settles_performHeld holds handle fun buffer held => ?_
  rcases holds.owns handle buffer held with ⟨uses, fits⟩
  let edited : Buffer := { buffer with contents := edit buffer.contents }
  have sameBytes : edited.size = buffer.size := sameSize buffer.contents
  have samePrice : ∀ key, custody.charged (session.hold handle edited) key =
      custody.charged session key := by
    intro key
    have inserted :=
      custody.charged_insert session handle edited session.world key
    rw [held] at inserted
    simp only [Shelf.weightOf, price, sameBytes] at inserted
    exact Nat.add_right_cancel inserted
  have holding : custody.Holds slack (session.hold handle edited) := by
    constructor
    · exact holds.charged.congr fun key =>
        congrArg (· + slack key) (samePrice key).symm
    · exact holds.owns.insert uses (sameBytes.symm ▸ fits)
  exact settles_of_holds holding (.inl rfl)

/-- Every call that keeps to a custody settles. -/
theorem settles_perform
    (holds : custody.Holds slack session)
    (allows : custody.Allows session call) :
    custody.Settles slack call (session.perform call) := by
  rcases allows with ⟨sized, leaves, admits⟩
  have orderly := custody.register.orderly holds.charged
  cases call with
  | allocate handle allocator requested minimal =>
      exact settles_performNew holds handle (fun _ holding vacant =>
        settles_allocateInto holding vacant admits sized rfl
        Answer.allocated (fun _ => rfl) fun _ => rfl) (fun _ => rfl)
  | tryAllocate handle allocator requested minimal =>
      exact settles_performNew holds handle (fun _ holding vacant =>
        settles_tryAllocateInto holding vacant admits sized rfl) (fun _ => rfl)
  | resizeSlot handle allocator requested minimal =>
      rw [Session.perform]
      split
      · rename_i vacant
        exact settles_allocateInto holds vacant admits.1 sized rfl
          (fun result =>
            .resized (result.map Option.isSome) (result.toOption.bind id))
          (fun _ => rfl) fun _ => rfl
      · rename_i buffer held
        obtain rfl := admits.2 buffer held
        exact settles_resizeHeld holds held
          (fun _ begins => carries_resize admits.1 begins sized)
          (fun wrong => ⟨_, _, rfl, wrong⟩)
          (fun result contents => .resized result (some contents))
          (fun _ _ => rfl) fun _ _ => rfl
  | resize handle through requested minimal =>
      refine settles_performHeld holds handle fun buffer held => ?_
      dsimp only
      rw [admits buffer held]
      exact settles_resizeHeld holds held (fun _ begins =>
        carries_resize (holds.owns handle buffer held).1 begins sized)
        (fun wrong => ⟨_, _, rfl, wrong⟩)
        (fun result contents => .resized result (some contents))
        (fun _ _ => rfl) fun _ _ => rfl
  | tryResize handle through requested =>
      refine settles_performHeld holds handle fun buffer held => ?_
      dsimp only
      rw [admits buffer held]
      exact settles_resizeHeld holds held (fun _ begins =>
        carries_tryResize (holds.owns handle buffer held).1 begins sized)
        (fun wrong => ⟨_, _, rfl, wrong⟩) Answer.triedResize
        (fun _ _ => rfl) fun _ _ => rfl
  | free handle => exact settles_free holds handle
  | fill handle byte =>
      exact settles_performWrite holds handle
        (fun contents => contents.fill byte) fun contents =>
        contents.size_fill byte
  | write handle offset bytes =>
      exact settles_performWrite holds handle
        (fun contents => contents.write offset bytes) fun contents =>
        contents.size_write offset bytes
  | read handle =>
      exact settles_performHeld holds handle fun _ _ =>
        settles_of_holds holds (.inl rfl)
  | originAvailable handle =>
      exact settles_performHeld holds handle fun buffer held =>
        settles_run holds
          (reads_available (holds.owns handle buffer held).1 holds.charged)
          Answer.available (fun _ => rfl) fun _ => rfl
  | describe handle address =>
      exact settles_performHeld holds handle fun _ _ =>
        settles_of_holds holds (.inl rfl)
  | setCeiling own ceiling =>
      refine settles_run holds
        ((Mediation.ends_setCeiling own ceiling session.world).sure ?_)
        Answer.done (fun _ => rfl) fun _ => rfl
      intro _ later came
      refine custody.register.beside holds.charged ?_ ?_
      · exact .around came fun middle => .setMediator middle own _
      · exact orderly.around came fun middle _ ordered =>
          ordered.setMediator ((ordered.mediators own).setCeiling sized)
  | mediatorAllocate own requested minimal =>
      refine settles_run holds
        (((Mediation.orderly_allocate orderly own sized).and
          (Mediation.beside_allocate own requested minimal session.world)).mono
          ?_ (fun _ _ impossible => impossible.1.elim)) Answer.granted
        (fun _ => rfl) fun _ => rfl
      rintro granted later ⟨⟨ordered, -⟩, beside⟩
      exact custody.register.beside holds.charged beside ordered
  | mediatorFree own amount =>
      refine settles_run holds
        ((Mediation.beside_free_of_orderly orderly own amount).sure ?_)
        Answer.done (fun _ => rfl) fun _ => rfl
      rintro _ later ⟨beside, ordered⟩
      exact custody.register.beside holds.charged beside ordered
  | tryConsume lineage bytes =>
      exact settles_run holds (custody.frees leaves
        (Charging.tracks_tryConsume lineage bytes) holds.charged)
        Answer.admitted (fun _ => rfl) fun _ => rfl
  | consume lineage bytes =>
      exact settles_run holds (custody.frees leaves
        (Charging.tracks_consume lineage bytes) holds.charged)
        Answer.done (fun _ => rfl) fun _ => rfl
  | release lineage bytes =>
      exact settles_run holds (custody.frees leaves
        (Charging.tracks_release lineage bytes) holds.charged)
        Answer.done (fun _ => rfl) fun _ => rfl

end Custody

end BufferBudget
