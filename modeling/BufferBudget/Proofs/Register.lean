import BufferBudget.Proofs.Ledger

/-!
# Registers

A register says of a world how much is charged to each of some accounts.  Only
layers of one kind charge these accounts, and the other layers of a stack go on
beside the register: they ask mediators, count probes and note what they do.

`Source.Registers` is the contract of a source that keeps a register, where a
buffer of some size costs an amount of every account.  The layers that charge
nothing of their own pass the contract on, whatever is registered; what is left
to show of a register are the layers that charge it.

A call may stop where the register has an excuse for it, and then at least what
was charged before is charged afterwards.
-/

namespace BufferBudget

/--
Two worlds differ at most in what stands beside trackers and tallies, and the
trail has gone on.
-/
structure World.Beside (world later : World) : Prop where
  trackers : later.trackers = world.trackers
  tallies : later.tallies = world.tallies
  trail : world.trail <:+ later.trail

namespace World.Beside

variable {world middle later : World}

theorem refl (world : World) : world.Beside world :=
  ⟨rfl, rfl, List.suffix_refl world.trail⟩

theorem trans (first : world.Beside middle) (second : middle.Beside later) :
    world.Beside later where
  trackers := second.trackers.trans first.trackers
  tallies := second.tallies.trans first.tallies
  trail := first.trail.trans second.trail

theorem note (world : World) (event : Event) :
    world.Beside (world.note event) :=
  ⟨rfl, rfl, List.suffix_cons event world.trail⟩

theorem noteAll (world : World) (events : List Event) :
    world.Beside (world.noteAll events) :=
  World.noteAll_preserves
    (fun event _ now noted => noted.trans (note now event)) (refl world)

theorem setMediator (world : World) (key : Nat) (mediator : Mediator) :
    world.Beside (world.setMediator key mediator) :=
  ⟨rfl, rfl, List.suffix_refl world.trail⟩

theorem countProbe (world : World) (probe : Nat) :
    world.Beside (world.countProbe probe) :=
  ⟨rfl, rfl, List.suffix_refl world.trail⟩

theorem around
    {change : World → World}
    (came : world.Around change later)
    (changes : ∀ middle : World, middle.Beside (change middle)) :
    world.Beside later := by
  rcases came with ⟨before, after, -, -, rfl⟩
  have entered := noteAll world before
  have changed := changes (world.noteAll before)
  exact (entered.trans changed).trans (noteAll _ after)

end World.Beside

namespace Mediation

theorem beside_allocate (mediator requested minimal : Nat) (world : World) :
    Ends (allocate mediator requested minimal) world
      (fun _ later => world.Beside later)
      (fun _ later => world.Beside later) := by
  cases answer :
    (world.mediators.entry mediator).allocate requested minimal with
  | error fault =>
      refine (ends_allocate_error answer).mono
        (fun _ _ impossible => impossible.elim) ?_
      rintro _ later ⟨-, came⟩
      exact .around came .refl
  | ok result =>
      rcases result with ⟨granted, next⟩
      refine (ends_allocate answer).sure ?_
      rintro _ later ⟨-, came⟩
      refine .around came fun middle => ?_
      exact (World.Beside.setMediator middle mediator next).trans (.note _ _)

theorem beside_free (mediator amount : Nat) (world : World) :
    Ends (free mediator amount) world (fun _ later => world.Beside later)
      (fun _ later => world.Beside later) := by
  refine (ends_free mediator amount world).sure ?_
  intro _ later came
  refine .around came fun middle => ?_
  exact (World.Beside.setMediator middle mediator _).trans (.note _ _)

theorem beside_grant (mediator requested minimal : Nat) (world : World) :
    Ends (grant mediator requested minimal) world
      (fun _ later => world.Beside later)
      (fun _ later => world.Beside later) := by
  refine grant_rule (fun _ => .refl world)
    (fun _ => beside_allocate mediator requested minimal world)
    (fun _ _ beside _ => beside) ?short (fun _ beside _ => beside)
  case short =>
    intro granted later beside _ _
    exact (beside_free mediator granted later).mono
      (fun _ _ freed => beside.trans freed)
      (fun _ _ freed => beside.trans freed)

end Mediation

/--
A way to say how much is charged to each account of a kind.  What happens beside
trackers and tallies, in order, does not touch it.
-/
structure Register where
  /-- The world is in order, and an amount is charged to each account. -/
  At : (Nat → Nat) → World → Prop
  /-- A call may have stopped. -/
  Excuse : World → Prop
  /-- A buffer may have a size. -/
  Fits : Nat → Prop
  orderly : ∀ {amounts world}, At amounts world → world.Orderly
  beside : ∀ {amounts world later}, At amounts world →
    world.Beside later → later.Orderly →
    At amounts later
  excuse : ∀ {world later : World}, Excuse world →
    world.Beside later → Excuse later

namespace Register

variable {register : Register} {amounts least : Nat → Nat} {world later : World}

/-- A call has stopped with at least an amount charged to each account. -/
def Past (register : Register) (least : Nat → Nat) (world : World) : Prop :=
  ∃ amounts, (∀ key, least key ≤ amounts key) ∧ register.At amounts world ∧
    register.Excuse world

theorem At.congr
    {other : Nat → Nat}
    (charged : register.At amounts world)
    (same : ∀ key, amounts key = other key) :
    register.At other world :=
  funext same ▸ charged

theorem At.past
    (charged : register.At amounts world)
    (excuse : register.Excuse world) :
    register.Past amounts world :=
  ⟨amounts, fun key => Nat.le_refl (amounts key), charged, excuse⟩

theorem Past.weaken
    {less : Nat → Nat}
    (stopped : register.Past least world)
    (fewer : ∀ key, less key ≤ least key) :
    register.Past less world := by
  rcases stopped with ⟨amounts, enough, charged, excuse⟩
  exact ⟨amounts, fun key => Nat.le_trans (fewer key) (enough key),
    charged, excuse⟩

theorem At.note
    (charged : register.At amounts world)
    {event : Event}
    (proper : event.Proper) :
    register.At amounts (world.note event) :=
  register.beside charged (.note world event)
    ((register.orderly charged).note proper)

theorem At.noteAll
    (charged : register.At amounts world)
    {events : List Event}
    (aside : ∀ event ∈ events, event.Aside) :
    register.At amounts (world.noteAll events) :=
  register.beside charged (.noteAll world events)
    ((register.orderly charged).noteAll fun event member =>
      (aside event member).proper)

theorem At.tell
    (charged : register.At amounts world)
    (diagnostics : List Diagnostic) :
    register.At amounts (world.noteAll (diagnostics.map .emitted)) := by
  refine charged.noteAll fun event member => ?_
  rcases List.mem_map.mp member with ⟨diagnostic, -, rfl⟩
  exact trivial

theorem Past.release (stopped : register.Past least world) (lock : Lock) :
    register.Past least (world.note (.released lock)) := by
  rcases stopped with ⟨amounts, enough, charged, excuse⟩
  exact ⟨amounts, enough, charged.note trivial,
    register.excuse excuse (.note world _)⟩

/--
A request has ended, and the buffer that it was met with, if there is
one, is paid for.
-/
def Paid
    (register : Register)
    (cost : Nat → Nat → Nat)
    (rest : Nat → Nat)
    (result : Option Contents)
    (world : World) : Prop :=
  register.At (fun key => rest key + priceOf (cost · key) result) world ∧
    ∀ contents, result = some contents → register.Fits contents.size

/-- What a buffer costs is charged, besides some rest. -/
def Carries
    (register : Register)
    (cost : Nat → Nat → Nat)
    (rest : Nat → Nat)
    (bench : Workbench) : Prop :=
  register.At (fun key => rest key + cost bench.contents.size key) bench.world ∧
    register.Fits bench.contents.size

/--
A call on a buffer has stopped with at least the rest and what the buffer
costs charged.
-/
def Drops
    (register : Register)
    (cost : Nat → Nat → Nat)
    (rest : Nat → Nat)
    (bench : Workbench) : Prop :=
  register.Past
      (fun key => rest key + cost bench.contents.size key) bench.world ∧
    register.Fits bench.contents.size

variable
    {cost : Nat → Nat → Nat}
    {rest : Nat → Nat}
    {result : Option Contents}
    {bench : Workbench}

theorem paid_none (charged : register.At rest world) :
    register.Paid cost rest none world :=
  ⟨charged, nofun⟩

theorem Paid.at_none (paid : register.Paid cost rest none world) :
    register.At rest world :=
  paid.1

theorem Paid.beside
    (paid : register.Paid cost rest result world)
    (beside : world.Beside later)
    (orderly : later.Orderly) :
    register.Paid cost rest result later :=
  ⟨register.beside paid.1 beside orderly, paid.2⟩

theorem Carries.orderly (carries : register.Carries cost rest bench) :
    bench.world.Orderly :=
  register.orderly carries.1

theorem Carries.beside
    (carries : register.Carries cost rest bench)
    (beside : bench.world.Beside later)
    (orderly : later.Orderly) :
    register.Carries cost rest { bench with world := later } :=
  ⟨register.beside carries.1 beside orderly, carries.2⟩

theorem Carries.noteAll
    (carries : register.Carries cost rest bench)
    {events : List Event}
    (aside : ∀ event ∈ events, event.Aside) :
    register.Carries cost rest
      { bench with world := bench.world.noteAll events } :=
  ⟨carries.1.noteAll aside, carries.2⟩

end Register

/--
The contract of a source about a register, where a buffer of some size costs an
amount of every account.
-/
structure Source.Registers
    (source : Source)
    (register : Register)
    (cost : Nat → Nat → Nat) : Prop where
  available : ∀ {amounts world fault}, register.At amounts world →
    source.available world = .error fault → register.Excuse world
  allocate : ∀ {rest world requested minimal}, register.At rest world →
    minimal ≤ requested →
    requested ≤ Size.limit →
    Ends (source.allocate requested minimal) world (register.Paid cost rest)
      (fun _ later => register.Past rest later)
  resize : ∀ {rest bench requested minimal}, register.Carries cost rest bench →
    minimal ≤ requested → requested ≤ Size.limit →
    Ends (source.resize requested minimal) bench
      (fun _ => register.Carries cost rest) (fun _ => register.Drops cost rest)
  free : ∀ {rest world size},
    register.At (fun key => rest key + cost size key) world →
    register.Fits size →
    Ends (source.free size) world (fun _ later => register.At rest later)
      (fun _ later => register.Past rest later)

section Layers

variable
    {register : Register}
    {cost : Nat → Nat → Nat}
    {rest : Nat → Nat}
    {world : World}
    {below : Source}
    {requested minimal : Nat}

/-- A source that is read goes on beside a register, or has an excuse. -/
theorem Source.Registers.readAvailable
    {source : Source}
    (registers : source.Registers register cost)
    (stepwise : source.Stepwise)
    (charged : register.At rest world) :
    Ends source.readAvailable world (fun _ later => register.At rest later)
      (fun _ later => register.Past rest later) := by
  have read := charged.noteAll fun event member =>
    (stepwise.readLocks world event member).aside
  refine Source.readAvailable_rule (fun _ _ => read) ?stopped
  case stopped =>
    intro fault failed
    exact read.past
      (register.excuse (registers.available charged failed) (.noteAll world _))

theorem Source.Registers.noting
    {source : Source}
    (registers : source.Registers register cost)
    (ranged : source.Ranged)
    (site : Site) :
    (source.noting site).Registers register cost where
  available := registers.available
  allocate := by
    intro rest world requested minimal charged accepted size
    apply noting_allocate_rule
    refine ((registers.allocate charged accepted size).and
      (ranged.allocate (register.orderly charged) accepted size)).mono ?_
      (fun _ _ stopped => stopped.1)
    rintro result later ⟨paid, served⟩
    exact paid.beside (.note later _)
      (served.1.note (served.proper accepted site))
  resize := by
    intro rest bench requested minimal carries accepted size
    apply noting_resize_rule
    refine ((registers.resize carries accepted size).and
      (ranged.resize carries.orderly accepted size)).mono
      ?_ (fun _ _ stopped => stopped.1)
    rintro met later ⟨carried, resized⟩
    exact carried.beside (.note later.world _)
      (resized.1.note (resized.proper accepted site _))
  free := by
    intro rest world size charged fits
    apply noting_free_rule
    exact registers.free (charged.note trivial) fits

namespace Mediation

theorem register_grant
    (charged : register.At rest world)
    (own : Nat)
    (accepted : minimal ≤ requested) :
    Ends (grant own requested minimal) world
      (fun answer later => register.At rest later ∧
        ∀ granted, answer = some granted → Within minimal requested granted)
      (fun _ _ => False) := by
  refine ((ranged_grant (register.orderly charged) own accepted).and
    (beside_grant own requested minimal world)).mono
    ?_ (fun _ _ impossible => impossible.1)
  rintro answer later ⟨⟨ordered, within⟩, beside⟩
  exact ⟨register.beside charged beside ordered, within⟩

/-- What is paid back to a mediator is paid beside the register. -/
theorem beside_free_of_orderly (orderly : world.Orderly) (own amount : Nat) :
    Ends (free own amount) world
      (fun _ later => world.Beside later ∧ later.Orderly) (fun _ _ => False) :=
  ((orderly_free orderly own amount).and (beside_free own amount world)).mono
    (fun _ _ freed => ⟨freed.2, freed.1⟩) (fun _ _ impossible => impossible.1)

end Mediation

namespace Mediated

variable {own : Nat}

theorem registers_allocate
    (registers : below.Registers register cost)
    (charged : register.At rest world)
    (accepted : minimal ≤ requested)
    (size : requested ≤ Size.limit) :
    Ends (allocate own below requested minimal) world (register.Paid cost rest)
      (fun _ later => register.Past rest later) := by
  refine allocate_rule (fun _ => register.Paid cost rest)
    ((Mediation.register_grant charged own accepted).sure
      (fun _ _ granted => granted))
    ?denied ?called ?refused ?short (fun _ _ _ paid _ => paid)
  case denied =>
    rintro later ⟨granting, -⟩
    exact Register.paid_none granting
  case called =>
    rintro granted later ⟨granting, within⟩
    rcases within granted rfl with ⟨enough, fitting⟩
    exact registers.allocate granting enough (Nat.le_trans fitting size)
  case refused =>
    intro granted later paid
    refine (Mediation.beside_free_of_orderly (register.orderly paid.1) own
      granted).sure ?_
    rintro _ last ⟨beside, ordered⟩
    exact paid.beside beside ordered
  case short =>
    intro granted contents later paid _
    refine (Mediation.beside_free_of_orderly (register.orderly paid.1) own
      _).sure ?_
    rintro _ last ⟨beside, ordered⟩
    exact paid.beside beside ordered

/-- Settling with a mediator leaves what a buffer costs as it was charged. -/
theorem carries_free
    {bench : Workbench}
    (carries : register.Carries cost rest bench)
    (own amount : Nat) :
    Ends (Mediation.free own amount) bench.world
      (fun _ last => register.Carries cost rest { bench with world := last })
      (fun _ _ => False) := by
  refine (Mediation.beside_free_of_orderly carries.orderly own amount).sure ?_
  rintro _ last ⟨beside, ordered⟩
  exact carries.beside beside ordered

theorem registers_shrink
    (ranged : below.Ranged)
    (registers : below.Registers register cost)
    {bench : Workbench}
    (carries : register.Carries cost rest bench)
    (accepted : minimal ≤ requested)
    (size : requested ≤ Size.limit)
    (smaller : requested ≤ bench.contents.size) :
    Ends (shrink own below requested minimal) bench
      (fun _ => register.Carries cost rest)
      (fun _ => register.Drops cost rest) := by
  refine shrink_rule (((registers.resize carries accepted size).and
    (ranged.resize carries.orderly accepted size)).mono
    (fun _ _ resized => resized) (fun _ _ stopped => stopped.1))
    ?refused ?grown ?cut
  case refused => exact fun _ resized => resized.1
  case grown =>
    rintro later ⟨-, resized⟩ larger
    exact absurd (Nat.le_trans resized.within.2 smaller) (Nat.not_le.mpr larger)
  case cut =>
    rintro later ⟨carried, -⟩ _
    exact (carries_free carried own _).sure (fun _ _ settled => settled)

theorem registers_grow
    (ranged : below.Ranged)
    (registers : below.Registers register cost)
    {bench : Workbench}
    (carries : register.Carries cost rest bench)
    (accepted : minimal ≤ requested)
    (size : requested ≤ Size.limit)
    (larger : bench.contents.size < requested) :
    Ends (grow own below requested minimal) bench
      (fun _ => register.Carries cost rest)
      (fun _ => register.Drops cost rest) := by
  have inOrder : minimal - bench.contents.size ≤
      requested - bench.contents.size := by omega
  refine grow_rule
    (fun granted met later => register.Carries cost rest later ∧
      Resized bench.contents minimal (bench.contents.size + granted) met later)
    larger
    (((Mediation.register_grant carries.1 own inOrder).and
      (Mediation.beside_grant own _ _ bench.world)).mono
      (fun _ _ granted => granted) (fun _ _ impossible => impossible.1.elim))
    ?denied ?beyond ?called ?refused ?excess ?settled
  case denied =>
    rintro later ⟨⟨granting, -⟩, -⟩
    exact ⟨granting, carries.2⟩
  case beyond =>
    rintro granted later ⟨⟨-, within⟩, -⟩ beyond
    have fitting := (within granted rfl).2
    omega
  case called =>
    rintro granted later ⟨⟨granting, within⟩, -⟩ fits
    have enough := (within granted rfl).1
    have least : minimal ≤ bench.contents.size + granted := by omega
    have begins : register.Carries cost rest { bench with world := later } :=
      ⟨granting, carries.2⟩
    exact ((registers.resize begins least fits).and
      (ranged.resize begins.orderly least fits)).mono
      (fun _ _ resized => resized) (fun _ _ stopped => stopped.1)
  case refused =>
    rintro granted later ⟨carried, -⟩
    exact (carries_free carried own granted).sure (fun _ _ repaid => repaid)
  case excess =>
    rintro granted later ⟨-, resized⟩ above
    exact absurd resized.within.2 (Nat.not_le.mpr above)
  case settled =>
    rintro granted later ⟨carried, -⟩ _
    exact (carries_free carried own _).sure (fun _ _ settled => settled)

theorem registers_resize
    (ranged : below.Ranged)
    (registers : below.Registers register cost)
    {bench : Workbench}
    (carries : register.Carries cost rest bench)
    (accepted : minimal ≤ requested)
    (size : requested ≤ Size.limit) :
    Ends (resize own below requested minimal) bench
      (fun _ => register.Carries cost rest)
      (fun _ => register.Drops cost rest) :=
  resize_rule (registers_shrink ranged registers carries accepted size)
    (registers_grow ranged registers carries accepted size)

theorem registers_free
    (registers : below.Registers register cost)
    {size : Nat}
    (charged : register.At (fun key => rest key + cost size key) world)
    (fits : register.Fits size) :
    Ends (free own below size) world (fun _ later => register.At rest later)
      (fun _ later => register.Past rest later) := by
  refine free_rule
    ((Mediation.beside_free_of_orderly (register.orderly charged) own size).sure
      (fun _ _ paid => paid)) ?_
  rintro later ⟨beside, ordered⟩
  exact registers.free (register.beside charged beside ordered) fits

theorem excuse_available
    (registers : below.Registers register cost)
    (charged : register.At rest world)
    {fault : Fault}
    (failed : available own below world = .error fault) :
    register.Excuse world := by
  rw [available] at failed
  cases left : below.available world with
  | ok spare =>
      rw [left] at failed
      cases failed
  | error stop => exact registers.available charged left

theorem registers_source
    (ranged : below.Ranged)
    (registers : below.Registers register cost)
    (own : Nat) :
    (source own below).Registers register cost where
  available := fun charged failed => excuse_available registers charged failed
  allocate := registers_allocate registers
  resize := registers_resize ranged registers
  free := registers_free registers

end Mediated

namespace Bypass

variable {own amount : Nat}

theorem excuse_available
    (registers : below.Registers register cost)
    (charged : register.At rest world)
    {fault : Fault}
    (failed : available own amount below world = .error fault) :
    register.Excuse world := by
  rw [available] at failed
  cases left : Mediated.available own below world with
  | ok spare =>
      rw [left] at failed
      cases failed
  | error stop => exact Mediated.excuse_available registers charged left

theorem register_readAvailable
    (stepwise : below.Stepwise)
    (registers : below.Registers register cost)
    (charged : register.At rest world) :
    Ends (readAvailable own amount below) world
      (fun _ later => register.At rest later)
      (fun _ later => register.Past rest later) := by
  have read := charged.noteAll fun event member =>
    (quiet_readLocks stepwise own world event member).aside
  refine readAvailable_rule (fun _ _ => read) ?stopped
  case stopped =>
    intro fault failed
    exact read.past (register.excuse (excuse_available registers charged failed)
      (.noteAll world _))

theorem registers_source
    (stepwise : below.Stepwise)
    (ranged : below.Ranged)
    (registers : below.Registers register cost)
    (own amount : Nat) :
    (source own amount below).Registers register cost where
  available := fun charged failed => excuse_available registers charged failed
  allocate := by
    intro rest world requested minimal charged accepted size
    exact allocate_rule _ (register_readAvailable stepwise registers charged)
      (fun _ _ reading => Mediated.registers_allocate registers reading
        (raiseMinimal_le _ _ _) size) (fun _ _ paid => paid) (fun _ paid =>
          Mediated.registers_allocate registers paid.at_none accepted size)
  resize := by
    intro rest bench requested minimal carries accepted size
    refine resize_rule (fun _ later => register.At _ later)
      (fun _ => register.Carries cost rest)
      ((register_readAvailable stepwise registers carries.1).mono
        (fun _ _ reading => reading) (fun _ _ stopped => ⟨stopped, carries.2⟩))
      ?first (fun _ carried => carried) (fun _ carried =>
        Mediated.registers_resize ranged registers carried accepted size)
    case first =>
      intro _ later reading
      have begins : register.Carries cost rest { bench with world := later } :=
        ⟨reading, carries.2⟩
      exact Mediated.registers_resize ranged registers begins
        (raiseMinimal_le _ _ _) size
  free := Mediated.registers_free registers

end Bypass

theorem Guaranteed.registers_source
    (ranged : below.Ranged)
    (registers : below.Registers register cost)
    (own amount : Nat) :
    (source own amount below).Registers register cost where
  available := fun _ failed => nomatch failed
  allocate := by
    intro rest world requested minimal charged _ size
    have read := charged.noteAll
      fun event (member : event ∈ Mediation.readLocks world own) =>
      (Mediation.quiet_of_mem_readLocks member).aside
    exact allocate_rule (fun _ => Register.paid_none read) fun _ =>
      Mediated.registers_allocate registers read (Nat.le_refl requested) size
  resize := by
    intro rest bench requested minimal carries _ size
    have read := carries.noteAll fun event
        (member : event ∈ Mediation.readLocks bench.world own) =>
      (Mediation.quiet_of_mem_readLocks member).aside
    exact resize_rule (fun _ _ => read)
      (fun _ => Mediated.registers_resize ranged registers carries
        (Nat.le_refl requested) size)
      (fun _ _ => Mediated.registers_resize ranged registers read
        (Nat.le_refl requested) size)
  free := Mediated.registers_free registers

theorem Clearing.registers_source (registers : below.Registers register cost) :
    (source below).Registers register cost where
  available := registers.available
  allocate := by
    intro rest world requested minimal charged accepted size
    refine allocate_rule ((registers.allocate charged accepted size).mono ?_
      (fun _ _ stopped => stopped))
    intro result later paid
    cases result with
    | none => exact paid
    | some contents =>
        constructor
        · simpa only [Option.map, priceOf, Contents.size_fill] using paid.1
        · rintro _ ⟨⟩
          rw [Contents.size_fill]
          exact paid.2 contents rfl
  resize := by
    intro rest bench requested minimal carries accepted size
    refine resize_rule (registers.resize carries accepted size)
      (fun _ _ carried _ => carried) ?_
    intro later carried _
    rw [Register.Carries, Contents.size_zeroFrom]
    exact carried
  free := registers.free

/-- A tallied source keeps a register that does not read tallies. -/
theorem Tallied.registers_source
    (registers : below.Registers register cost)
    (unread : ∀ {amounts : Nat → Nat} {world : World} (tally : Nat)
        (account : Tally), register.At amounts world →
      register.At amounts (world.setTally tally account))
    (tally : Nat) :
    (source tally below).Registers register cost where
  available := registers.available
  allocate := by
    intro rest world requested minimal charged accepted size
    exact allocate_rule (registers.allocate charged accepted size)
      (fun _ _ paid => ⟨unread tally _ paid.1, paid.2⟩)
      (fun _ paid => ⟨unread tally _ paid.1, paid.2⟩)
  resize := by
    intro rest bench requested minimal carries accepted size
    exact resize_rule (registers.resize carries accepted size)
      (fun _ _ carried _ => ⟨unread tally _ carried.1, carried.2⟩)
      (fun _ _ carried _ => ⟨unread tally _ carried.1, carried.2⟩)
      (fun _ carried _ _ => ⟨unread tally _ carried.1, carried.2⟩)
      (fun _ _ carried _ _ => carried)
  free := by
    intro rest world size charged fits
    exact free_rule ((registers.free charged fits).mono
      (fun _ _ freed => unread tally _ freed) (fun _ _ stopped => stopped))

theorem Locked.registers_source
    (registers : below.Registers register cost)
    (lock : Nat) :
    (source lock below).Registers register cost where
  available := registers.available
  allocate := by
    intro rest world requested minimal charged accepted size
    refine (ends_holding _ _).mpr ?_
    have acquired : register.At rest (world.note (.acquired (.layer lock))) :=
      charged.note trivial
    refine (registers.allocate acquired accepted size).mono ?_
      (fun _ _ stopped => stopped.release _)
    intro result later paid
    exact paid.beside (.note later _) ((register.orderly paid.1).note trivial)
  resize := by
    intro rest bench requested minimal carries accepted size
    refine (ends_holdingResizing _ _).mpr ?_
    have acquired :=
      carries.beside (.note bench.world (.acquired (.layer lock)))
        (carries.orderly.note trivial)
    refine (registers.resize acquired accepted size).mono ?_
      (fun _ _ stopped => ⟨stopped.1.release _, stopped.2⟩)
    intro met later carried
    exact carried.beside (.note later.world _) (carried.orderly.note trivial)
  free := by
    intro rest world size charged fits
    refine (ends_holding _ _).mpr ?_
    have acquired : register.At (fun key => rest key + cost size key)
        (world.note (.acquired (.layer lock))) := charged.note trivial
    exact (registers.free acquired fits).mono (fun _ _ freed =>
      freed.note trivial) (fun _ _ stopped => stopped.release _)

theorem Probe.registers_source
    (registers : below.Registers register cost)
    (probe : Nat)
    (screen : Screen) :
    (source probe screen below).Registers register cost where
  available := fun _ failed => nomatch failed
  allocate := by
    intro rest world requested minimal charged accepted size
    have counted := register.beside charged (.countProbe world probe)
      ((register.orderly charged).of_same rfl rfl)
    exact allocate_rule (Register.paid_none counted)
      (registers.allocate counted (screen.le_lower accepted)
        (Nat.le_trans (screen.lower_le requested minimal) size))
  resize := by
    intro rest bench requested minimal carries accepted size
    have counted := carries.beside (.countProbe bench.world probe)
      (carries.orderly.of_same rfl rfl)
    exact resize_rule counted
      (registers.resize counted (screen.le_lower accepted)
        (Nat.le_trans (screen.lower_le requested minimal) size))
  free := registers.free

end Layers

end BufferBudget
