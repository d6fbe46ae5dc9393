import BufferBudget.Proofs.Companions
import BufferBudget.Proofs.HeapGuarantee
import BufferBudget.Proofs.Requests

/-!
# Runs on a guarantee and on a limit

A run on a guarantee goes side by side with a run on a limit that is asked in
full.  `Session.inFull` says what becomes of a call: it names the limit in the
place of the guarantee, and accepts no less than it asks for.  Calls on other
allocators stay as they are, so that the two runs may share the layers below
with anything else.

What the limit reports to have left is not what the guarantee does, since a
limit looks below and a guarantee at its own amount alone.  So the figures of a
refusal may differ, and so may the answer to a question for what is left.  In
the run on the limit both are what the limit itself reports, also where it stops
at the arithmetic of a tracker below.
-/

namespace BufferBudget

namespace Session

/--
The calls of a run, each with its answer and with the session that it leaves.
-/
def outcomes (session : Session) : List Call → List (Call × Answer × Session)
  | [] => []
  | call :: rest =>
      (call, session.perform call) :: (session.perform call).2.outcomes rest

theorem transcript_eq_map_outcomes (session : Session) (calls : List Call) :
    session.transcript calls =
      (session.outcomes calls).map fun outcome => (outcome.1, outcome.2.1) := by
  induction calls generalizing session with
  | nil => rfl
  | cons call rest ih => rw [transcript, outcomes, List.map_cons, ih]

end Session

/--
An answer is the one that a limit gives in the outcome of a call, apart from the
figures of a refusal, and from what an allocator has left.  These are what the
limit reports afterwards; where it stops at the arithmetic of a tracker instead,
so does the call.
-/
inductive Answer.AlikeBesideFigures :
    Answer → Call × Answer × Session → Prop where
  | same (answer : Answer) (call : Call) (session : Session) :
      AlikeBesideFigures answer (call, answer, session)
  | refused
      (handle requested minimal least left : Nat)
      {limit : Allocator}
      {session : Session}
      {other : Nat}
      (reads : limit.available session.world = .ok other) :
      AlikeBesideFigures
        (.tried (.ok (.error (.allocation requested minimal left))))
        (.tryAllocate handle limit requested least,
          .tried (.ok (.error (.allocation requested least other))), session)
  | unread
      (handle requested minimal least left : Nat)
      {limit : Allocator}
      {session : Session}
      {fault : Fault}
      (reads : limit.available session.world = .error fault)
      (ofAmount : fault.OfAmount) :
      AlikeBesideFigures
        (.tried (.ok (.error (.allocation requested minimal left))))
        (.tryAllocate handle limit requested least,
          .tried (.error fault), session)
  | available
      (handle left : Nat)
      {buffer : Buffer}
      {session : Session}
      (held : session.shelf.find? handle = some buffer) :
      AlikeBesideFigures (.available (.ok left)) (.originAvailable handle,
        .available (buffer.originator.available session.world), session)

theorem Answer.AlikeBesideFigures.met?_eq
    {answer : Answer}
    {outcome : Call × Answer × Session}
    (alike : answer.AlikeBesideFigures outcome) :
    answer.met? = outcome.2.1.met? := by
  cases alike with
  | same => rfl
  | refused => rfl
  | unread => rfl
  | available => rfl

/-- What requests are met with is no figure of a refusal. -/
theorem Answer.met?_eq_of_forall₂
    {entries : List (Call × Answer)}
    {outcomes : List (Call × Answer × Session)}
    (alike : List.Forall₂ AlikeBesideFigures (entries.map (·.2)) outcomes) :
    entries.map (·.2.met?) = outcomes.map (·.2.1.met?) := by
  have mets := (List.forall₂_map_left_iff.mp alike).imp
    fun _ _ => AlikeBesideFigures.met?_eq
  rw [← List.forall₂_eq_eq_eq]
  exact List.forall₂_map_left_iff.mpr (List.forall₂_map_right_iff.mpr mets)

/--
The allocator that a buffer is resized through, with the limit in its place.
-/
theorem getD_limited
    (own amount : Nat)
    (through : Option Allocator)
    (buffer : Buffer) :
    (through.map (·.limited own amount)).getD
        (buffer.limited own amount).originator =
      (through.getD buffer.originator).limited own amount := by
  cases through with
  | none => rfl
  | some allocator => rfl

namespace Session

variable {own amount : Nat} {left right : Session}

/--
What a call is with a limit in the place of a guarantee of an amount, asked in
full.  Which allocator a buffer is resized through may depend on the buffer.
-/
def inFull (own amount : Nat) (session : Session) : Call → Call
  | .allocate handle allocator requested minimal =>
      .allocate handle (allocator.limited own amount) requested
        (allocator.least own amount requested minimal)
  | .tryAllocate handle allocator requested minimal =>
      .tryAllocate handle (allocator.limited own amount) requested
        (allocator.least own amount requested minimal)
  | .resizeSlot handle allocator requested minimal =>
      .resizeSlot handle (allocator.limited own amount) requested
        (allocator.least own amount requested minimal)
  | .resize handle through requested minimal =>
      .resize handle (through.map (·.limited own amount)) requested
        (match session.shelf.find? handle with
        | none => minimal
        | some buffer =>
            (through.getD buffer.originator).least own amount requested minimal)
  | .tryResize handle through requested =>
      .tryResize handle (through.map (·.limited own amount)) requested
  | call => call

/--
The calls of a run with a limit in the place of a guarantee, each asked in full.
-/
def inFullAll (own amount : Nat) (session : Session) : List Call → List Call
  | [] => []
  | call :: rest =>
      session.inFull own amount call ::
        (session.perform call).2.inFullAll own amount rest

/--
The worlds of two sessions are level, and the same handles hold the same, with a
limit in the place of a guarantee.
-/
structure Level (own amount : Nat) (left right : Session) : Prop where
  world : World.Level own amount left.world right.world
  shelf : ∀ handle, right.shelf.find? handle =
    (left.shelf.find? handle).map (Buffer.limited own amount)

/--
The same handles hold the same, the accounts are the same, and the same has
happened apart from a guarantee or a limit.
-/
structure SameApart (own amount : Nat) (left right : Session) : Prop where
  contents : ∀ handle, (left.shelf.find? handle).map (·.contents) =
    (right.shelf.find? handle).map (·.contents)
  world : left.world.SameApart own amount right.world

theorem SameApart.symm (same : SameApart own amount left right) :
    SameApart own amount right left :=
  ⟨fun handle => (same.contents handle).symm, same.world.symm⟩

theorem SameApart.trans
    {middle : Session}
    (same : SameApart own amount left middle)
    (further : SameApart own amount middle right) :
    SameApart own amount left right :=
  ⟨fun handle => (same.contents handle).trans (further.contents handle),
    same.world.trans further.world⟩

/--
A call is answered like the call on a limit, and the two leave sessions
that are level.
-/
structure InStep
    (own amount : Nat)
    (call : Call)
    (outcome other : Answer × Session) : Prop where
  answer : outcome.1.AlikeBesideFigures (call, other)
  level : Level own amount outcome.2 other.2

/--
Two operations have ended with the same result, and have left sessions
that are level.
-/
structure Returns {α : Type} (own amount : Nat) (outcome other : α × Session) :
    Prop where
  result : outcome.1 = other.1
  level : Level own amount outcome.2 other.2

variable {call : Call}

theorem Returns.inStep
    {α : Type}
    {outcome other : α × Session}
    (returns : Returns own amount outcome other)
    (answer : α → Answer) :
    InStep own amount call
      (answer outcome.1, outcome.2) (answer other.1, other.2) :=
  ⟨returns.result ▸ .same _ _ _, returns.level⟩

theorem InStep.same {answer : Answer} (level : Level own amount left right) :
    InStep own amount call (answer, left) (answer, right) :=
  ⟨.same _ _ _, level⟩

namespace Level

variable (level : Level own amount left right)

include level

theorem sameApart : SameApart own amount left right where
  contents := by
    intro handle
    rw [level.shelf, Option.map_map]
    rfl
  world := level.world.same

theorem insert
    {later last : World}
    (still : World.Level own amount later last)
    (handle : Nat)
    (buffer : Buffer) :
    Level own amount
      { world := later, shelf := left.shelf.insert handle buffer }
      { world := last,
        shelf := right.shelf.insert handle (buffer.limited own amount) } where
  world := still
  shelf := by
    intro place
    rw [Shelf.find?_insert, Shelf.find?_insert]
    split
    · rfl
    · exact level.shelf place

theorem erase
    {later last : World}
    (still : World.Level own amount later last)
    (handle : Nat) :
    Level own amount { world := later, shelf := left.shelf.erase handle }
      { world := last, shelf := right.shelf.erase handle } where
  world := still
  shelf := by
    intro place
    rw [Shelf.find?_erase, Shelf.find?_erase]
    split
    · rfl
    · exact level.shelf place

theorem run
    {α β : Type}
    {agree : α → β → Prop}
    {operation : Operation α}
    {other : Operation β}
    (pair : EndAlike
      (fun _ => False) (World.Level own amount) agree operation other) :
    ExceptRel agree (left.run operation).1 (right.run other).1 ∧
      Level own amount (left.run operation).2 (right.run other).2 := by
  have ended := pair _ _ level.world
  rw [Session.run, Session.run, Operation.perform, Operation.perform]
  generalize operation.run left.world = result at ended ⊢
  generalize other.run right.world = given at ended ⊢
  cases ended using EndedAlike.unexcused with
  | values agrees still => exact ⟨.ok agrees, still, level.shelf⟩
  | faults still => exact ⟨.error _, still, level.shelf⟩

/-- An operation on accounts that both sessions perform. -/
theorem runSame
    {α : Type}
    {operation : Operation α}
    (repeats : Operation.Repeats (World.Level own amount) operation)
    (answer : Except Fault α → Answer) :
    InStep own amount call
      (answer (left.run operation).1, (left.run operation).2)
      (answer (right.run operation).1, (right.run operation).2) := by
  obtain ⟨agrees, still⟩ := level.run repeats
  rw [agrees.eq]
  exact .same still

/--
What is left is read on both sides, whatever it is, and may be read again.
Where it is not the same, the left side reads the amount of a guarantee,
which cannot fail.
-/
theorem runAvailable (allocator : Allocator) :
    let (result, later) := left.run allocator.source.readAvailable
    let (other, last) :=
      right.run (allocator.limited own amount).source.readAvailable
    Level own amount later last ∧
      (allocator.limited own amount).available last.world = other ∧
      (∀ fault, other = .error fault → fault.OfAmount) ∧
      (result = other ∨ ∃ rest, result = .ok rest) := by
  rw [run_readAvailable, run_readAvailable]
  have quiet := allocator.stepwise_source.readLocks left.world
  have others :=
    (allocator.limited own amount).stepwise_source.readLocks right.world
  have noted : World.Level own amount right.world (right.world.noteAll
      ((allocator.limited own amount).source.readLocks right.world)) :=
    ⟨.quiet _ others, level.world.same.mediators ▸ level.world.capped⟩
  refine ⟨⟨level.world.shift (.quiet _ quiet) (.quiet _ others), level.shelf⟩,
    ?_, ?_, ?_⟩
  · exact (((allocator.limited own amount).repeats_source
      World.used_level).available noted).symm
  · exact fun fault => (allocator.limited own amount).ranged_source.available
  by_cases guarantees : allocator.guarantees own amount = true
  · right
    obtain ⟨below, rfl⟩ := Allocator.eq_add_of_guarantees guarantees
    exact ⟨_, rfl⟩
  · left
    rw [Allocator.limited, if_neg guarantees]
    exact (allocator.repeats_source World.used_level).available level.world

/-- The allocator of a held buffer is asked for what it has left. -/
theorem originAvailable
    {handle : Nat}
    {buffer : Buffer}
    (held : left.shelf.find? handle = some buffer) :
    let limit := (buffer.limited own amount).originator
    let (result, later) := left.run buffer.originator.source.readAvailable
    let (other, last) := right.run limit.source.readAvailable
    InStep own amount (.originAvailable handle) (.available result, later)
      (.available other, last) := by
  have read := level.runAvailable buffer.originator
  have kept : (right.run
      (buffer.limited own amount).originator.source.readAvailable).2.shelf.find?
        handle = some (buffer.limited own amount) := by
    rw [run_readAvailable, level.shelf handle, held]
    rfl
  dsimp only at read ⊢
  obtain ⟨still, reads, -, same | ⟨rest, found⟩⟩ := read
  · exact ⟨same ▸ .same _ _ _, still⟩
  · have alike := Answer.AlikeBesideFigures.available handle rest kept
    exact ⟨found ▸ reads ▸ alike, still⟩

variable (size : amount ≤ Size.limit)

include size

theorem release (handle : Nat) :
    Returns own amount (left.release handle) (right.release handle) := by
  rw [Session.release, Session.release, level.shelf handle]
  cases left.shelf.find? handle with
  | none => exact ⟨rfl, level⟩
  | some buffer =>
      have ended :=
        (buffer.originator.twins_source size).free buffer.size _ _ level.world
      have freed : (buffer.limited own amount).free =
          (buffer.originator.limited own amount).source.free buffer.size := rfl
      dsimp only [Option.map_some]
      rw [freed, Buffer.free, Operation.perform, Operation.perform]
      generalize (buffer.originator.source.free buffer.size).run left.world =
        result at ended ⊢
      generalize ((buffer.originator.limited own amount).source.free
        buffer.size).run right.world = given at ended ⊢
      cases ended using EndedAlike.unexcused with
      | values agrees still => exact ⟨rfl, level.erase still handle⟩
      | faults still => exact ⟨rfl, level.erase still handle⟩

theorem allocateInto
    (handle : Nat)
    (allocator : Allocator)
    (requested minimal : Nat) :
    Returns own amount (left.allocateInto handle allocator requested minimal)
      (right.allocateInto handle (allocator.limited own amount) requested
        (allocator.least own amount requested minimal)) := by
  have ran := level.run (allocator.twins_allocate size requested minimal)
  rw [Session.allocateInto, Session.allocateInto]
  generalize left.run (allocator.allocate requested minimal) = outcome at ran ⊢
  generalize right.run ((allocator.limited own amount).allocate requested
    (allocator.least own amount requested minimal)) = given at ran ⊢
  obtain ⟨result, later⟩ := outcome
  obtain ⟨other, last⟩ := given
  obtain ⟨agrees, still⟩ := ran
  cases agrees with
  | error fault => exact ⟨rfl, still⟩
  | @ok made others agrees =>
      subst agrees
      cases made with
      | none => exact ⟨rfl, still⟩
      | some buffer => exact ⟨rfl, still.insert still.world handle buffer⟩

/-- A request that gives figures where it is refused. -/
theorem tryAllocateInto
    (handle : Nat)
    (allocator : Allocator)
    (requested minimal : Nat) :
    let (result, later) :=
      left.tryAllocateInto handle allocator requested minimal
    let (other, last) :=
      right.tryAllocateInto handle (allocator.limited own amount) requested
        (allocator.least own amount requested minimal)
    InStep own amount
      (.tryAllocate handle (allocator.limited own amount) requested
        (allocator.least own amount requested minimal))
      (.tried result, later) (.tried other, last) := by
  have made := level.allocateInto size handle allocator requested minimal
  rw [tryAllocateInto_eq, tryAllocateInto_eq]
  generalize left.allocateInto handle allocator requested minimal =
    outcome at made ⊢
  generalize right.allocateInto handle (allocator.limited own amount) requested
    (allocator.least own amount requested minimal) = given at made ⊢
  obtain ⟨result, later⟩ := outcome
  obtain ⟨other, last⟩ := given
  obtain ⟨rfl, still⟩ := made
  cases result with
  | error fault => exact .same still
  | ok made =>
      cases made with
      | some contents => exact .same still
      | none =>
          have read := still.runAvailable allocator
          dsimp only
          generalize later.run allocator.source.readAvailable =
            outcome at read ⊢
          generalize last.run
                (allocator.limited own amount).source.readAvailable = given
            at read ⊢
          obtain ⟨result, later⟩ := outcome
          obtain ⟨other, last⟩ := given
          obtain ⟨level, reads, ofAmount, figures⟩ := read
          cases other with
          | ok others =>
              obtain ⟨rest, rfl⟩ : ∃ rest, result = .ok rest :=
                figures.elim (fun same => ⟨others, same⟩) id
              exact ⟨.refused _ _ _ _ _ reads, level⟩
          | error fault =>
              rcases figures with rfl | ⟨rest, rfl⟩
              · exact .same level
              · exact ⟨.unread _ _ _ _ _ reads (ofAmount fault rfl), level⟩

omit size in
theorem resizeHeld
    {α : Type}
    (handle : Nat)
    (buffer : Buffer)
    {resizing other : Resizing α}
    (pair : EndAlike (fun _ => False)
      (Workbench.Related (World.Level own amount)) Eq resizing other)
    (answer : Except Fault α → Contents → Answer) :
    let (result, contents, later) := left.resizeHeld handle buffer resizing
    let (given, kept, last) :=
      right.resizeHeld handle (buffer.limited own amount) other
    InStep own amount call
      (answer result contents, later) (answer given kept, last) := by
  have ended := pair { world := left.world, contents := buffer.contents }
    { world := right.world, contents := buffer.contents } ⟨level.world, rfl⟩
  have same : (buffer.limited own amount).contents = buffer.contents := rfl
  rw [Session.resizeHeld, Session.resizeHeld, Resizing.perform,
    Resizing.perform, same]
  generalize resizing.run
        { world := left.world, contents := buffer.contents } = result
    at ended ⊢
  generalize other.run
        { world := right.world, contents := buffer.contents } = given
    at ended ⊢
  have held : ∀ {later last : Workbench},
      Workbench.Related (World.Level own amount) later last →
      Level own amount
        { world := later.world
          shelf := left.shelf.insert handle
            { buffer with contents := later.contents } }
        { world := last.world
          shelf := right.shelf.insert handle
            { buffer.limited own amount with contents := last.contents } } := by
    intro later last still
    rw [← still.contents]
    exact level.insert still.world handle
      { buffer with contents := later.contents }
  cases ended using EndedAlike.unexcused with
  | values agrees still =>
      subst agrees
      exact ⟨still.contents ▸ .same _ _ _, held still⟩
  | faults still => exact ⟨still.contents ▸ .same _ _ _, held still⟩

theorem performNew
    (handle : Nat)
    {next follow : Session → Answer × Session}
    {stopped : Fault → Answer}
    (rest : ∀ {later last}, Level own amount later last →
      InStep own amount call (next later) (follow last)) :
    InStep own amount call (left.performNew handle next stopped)
      (right.performNew handle follow stopped) := by
  have released := level.release size handle
  rw [Session.performNew, Session.performNew]
  generalize left.release handle = outcome at released ⊢
  generalize right.release handle = given at released ⊢
  obtain ⟨result, later⟩ := outcome
  obtain ⟨other, last⟩ := given
  obtain ⟨rfl, still⟩ := released
  cases result with
  | ok freed => exact rest still
  | error fault => exact .same still

omit size in
theorem performHeld
    (handle : Nat)
    {next follow : Buffer → Answer × Session}
    (rest : ∀ buffer, left.shelf.find? handle = some buffer → InStep own amount
      call (next buffer) (follow (buffer.limited own amount))) :
    InStep own amount call
      (left.performHeld handle next) (right.performHeld handle follow) := by
  rw [Session.performHeld, Session.performHeld, level.shelf handle]
  cases held : left.shelf.find? handle with
  | none => exact .same level
  | some buffer => exact rest buffer held

omit size in
theorem performWrite (handle : Nat) (edit : Contents → Contents) :
    InStep own amount call (left.performWrite handle edit)
      (right.performWrite handle edit) :=
  level.performHeld handle fun buffer _ => .same (level.insert level.world
    handle { buffer with contents := edit buffer.contents })

/--
Every call but one that moves the ceiling of the quota is answered alike by a
guarantee and by a limit that is asked in full.
-/
theorem perform
    {call : Call}
    (fixed : ∀ ceiling, call ≠ .setCeiling own ceiling) :
    InStep own amount (left.inFull own amount call) (left.perform call)
      (right.perform (left.inFull own amount call)) := by
  cases call with
  | allocate handle allocator requested minimal =>
      exact level.performNew size handle fun still =>
        (still.allocateInto size handle allocator requested minimal).inStep
        .allocated
  | tryAllocate handle allocator requested minimal =>
      exact level.performNew size handle fun still =>
        still.tryAllocateInto size handle allocator requested minimal
  | resizeSlot handle allocator requested minimal =>
      rw [inFull, Session.perform, Session.perform, level.shelf handle]
      cases left.shelf.find? handle with
      | none =>
          exact
            (level.allocateInto size handle allocator requested minimal).inStep
            fun result =>
            .resized (result.map Option.isSome) (result.toOption.bind id)
      | some buffer =>
          exact level.resizeHeld handle buffer
            (allocator.twins_resize size requested minimal)
            fun result contents => .resized result (some contents)
  | resize handle through requested minimal =>
      refine level.performHeld handle fun buffer held => ?_
      rw [held]
      dsimp only
      rw [getD_limited]
      exact level.resizeHeld handle buffer
        (Allocator.twins_resize size _ requested minimal) fun result contents =>
        .resized result (some contents)
  | tryResize handle through requested =>
      refine level.performHeld handle fun buffer _ => ?_
      dsimp only
      rw [getD_limited]
      exact level.resizeHeld handle buffer
        (Allocator.twins_tryResize size _ requested) .triedResize
  | free handle => exact (level.release size handle).inStep .freed
  | fill handle byte => exact level.performWrite handle (·.fill byte)
  | write handle offset bytes =>
      exact level.performWrite handle (·.write offset bytes)
  | read handle => exact level.performHeld handle fun _ _ => .same level
  | originAvailable handle =>
      refine level.performHeld handle fun buffer held => ?_
      exact level.originAvailable held
  | describe handle address =>
      exact level.performHeld handle fun _ _ => .same level
  | setCeiling mediator ceiling =>
      have other : mediator ≠ own := fun same => fixed ceiling (same ▸ rfl)
      exact level.runSame (World.Level.repeats_setCeiling other ceiling) .done
  | mediatorAllocate mediator requested minimal =>
      exact level.runSame
        (World.used_level.allocate mediator requested minimal) .granted
  | mediatorFree mediator returned =>
      exact level.runSame (World.used_level.free mediator returned) .done
  | tryConsume lineage bytes =>
      exact level.runSame (Charging.endAlike_tryConsume World.used_level.charged
        lineage bytes) .admitted
  | consume lineage bytes =>
      exact level.runSame
        (Charging.endAlike_consume World.used_level.charged lineage bytes) .done
  | release lineage bytes =>
      exact level.runSame
        (Charging.endAlike_release World.used_level.charged lineage bytes) .done

/--
A run on a guarantee and one on a limit that is asked in full are answered
alike, call by call.
-/
theorem performAll
    {calls : List Call}
    (fixed : ∀ call ∈ calls, ∀ ceiling, call ≠ .setCeiling own ceiling) :
    List.Forall₂ Answer.AlikeBesideFigures ((left.transcript calls).map (·.2))
        (right.outcomes (left.inFullAll own amount calls)) ∧
      Level own amount (left.performAll calls)
        (right.performAll (left.inFullAll own amount calls)) := by
  induction calls generalizing left right with
  | nil => exact ⟨.nil, level⟩
  | cons call rest ih =>
      have step := level.perform size (fixed call List.mem_cons_self)
      obtain ⟨answers, last⟩ :=
        ih step.level fun other member =>
          fixed other (List.mem_cons_of_mem call member)
      exact ⟨.cons step.answer answers, last⟩

end Level

/-- A call that is sized is sized in full. -/
theorem sized_inFull
    (own amount : Nat)
    (session : Session)
    {call : Call}
    (sized : call.Sized) :
    (session.inFull own amount call).Sized := by
  cases call <;> exact sized

theorem sized_inFullAll
    (own amount : Nat)
    (session : Session)
    {calls : List Call}
    (sized : ∀ call ∈ calls, call.Sized) :
    ∀ call ∈ session.inFullAll own amount calls, call.Sized := by
  induction calls generalizing session with
  | nil => exact fun _ member => absurd member List.not_mem_nil
  | cons call rest ih =>
      intro other member
      rcases List.mem_cons.mp member with rfl | later
      · exact session.sized_inFull own amount (sized call List.mem_cons_self)
      · exact ih _ (fun other member =>
          sized other (List.mem_cons_of_mem call member)) other later

/--
A call is put to an allocator: it is a request for a new buffer, or to
resize a held one.
-/
def Addresses (session : Session) (allocator : Allocator) (call : Call) :
    Prop :=
  ∃ handle, session.Makes handle allocator call ∨
    ∃ buffer, session.Refits handle allocator buffer call

/--
A request that is put to a guarantee asks the limit for the same size
and nothing less.
-/
theorem request_inFull
    {session : Session}
    {below : Allocator}
    {call : Call}
    (addresses : session.Addresses (below.add (.guaranteed own amount)) call)
    {requested minimal : Nat}
    (request : call.request? = some (requested, minimal))
    (accepted : minimal ≤ requested) :
    (session.inFull own amount call).request? =
      some (requested, requested) := by
  have full : max requested minimal = requested := Nat.max_eq_left accepted
  rcases addresses with ⟨handle, makes | ⟨buffer, refits⟩⟩
  · cases makes <;> cases request <;> simp [inFull, Call.request?, full]
  · cases refits with
    | resizeSlot => cases request; simp [inFull, Call.request?, full]
    | resize through _ _ held same =>
        cases request
        simp [inFull, Call.request?, held, same, full]
    | tryResize => cases request; rfl

/-- What a guarantee grants is what is asked for. -/
theorem Level.granted_eq
    (level : Level own amount left right)
    (size : amount ≤ Size.limit)
    (orderly : right.world.Orderly)
    {below : Allocator}
    {call : Call}
    (addresses : left.Addresses (below.add (.guaranteed own amount)) call)
    {requested minimal : Nat}
    (request : call.request? = some (requested, minimal))
    (accepted : minimal ≤ requested)
    (fits : requested ≤ Size.limit)
    {granted : Nat}
    (met : (left.perform call).1.met? = some granted) :
    granted = requested := by
  have fixed : ∀ ceiling, call ≠ .setCeiling own ceiling := by
    rintro ceiling rfl
    exact nomatch request
  have full := request_inFull addresses request accepted
  have serves := serves_perform orderly (Call.sized_of_request full fits)
  -- A limit keeps between what is asked for and what is accepted, which in
  -- full are the same.
  rw [(level.perform size fixed).answer.met?_eq] at met
  obtain ⟨atLeast, atMost⟩ :=
    (serves.2 requested requested full (Nat.le_refl _)).1 granted met
  exact Nat.le_antisymm atMost atLeast

end Session

/-- A quota that has just been opened stands at no usage. -/
theorem Assembly.entry_openQuota
    {ω : Type}
    (assembly : Assembly ω)
    (amount : Nat) :
    (assembly.openQuota amount true).2.world.mediators.entry
        assembly.nextMediator = .capped amount 0 :=
  if_pos rfl

namespace Session

/--
Where a quota has just been opened for a guarantee, or for a limit, a session is
level with itself.
-/
theorem level_opened {ω : Type} (assembly : Assembly ω) (amount : Nat) :
    let opened := (assembly.openQuota amount true).2.world
    Level assembly.nextMediator amount (start opened) (start opened) :=
  ⟨⟨.refl _, 0, Nat.zero_le amount, assembly.entry_openQuota amount⟩,
    fun _ => rfl⟩

/--
A guarantee of an amount is a limit of the amount that is asked in full.
Whatever it is built on, and whatever is done with it and with anything else,
apart from calls on its quota, which it keeps to itself: the limit answers the
same calls alike if each is put to it in full, the same handles hold the same,
the accounts are the same, the usage among them, and so is what has happened
below, to the last call.

So a request is met with what it asks for or not at all, and two runs that are
the same in full do not differ in what they meet.  Over the heap, a request is
met just if what the buffer lacks is no more than the amount less the bytes that
are held, and the heap serves it.
-/
theorem guarantee_is_exact_limit
    {ω : Type}
    {assembly guaranteed limited : Assembly ω}
    (fresh : assembly.world.Fresh)
    {below : Allocator}
    {amount : Nat}
    (size : amount ≤ Size.limit)
    (built : assembly.build below (.guarantee amount) = .ok guaranteed)
    (instead : assembly.build below (.limit amount true) = .ok limited)
    {calls : List Call}
    (sized : ∀ call ∈ calls, call.Sized)
    (apart : ∀ call ∈ calls, call.mediator? ≠ some assembly.nextMediator) :
    let own := assembly.nextMediator
    let guarantee := below.add (.guaranteed own amount)
    let begun := start guaranteed.world
    let inFull := begun.inFullAll own amount calls
    let session := begun.performAll calls
    (guaranteed.allocator? assembly.nodes.length = some guarantee ∧
      limited.allocator? assembly.nodes.length =
          some (guarantee.limited own amount)) ∧
    (List.Forall₂ Answer.AlikeBesideFigures ((begun.transcript calls).map (·.2))
        ((start limited.world).outcomes inFull) ∧
      session.SameApart own amount ((start limited.world).performAll inFull)) ∧
    (∀ call requested minimal granted, session.Addresses guarantee call →
      call.request? = some (requested, minimal) → minimal ≤ requested →
      requested ≤ Size.limit → (session.perform call).1.met? = some granted →
      granted = requested) ∧
    (∀ similar, begun.inFullAll own amount similar = inFull →
      (∀ call ∈ similar, call.mediator? ≠ some own) →
      (begun.transcript similar).map (·.2.met?) =
          (begun.transcript calls).map (·.2.met?) ∧
        (begun.performAll similar).SameApart own amount session) ∧
    ∀ heap, below = .onHeap heap →
      (∀ call ∈ calls, call.Names (· = guarantee)) →
      ∀ call handle requested minimal,
        call.request? = some (requested, minimal) →
        minimal ≤ requested →
        (session.Makes handle guarantee call →
          (session.perform call).1.met? =
            if requested ≤ amount - (session.release handle).2.live ∧
                heap.serves requested = true then
              some requested
            else none) ∧
        ∀ buffer, session.Refits handle guarantee buffer call →
          (session.perform call).1.met? =
            if requested - buffer.size ≤ amount - session.live ∧
                (requested ≤ buffer.size ∨ heap.serves requested = true) then
              some requested
            else none := by
  obtain rfl := Except.ok.inj built
  obtain rfl := Except.ok.inj instead
  intro own guarantee begun inFull session
  have level : Level own amount begun begun := level_opened assembly amount
  have fixed : ∀ {others : List Call},
      (∀ call ∈ others, call.mediator? ≠ some own) →
      ∀ call ∈ others, ∀ ceiling, call ≠ .setCeiling own ceiling := by
    rintro others apart call member ceiling rfl
    exact apart _ member rfl
  obtain ⟨answers, last⟩ := level.performAll size (fixed apart)
  refine ⟨⟨?_, ?_⟩, ⟨answers, last.sameApart⟩, ?exact, ?similar, ?heap⟩
  · simp [Assembly.allocator?, Assembly.push, guarantee, own]
  · simp [Assembly.allocator?, Assembly.push, guarantee, own]
  case exact =>
    intro call requested minimal granted addresses request accepted fits met
    have orderly :=
      orderly_performAll (Assembly.fresh_openQuota fresh size true)
        (begun.sized_inFullAll own amount sized)
    exact last.granted_eq size orderly addresses request accepted fits met
  case similar =>
    -- Each of the two runs goes side by side with the one run on the limit.
    intro similar same apartToo
    obtain ⟨answersToo, lastToo⟩ := level.performAll size (fixed apartToo)
    rw [same] at answersToo lastToo
    refine ⟨?_, lastToo.sameApart.trans last.sameApart.symm⟩
    rw [Answer.met?_eq_of_forall₂ answersToo, Answer.met?_eq_of_forall₂ answers]
  case heap =>
    rintro heap rfl names call handle requested minimal request accepted
    have counts : session.Counts heap own amount :=
      (counts_start heap (assembly.entry_openQuota amount)).performAll
        size names apart
    refine ⟨fun makes => ?_, fun buffer refits => ?_⟩
    · rw [(counts.perform_makes size makes request).2 accepted,
        heap.allots_self]
    · rw [(counts.perform_refits size refits request).2 accepted,
        heap.refits_self]

/--
On a heap that serves up to 80 bytes, with an amount of 100: a request is
met, the next one is refused whatever it accepts, the heap refuses growth
that is left, a buffer is cut, and nothing is asked for and given.  A limit
meets the same requests with the same in full, and then 80 bytes are left
for 60 that a buffer lacks.
-/
theorem guarantee_is_exact_limit_on_small_heap :
    let heap : Heap := { serves := fun size => size ≤ 80 }
    let assembly : Assembly Unit := .start [] []
    let guarantee : Allocator := (Allocator.onHeap heap).add (.guaranteed 0 100)
    let calls : List Call :=
      [.allocate 0 guarantee 60 10, .allocate 1 guarantee 50 5,
        .resize 0 none 100 20, .tryAllocate 1 guarantee 90 0,
        .resize 0 none 20 5, .allocate 1 guarantee 0 0]
    ∃ guaranteed limited,
      assembly.build (.onHeap heap) (.guarantee 100) = .ok guaranteed ∧
      assembly.build (.onHeap heap) (.limit 100 true) = .ok limited ∧
      let begun := start guaranteed.world
      ((start limited.world).transcript (begun.inFullAll 0 100 calls)).map
          (·.2.met?) = [some 60, none, none, none, some 20, some 0] ∧
      ((begun.performAll calls).perform
        (.resize 0 (some guarantee) 80 1)).1.met? = some 80 := by
  intro heap assembly guarantee calls
  have fresh : assembly.world.Fresh :=
    .start (fun _ member => absurd member List.not_mem_nil)
      fun _ member => absurd member List.not_mem_nil
  have sized : ∀ call ∈ calls, call.Sized := by
    simp [calls, Call.Sized, Size.limit]
  have apart : ∀ call ∈ calls, call.mediator? ≠ some assembly.nextMediator := by
    simp [calls, Call.mediator?]
  have names : ∀ call ∈ calls, call.Names (· = guarantee) := by
    simp [calls, Call.Names]
  obtain ⟨-, ⟨answers, -⟩, -, -, overHeap⟩ :=
    guarantee_is_exact_limit fresh
      (by decide : 100 ≤ Size.limit) rfl rfl sized apart
  refine ⟨_, _, rfl, rfl, ?_, ?_⟩
  · rw [transcript_eq_map_outcomes, List.map_map]
    refine (Answer.met?_eq_of_forall₂ answers).symm.trans ?_
    decide +kernel
  · have live :
        ((start (assembly.openQuota 100 true).2.world).performAll calls).live =
          20 := by
      decide +kernel
    have sizes : (((start (assembly.openQuota 100 true).2.world).performAll
        calls).shelf.find? 0).map (·.size) = some 20 := by
      decide +kernel
    obtain ⟨buffer, held, twenty⟩ := Option.map_eq_some_iff.mp sizes
    have grows := overHeap heap rfl names
      (.resize 0 (some guarantee) 80 1) 0 80 1 rfl (by decide)
    refine (grows.2 buffer (.resize (some guarantee) 80 1 held rfl)).trans
      (if_pos ⟨?_, .inr rfl⟩)
    rw [twenty]
    exact live.symm ▸ (by decide : 80 - 20 ≤ 100 - 20)

end Session

end BufferBudget
