import BufferBudget.Proofs.Locking
import BufferBudget.Proofs.Observers

/-!
# Observers and locks are transparent

Two runs are compared over nodes that have been built in any way, on any heaps.
The one is made on the nodes as they are.  The other is made without the layers
that only look on, and without the locks of the mediators: each of its calls and
looks is on what is left of the allocator that was named.

Nothing tells the two apart but the locks themselves and the tallies.  Without
the layers that clear, too, the bytes of buffers may differ, and still nothing
else.  What the locks do, they do without standing in each other's way: in
none of these runs is a lock requested while it is held.  This counts the
locks that an owner takes to move or to read a quota that is kept behind the
lock of a layer.
-/

namespace BufferBudget

/-- A call with other allocators in the place of those that it names. -/
def Call.on (change : Allocator → Allocator) : Call → Call
  | .allocate handle allocator requested minimal =>
      .allocate handle (change allocator) requested minimal
  | .tryAllocate handle allocator requested minimal =>
      .tryAllocate handle (change allocator) requested minimal
  | .resizeSlot handle allocator requested minimal =>
      .resizeSlot handle (change allocator) requested minimal
  | .resize handle through requested minimal =>
      .resize handle (through.map change) requested minimal
  | .tryResize handle through requested =>
      .tryResize handle (through.map change) requested
  | call => call

namespace Call

variable
    {change : Allocator → Allocator}
    {property weaker : Allocator → Prop}
    {call : Call}

theorem sameBut_on (change : Allocator → Allocator) (call : Call) :
    call.SameBut (fun left right => right = change left) (call.on change) := by
  have through : ∀ allocator : Option Allocator,
      Option.Rel (fun left right => right = change left) allocator
      (allocator.map change) := by
    intro allocator
    cases allocator with
    | none => exact .none
    | some allocator => exact .some rfl
  cases call with
  | allocate handle allocator requested minimal =>
      exact .allocate handle requested minimal rfl
  | tryAllocate handle allocator requested minimal =>
      exact .tryAllocate handle requested minimal rfl
  | resizeSlot handle allocator requested minimal =>
      exact .resizeSlot handle requested minimal rfl
  | resize handle allocator requested minimal =>
      exact .resize handle requested minimal (through allocator)
  | tryResize handle allocator requested =>
      exact .tryResize handle requested (through allocator)
  | _ => exact .same rfl

/--
What the allocators of a call have makes the others in their place
have something.
-/
theorem Names.on
    (names : call.Names property)
    (changed : ∀ allocator, property allocator → weaker (change allocator)) :
    (call.on change).Names weaker := by
  have through : ∀ named : Option Allocator,
      (∀ allocator, named = some allocator → property allocator) →
        ∀ allocator, named.map change = some allocator → weaker allocator := by
    rintro named each allocator same
    obtain ⟨other, rfl, rfl⟩ := Option.map_eq_some_iff.mp same
    exact changed other (each other rfl)
  cases call with
  | allocate handle allocator requested minimal => exact changed allocator names
  | tryAllocate handle allocator requested minimal =>
      exact changed allocator names
  | resizeSlot handle allocator requested minimal =>
      exact changed allocator names
  | resize handle allocator requested minimal => exact through allocator names
  | tryResize handle allocator requested => exact through allocator names
  | _ => exact trivial

end Call

namespace Act

/-- An act with other allocators in the place of those that it names. -/
def on (change : Allocator → Allocator) : Act → Act
  | .call made => .call (made.on change)
  | .look taken => .look (taken.on change)

variable
    {change : Allocator → Allocator}
    {property weaker : Allocator → Prop}
    {act : Act}

theorem Names.mono
    (names : act.Names property)
    (weaken : ∀ allocator, property allocator → weaker allocator) :
    act.Names weaker := by
  cases act with
  | call made => exact Call.Names.mono names weaken
  | look taken =>
      cases taken with
      | available allocator => exact weaken allocator names
      | _ => exact trivial

theorem Names.on
    (names : act.Names property)
    (changed : ∀ allocator, property allocator → weaker (change allocator)) :
    (act.on change).Names weaker := by
  cases act with
  | call made => exact Call.Names.on names changed
  | look taken =>
      cases taken with
      | available allocator => exact changed allocator names
      | _ => exact trivial

end Act

/--
Two replies are alike: the same has been found, or the answers to a
call are alike.
-/
inductive Reply.Alike (exact : Prop) : Reply → Reply → Prop where
  | answered {answer other : Answer} (agrees : answer.Alike exact other) :
      Alike exact (.answered answer) (.answered other)
  | found (result : Except Fault Finding) :
      Alike exact (.found result) (.found result)

/-- Where bytes are compared, replies that are alike are the same. -/
theorem Reply.Alike.eq
    {exact : Prop}
    {reply other : Reply}
    (alike : reply.Alike exact other)
    (exactly : exact) :
    reply = other := by
  cases alike with
  | answered agrees => exact congrArg Reply.answered (agrees.eq exactly)
  | found result => rfl

/-- Of different locks those that are left are different. -/
theorem Allocator.LocksApart.without
    {allocator : Allocator}
    (apart : allocator.LocksApart)
    (removed : Layer → Bool) :
    (allocator.without removed).LocksApart :=
  List.Nodup.sublist (List.Sublist.filterMap _ List.filter_sublist) apart

namespace Session

variable {exact : Prop} {removed : Layer → Bool} {left right : Session}

/--
Two sessions are alike, the one with layers and the other without some of them.
-/
abbrev AlikeWithout
    (exact : Prop)
    (removed : Layer → Bool)
    (left right : Session) : Prop :=
  left.Alike (.besideObservers exact)
    (fun node rest => rest = node.without removed) right

section Without

variable (dispensable : ∀ layer, removed layer = true → layer.Dispensable exact)

include dispensable

/--
An act is answered like the same act without layers that can be taken out.
-/
theorem alike_act (alike : left.AlikeWithout exact removed right) (act : Act) :
    (left.act act).1.Alike exact (right.act (act.on (·.without removed))).1 ∧
      (left.act act).2.AlikeWithout exact removed
        (right.act (act.on (·.without removed))).2 := by
  cases act with
  | call made =>
      have answers :=
        Alike.perform (fun {node rest} (pair : rest = node.without removed) =>
          pair ▸ node.alike_without dispensable)
          alike (made.sameBut_on (·.without removed))
          (Likeness.shares_besideObservers made) fun _ _ _ _ => trivial
      rw [Act.on, act, act]
      generalize left.perform made = outcome at answers ⊢
      generalize right.perform (made.on (·.without removed)) =
        other at answers ⊢
      cases answers with
      | left stopped excused => exact excused.elim
      | right stopped excused => exact excused.elim
      | agree agrees still => exact ⟨.answered agrees, still⟩
  | look taken =>
      have found := alike.run (taken.alike_without dispensable)
      rw [Act.on, act, act]
      generalize left.run taken.read = outcome at found ⊢
      generalize right.run (taken.on (·.without removed)).read =
        other at found ⊢
      cases found with
      | left excused => exact excused.elim
      | right excused => exact excused.elim
      | agree agrees still =>
          cases agrees with
          | error fault => exact ⟨.found _, still⟩
          | ok same => exact same ▸ ⟨.found _, still⟩

/--
A run without layers that can be taken out is answered like the run with them,
and leaves a session that is like the one that is left there.
-/
theorem alike_actAll
    (alike : left.AlikeWithout exact removed right)
    (acts : List Act) :
    List.Forall₂ (Reply.Alike exact) (left.replies acts)
        (right.replies (acts.map (·.on (·.without removed)))) ∧
      (left.actAll acts).AlikeWithout exact removed
        (right.actAll (acts.map (·.on (·.without removed)))) := by
  induction acts generalizing left right with
  | nil => exact ⟨.nil, alike⟩
  | cons act rest ih =>
      obtain ⟨reply, still⟩ := alike_act dispensable alike act
      obtain ⟨replies, last⟩ := ih still
      exact ⟨.cons reply replies, last⟩

end Without

/--
Over nodes that are built in any way, a run without observers and locks is the
run with them: the answers, what looks find and the faults are the same, the
same handles hold the same bytes, mediators are the same but for their locks,
and trackers, probes and the diagnostics emitted are the same, and whatever is
left of an allocator reports to have left what the allocator reports.  Without
the layers that clear, all of this holds but for the bytes of buffers.  In none
of the runs has a lock been requested while it was held, and none is held
between two acts.
-/
theorem observers_are_transparent
    {ω : Type}
    {mediators : List Mediator}
    {trackers : List TrackerPlan}
    {plans : List (Plan ω)}
    {assembly : Assembly ω}
    (built : (Assembly.start mediators trackers).followAll plans = .ok assembly)
    {acts : List Act}
    (named : ∀ act ∈ acts, act.Names fun allocator => ∃ node ∈ assembly.nodes,
      node.allocator = allocator) :
    let plain := Allocator.without Layer.observes
    let bare := Allocator.without fun layer =>
      layer.observes || layer = .clearing
    let session := start assembly.world
    let unlocked := start assembly.world.unguarded
    let later := session.actAll acts
    let last := unlocked.actAll (acts.map (·.on plain))
    let rest := unlocked.actAll (acts.map (·.on bare))
    (session.replies acts = unlocked.replies (acts.map (·.on plain)) ∧
      (∀ handle, (later.shelf.find? handle).map (·.contents) =
        (last.shelf.find? handle).map (·.contents)) ∧
      later.world.SameBesideObservers last.world ∧
      ∀ allocator : Allocator,
        allocator.available later.world =
            (plain allocator).available last.world) ∧
    (List.Forall₂ (Reply.Alike False) (session.replies acts)
        (unlocked.replies (acts.map (·.on bare))) ∧
      (∀ handle, (later.shelf.find? handle).map (·.size) =
        (rest.shelf.find? handle).map (·.size)) ∧
      later.world.SameBesideObservers rest.world ∧
      ∀ allocator : Allocator,
        allocator.available later.world =
            (bare allocator).available rest.world) ∧
    later.world.Idle ∧ last.world.Idle ∧ rest.world.Idle := by
  intro plain bare session unlocked later last rest
  have observers : ∀ layer, Layer.observes layer = true →
      layer.Dispensable True :=
    fun _ observes => .inl observes
  have clearing : ∀ layer : Layer,
      (layer.observes || layer = .clearing) = true →
      layer.Dispensable False := by
    intro layer taken
    rcases Bool.or_eq_true_iff.mp taken with observes | clears
    · exact .inl observes
    · exact .inr ⟨of_decide_eq_true clears, id⟩
  have begun : ∀ exact removed, session.AlikeWithout exact removed unlocked :=
    fun _ _ => ⟨.unguarded assembly.world, fun _ => .none⟩
  obtain ⟨answers, alike⟩ :=
    alike_actAll observers (begun True Layer.observes) acts
  obtain ⟨others, like⟩ := alike_actAll clearing (begun False _) acts
  have numbered := (Assembly.numbered_start mediators trackers).followAll built
  have apart : ∀ allocator,
      (∃ node ∈ assembly.nodes, node.allocator = allocator) →
      allocator.LocksApart := by
    rintro _ ⟨node, member, rfl⟩
    exact numbered.apart node member
  have idle : later.world.Idle :=
    idle_actAll numbered.idle (holdsFrom_start _) fun act member =>
      (named act member).mono apart
  have idleWithout : ∀ removed : Layer → Bool,
      (unlocked.actAll (acts.map (·.on (·.without removed)))).world.Idle := by
    -- What is left of a stack has fewer locks, and these are still different.
    have free : unlocked.world.Idle :=
      ⟨numbered.idle.exclusive, numbered.idle.held⟩
    refine fun removed =>
      idle_actAll free (holdsFrom_start _) fun act member => ?_
    obtain ⟨original, among, rfl⟩ := List.mem_map.mp member
    exact (named original among).on fun allocator node =>
      (apart allocator node).without removed
  refine ⟨⟨?answers, alike.contents_eq trivial, alike.world, ?available⟩,
    ⟨others, fun handle => like.size_eq handle, like.world, ?left⟩, idle,
    idleWithout _, idleWithout _⟩
  case answers =>
    exact List.forall₂_eq_eq_eq ▸ answers.imp fun _ _ same => same.eq trivial
  case available =>
    exact fun allocator =>
      (allocator.alike_without observers).available alike.world
  case left =>
    exact fun allocator =>
      (allocator.alike_without clearing).available like.world

/--
A locked limit under a locked soft quota, with a tally, cleared bytes, an
enforcing tracker and an owner on top of it and a bypass beside these, all on
a small heap.  One of the calls stops at a fault, others are refused or
shortened, the owner of the locked limit moves and reads it, and locks are
taken in each of these acts.
-/
theorem observers_are_transparent_over_locked_quotas :
    let heap : Heap := ⟨fun size => size < 64⟩
    let quota : Mediator := .ofQuota (.ofCeiling 60 false true)
    let plans : List (Plan Unit) :=
      [.heap heap, .upon 0 (.lockedLimit 100 true), .upon 1 (.mediator 0),
        .upon 2 (.tally 0), .upon 3 .clearing, .upon 4 (.tracker 0 true),
        .upon 5 .lock, .upon 6 (.objects [()]), .upon 3 (.bypass 30)]
    let shared : List Layer :=
      [.tallied 0, .mediated 0, .locked 1, .mediated 1]
    let query : Lineage := Forest.lineage ⟨[none]⟩ 0
    let owner : Allocator :=
      { layers := [.relay, .locked 6, .tracked query true, .clearing] ++ shared
        heap }
    let aside : Allocator := { layers := .bypass 2 30 :: shared, heap }
    let acts : List Act :=
      [.look (.available owner), .call (.allocate 0 owner 40 20),
        .call (.allocate 1 aside 50 10), .look (.usage 1),
        .call (.write 0 2 #[7, 7]), .call (.resize 0 none 45 42),
        .call (.tryAllocate 2 owner 90 30), .call (.setCeiling 1 10),
        .look (.ceiling 1), .look (.enforced 1), .call (.resize 1 none 4 4),
        .call (.resize 0 (some aside) 50 60), .look (.budget 0),
        .call (.originAvailable 0), .call (.free 0), .look (.tracker query)]
    let plain := Allocator.without Layer.observes
    ∃ assembly : Assembly Unit,
      (Assembly.start [quota] [⟨"query", some 44, none⟩]).followAll plans =
          .ok assembly ∧
        (start assembly.world).replies acts =
          (start assembly.world.unguarded).replies (acts.map (·.on plain)) ∧
        ((start assembly.world).actAll acts).world.Exclusive ∧
        ((start assembly.world).actAll acts).world.trail.countP
          (· = .acquired (.layer 1)) = 11 := by
  intro heap quota plans shared query owner aside acts plain
  have named : ∀ act ∈ acts,
      act.Names fun allocator => allocator = owner ∨ allocator = aside := by
    simp only [acts, List.mem_cons, List.not_mem_nil, or_false,
      forall_eq_or_imp, forall_eq]
    exact ⟨.inl rfl, .inl rfl, .inr rfl, trivial, trivial, nofun, .inl rfl,
      trivial, trivial, trivial, nofun,
      fun _ same => .inr (Option.some.inj same).symm, trivial, trivial, trivial,
      trivial⟩
  refine ⟨_, rfl, ?transparent⟩
  case transparent =>
    have transparent := @observers_are_transparent Unit [quota]
      [⟨"query", some 44, none⟩] plans _ rfl acts ?among
    · exact ⟨transparent.1.1, transparent.2.2.1.exclusive, by decide +kernel⟩
    case among =>
      refine fun act member => (named act member).mono ?_
      rintro _ (rfl | rfl)
      · exact ⟨_, @List.mem_of_getElem? _ _ 7 _ rfl, rfl⟩
      · exact ⟨_, @List.mem_of_getElem? _ _ 8 _ rfl, rfl⟩

end Session

end BufferBudget
