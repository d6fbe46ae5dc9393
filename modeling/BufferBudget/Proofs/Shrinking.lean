import BufferBudget.Proofs.Ceiling
import BufferBudget.Proofs.Cutting
import BufferBudget.Proofs.Refusal
import BufferBudget.Proofs.Statistics

/-!
# A held buffer can always be made smaller

The contract of sources about cuts, carried up to the calls of a session.
Whatever has been called before, a buffer is cut through the allocator that it
came from to exactly the size that is asked for, unless a counter of a tracker
would leave its range.

What accounts lose by it is first read off their standing (`World.Relieved`): a
quota stops at zero there, and a tally keeps the remainder past the largest
size.  Neither happens where the accounts agree with what is held, since the
buffer is held for at least the bytes that it loses.
-/

namespace BufferBudget

/--
Every account has lost some bytes once for each layer of an allocator
that charges it.
-/
structure World.Relieved
    (world : World)
    (allocator : Allocator)
    (bytes : Nat)
    (later : World) : Prop where
  quotas : ∀ key quota, world.mediators.entry key = .ofQuota quota →
    later.mediators.entry key =
      .ofQuota (quota.free (bytes * allocator.countLayers (·.charges key)))
  arbiters : ∀ key arbiter, world.mediators.entry key = .ofArbiter arbiter →
    ∃ next, later.mediators.entry key = .ofArbiter next ∧
      next.balance =
        arbiter.balance - bytes * allocator.countLayers (·.charges key)
  trackers : (bytes : Int) ≤ Amount.greatest → ∀ key,
    (later.trackers.entry key).consumption =
    (world.trackers.entry key).consumption -
      bytes * allocator.countLayers (·.chargesTracker key)
  granted : ∀ key, (later.tallies.entry key).allocatedBytes =
    (world.tallies.entry key).allocatedBytes
  freed : ∀ key, (world.tallies.entry key).freedBytes ≤ Size.limit →
    (later.tallies.entry key).freedBytes =
      Size.wrap ((world.tallies.entry key).freedBytes +
        bytes * allocator.countLayers (·.reports key))

namespace World.HandsBack

variable {world later : World} {allocator : Allocator} {bytes : Nat}

/-- Where layers have given bytes back, the accounts are relieved of them. -/
theorem relieved
    (genuine : allocator.Genuine)
    (handsBack : world.HandsBack (Standing.shed bytes allocator.layers) later) :
    world.Relieved allocator bytes later := by
  have mediators : ∀ key, (later.mediators.entry key).standing =
      (world.mediators.entry key).standing.repay
        (bytes * allocator.countLayers (·.charges key)) := fun key =>
    (congrArg (Standing.mediators · key) handsBack.standing).trans
      (Standing.mediators_shed allocator.layers key)
  refine ⟨?_, ?_, ?_, ?_, ?_⟩
  · exact fun key quota held => handsBack.entry held
  · intro key arbiter held
    have stands := mediators key
    rw [held] at stands
    cases account : later.mediators.entry key with
    | ofQuota quota =>
        rw [account] at stands
        exact nomatch stands
    | ofArbiter next =>
        rw [account] at stands
        have balance := MediatorStanding.ofBalance.inj stands
        refine ⟨next, rfl, ?_⟩
        rw [balance, Int.natCast_mul]
        omega
  · intro small key
    have counted : Amount.ofSize bytes = bytes := Int.min_eq_right small
    have consumed :=
      (congrArg (Standing.consumption · key) handsBack.standing).trans
        (Standing.consumption_shed genuine key)
    rw [counted] at consumed
    exact consumed
  · intro key
    exact (congrArg (Standing.allocatedBytes · key) handsBack.standing).trans
      (congrFun (Standing.allocatedBytes_shed allocator.layers) key)
  · intro key small
    exact (congrArg (Standing.freedBytes · key) handsBack.standing).trans
      (Standing.freedBytes_shed_of_le allocator.layers small)

/-- What has happened since, from the age of the world before. -/
theorem undemanding
    {change : Standing → Standing}
    (handsBack : world.HandsBack change later) :
    ∀ event ∈ later.since world.age, event.Undemanding := by
  obtain ⟨events, trail, undemanding⟩ := handsBack.trail
  have since : later.since world.age = events.reverse := by
    simp [World.since, World.age, trail]
  intro event member
  exact undemanding event (List.mem_reverse.mp (since ▸ member))

end World.HandsBack

/-- A request to cut a buffer is met through any genuine allocator. -/
theorem Allocator.cut_resize
    {allocator : Allocator}
    (genuine : allocator.Genuine)
    {requested minimal : Nat}
    {bench : Workbench}
    (accepted : minimal ≤ requested)
    (smaller : requested ≤ bench.contents.size) :
    Ends (allocator.resize requested minimal) bench
      (Cut allocator.layers requested bench) (fun fault _ =>
        Unborne bench.world allocator.layers
          (bench.contents.size - requested) fault) := by
  refine resize_rule _ (fun wrong => absurd wrong (Nat.not_lt.mpr accepted))
    (fun _ => (shrinks_source genuine).resize minimal smaller) ?_
  intro met later cut diagnostics
  refine ⟨cut.met, cut.contents,
    cut.world.trans (.noteAll fun event member => ?_)⟩
  obtain ⟨diagnostic, -, rfl⟩ := List.mem_map.mp member
  exact trivial

namespace Session

/--
The buffer under a handle has been cut to a size, the request was met, no
mediator was asked for anything and no tracker charged, and every account has
lost the bytes that are gone.
-/
structure CutsTo
    (session : Session)
    (handle : Nat)
    (buffer : Buffer)
    (size : Nat)
    (outcome : Answer × Session) : Prop where
  met : outcome.1.met? = some size
  held : ∃ after, outcome.2.shelf.find? handle = some after ∧
    after.originator = buffer.originator ∧ after.size = size ∧
      ∀ index < size, after.contents[index]? = buffer.contents[index]?
  undemanding : ∀ event ∈ outcome.2.world.since session.world.age,
    event.Undemanding
  relieved : session.world.Relieved buffer.originator
    (buffer.size - size) outcome.2.world

/--
A call has cut a buffer, unless it has stopped because trackers cannot bear it.
-/
def Cuts
    (session : Session)
    (handle : Nat)
    (buffer : Buffer)
    (size : Nat)
    (outcome : Answer × Session) : Prop :=
  (∀ fault, outcome.1.fault? = some fault → fault.OfAmount ∧
      ¬session.world.Bears buffer.originator.layers (buffer.size - size)) ∧
    (outcome.1.fault? = none → session.CutsTo handle buffer size outcome)

variable {session : Session} {handle requested minimal : Nat} {buffer : Buffer}

theorem cuts_perform
    {through : Option Allocator}
    (measured : session.world.Measured)
    (held : session.shelf.find? handle = some buffer)
    (genuine : buffer.originator.Genuine)
    (own : through.getD buffer.originator = buffer.originator)
    (accepted : minimal ≤ requested)
    (smaller : requested ≤ buffer.size) :
    session.Cuts handle buffer requested
      (session.perform (.resize handle through requested minimal)) := by
  rw [perform_resize_of_held held own]
  refine resizeHeld_rule (fun result contents later => session.Cuts handle
    buffer requested (.resized result (some contents), later)) ?_
  have resized : Ends (buffer.originator.resize requested minimal)
      { world := session.world, contents := buffer.contents }
      (Cut buffer.originator.layers requested
        { world := session.world, contents := buffer.contents })
      (fun fault _ => Unborne session.world buffer.originator.layers
        (buffer.size - requested) fault) :=
    Allocator.cut_resize genuine accepted smaller
  refine resized.mono ?_ ?_
  · intro met later cut
    obtain rfl : met = true := cut.met
    have size : later.contents.size = requested := cut.size_eq smaller
    refine ⟨nofun, fun _ => ⟨congrArg some size, ?_, cut.world.undemanding,
      cut.world.relieved genuine⟩⟩
    refine ⟨{ buffer with contents := later.contents },
      session.shelf.find?_insert_self handle _, rfl, size, fun index kept => ?_⟩
    show later.contents[index]? = buffer.contents[index]?
    rw [cut.contents]
    exact Contents.getElem?_truncate_of_lt buffer.contents kept
  · intro fault later unborne
    refine ⟨?_, nofun⟩
    rintro _ ⟨⟩
    exact ⟨unborne.1, unborne.2 measured⟩

/--
A quota that the books agree with has been charged at least what a
held buffer costs.
-/
theorem cost_le_usage
    {world : World}
    (fresh : world.Fresh)
    {calls : List Call}
    (follows : (start world).Follows AdmitsEnding calls)
    (held : ((start world).performAll calls).shelf.find? handle = some buffer)
    {key : Nat}
    {quota : Quota}
    (entry : ((start world).performAll calls).world.mediators.entry key =
      .ofQuota quota) :
    buffer.cost key ≤ quota.usage := by
  have stands := holds_performAll fresh follows key
  have usage := stands.booked.usage quota entry
  rw [stands.balance] at usage
  have others := charged_erase ((start world).performAll calls) handle world key
  rw [held] at others
  simp only [Shelf.weightOf] at others
  omega

/-- A tally that agrees with what is held counts the bytes of a held buffer. -/
theorem reported_le_reported
    (held : session.shelf.find? handle = some buffer)
    (tally : Nat) :
    buffer.reported tally ≤ session.reported tally := by
  have others := session.reported_erase handle session.world tally
  rw [held] at others
  simp only [Shelf.weightOf] at others
  omega

/--
What is outstanding at a tally falls by the bytes that it is relieved of, if it
agrees with what is held and these are held.
-/
theorem outstanding_of_relieved
    {world later : World}
    {allocator : Allocator}
    {bytes tally total : Nat}
    (relieved : world.Relieved allocator bytes later)
    (agrees : world.Agrees tally total)
    (fit : LayerCall.Fit (world.reportedCalls tally))
    (enough : bytes * allocator.countLayers (·.reports tally) ≤ total) :
    (later.tallies.entry tally).outstanding +
        bytes * allocator.countLayers (·.reports tally) =
      (world.tallies.entry tally).outstanding := by
  have allocated := agrees.allocatedBytes_eq fit
  have small : (world.tallies.entry tally).allocatedBytes ≤ Size.limit := by
    rw [agrees.told, LayerCall.allocatedBytes_told]
    exact Size.wrap_le _
  have freed := relieved.freed tally (by omega)
  rw [Size.wrap_of_le (by omega)] at freed
  rw [Tally.outstanding, Tally.outstanding, relieved.granted, freed]
  omega

/--
In a session that has come about by any calls, from any accounts that are fresh,
a request through its own allocator for no more than the size of a held buffer
is met with exactly what it asks for, whatever budgets have left, unless a
counter of a tracker would leave its range.  The bytes that are kept stay as
they are, nothing is asked of a mediator or charged to a tracker, and every
account loses the bytes that are gone once for each layer on the path that
charges it: a quota exactly these if the calls have kept its books, and a tally
if it has been told of all.
-/
theorem shrinking_always_met
    {world : World}
    (fresh : world.Fresh)
    (calls : List Call) :
    let session := (start world).performAll calls
    ∀ handle through buffer requested minimal,
      session.shelf.find? handle = some buffer → buffer.originator.Genuine →
      through.getD buffer.originator = buffer.originator →
      minimal ≤ requested → requested ≤ buffer.size →
        let outcome :=
          session.perform (.resize handle through requested minimal)
        let bytes := buffer.size - requested
        session.Cuts handle buffer requested outcome ∧
          ((start world).Follows AdmitsEnding calls → ∀ key quota,
            session.world.mediators.entry key = .ofQuota quota →
              bytes * buffer.originator.countLayers (·.charges key) ≤
                  quota.usage) ∧
          ∀ tally, world.tallies.entry tally = .zero →
            (start world).Follows ReportableEnding calls →
            LayerCall.Fit (session.world.reportedCalls tally) →
              outcome.1.fault? = none →
              (outcome.2.world.tallies.entry tally).outstanding +
                  bytes * buffer.originator.countLayers (·.reports tally) =
                (session.world.tallies.entry tally).outstanding := by
  intro session handle through buffer requested minimal held genuine own
    accepted smaller outcome bytes
  have fewer : ∀ times : Nat, bytes * times ≤ buffer.size * times :=
    fun times => Nat.mul_le_mul_right times (Nat.sub_le buffer.size requested)
  have cuts : session.Cuts handle buffer requested outcome :=
    cuts_perform (measured_performAll fresh.measured calls) held genuine own
      accepted smaller
  refine ⟨cuts, ?books, ?counters⟩
  case books =>
    intro follows key quota entry
    exact Nat.le_trans (fewer _) (cost_le_usage fresh follows held entry)
  case counters =>
    intro tally unused follows fit ended
    exact outstanding_of_relieved (cuts.2 ended).relieved
      (agrees_performAll fresh unused follows)
      fit (Nat.le_trans (fewer _) (reported_le_reported held tally))

/--
A buffer that has used up a guarantee, on a tracker past the limit of its parent
and a quota that has been lowered below its usage, gives back 8 of its 20 bytes
to each of them, and to a tally on the path twice.
-/
theorem shrinking_always_met_where_all_is_used_up :
    let allocator : Allocator :=
      { layers := [.tallied 0, .bypass 0 4, .tracked ⟨0, [1]⟩ true,
        .guaranteed 1 20, .tallied 0, .mediated 2], heap := .standard }
    let world : World := .start [.unlimited,
      .ofQuota (.ofCeiling 20 true false), .ofQuota (.ofCeiling 50 false false)]
      [.fresh "" none, .fresh "" (some 30)]
    let calls : List Call :=
      [.allocate 0 allocator 20 20, .consume ⟨0, [1]⟩ 50, .setCeiling 2 5]
    (((start world).performAll calls).perform (.resize 0 none 12 3)).1.met? =
        some 12 ∧
      Mediation.usage (((start world).performAll calls).perform
        (.resize 0 none 12 3)).2.world 2 = 12 ∧
      ((((start world).performAll calls).perform
        (.resize 0 none 12 3)).2.world.trackers.entry 1).consumption = 62 ∧
      ((((start world).performAll calls).perform
        (.resize 0 none 12 3)).2.world.tallies.entry 0).outstanding + 16 =
        (((start world).performAll calls).world.tallies.entry
          0).outstanding := by
  intro allocator world calls
  have fresh : world.Fresh :=
    .start_quotas [.ofCeiling Size.limit true false, .ofCeiling 20 true false,
      .ofCeiling 50 false false] (by decide) (by decide)
  have genuine : allocator.Genuine := by
    simp [allocator, Allocator.Genuine, Layer.Genuine, Lineage.members]
  have follows : (start world).Follows ReportableEnding calls := by
    refine ⟨⟨genuine, ?_⟩, ⟨trivial, ?_⟩, ⟨trivial, ?_⟩, trivial⟩
    all_goals decide +kernel
  have fit : LayerCall.Fit
      (((start world).performAll calls).world.reportedCalls 0) := by
    constructor <;> decide +kernel
  have found :
      (((start world).performAll calls).shelf.find? 0).map
          (fun buffer => (buffer.size, buffer.originator.layers)) =
        some (20, allocator.layers) := by
    decide +kernel
  obtain ⟨buffer, held, same⟩ := Option.map_eq_some_iff.mp found
  obtain ⟨size, layers⟩ := Prod.mk.inj same
  have own : buffer.originator.Genuine :=
    fun layer member => genuine layer (layers ▸ member)
  have ended : (((start world).performAll calls).perform
      (.resize 0 none 12 3)).1.fault? = none := by
    decide +kernel
  obtain ⟨cuts, -, counters⟩ := shrinking_always_met fresh calls 0 none buffer
    12 3 held own rfl (by decide) (size ▸ by decide)
  have cut := cuts.2 ended
  have relieved := cut.relieved
  rw [size] at relieved
  refine ⟨cut.met, ?_, ?_, ?_⟩
  · have entry :
        (((start world).performAll calls).world.mediators.entry 2).quota? =
          some { usage := 20, ceiling := 5, enforced := false,
                 guarded := false } := by
      decide +kernel
    rw [Mediation.usage, relieved.quotas 2 _ (Mediator.eq_ofQuota entry),
      Allocator.countLayers, layers]
    rfl
  · have consumption :
        (((start world).performAll calls).world.trackers.entry 1).consumption =
          70 := by
      decide +kernel
    rw [relieved.trackers (by decide) 1, consumption,
      Allocator.countLayers, layers]
    rfl
  · have outstanding := counters 0 rfl follows fit ended
    rw [size, Allocator.countLayers, layers] at outstanding
    exact outstanding

end Session

end BufferBudget
