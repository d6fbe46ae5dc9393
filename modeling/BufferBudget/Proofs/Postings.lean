import BufferBudget.Proofs.Companions
import BufferBudget.Proofs.Enforcement

/-!
# What is posted to trackers

Trackers can be charged and paid back past all allocators, by three calls: a
charge that the limits of the lineage have to admit, one that is counted past
them, and a release.  Each is recorded on every member of the lineage or on
none, and on no other tracker.  A tracker has therefore counted what the calls
on it and on its descendants have added, where a charge that some limit has
refused has added nothing.  This holds as long as every sum is an amount;
`Posts` says so of a call in the session in which it is made.

Whether a charge is admitted can be told beforehand: it is admitted just where
the least of what the limits leave covers it.
-/

namespace BufferBudget

open Relation

namespace Forest

instance (forest : Forest) (tracker ancestor : Nat) :
    Decidable (forest.Descends tracker ancestor) :=
  decidable_of_iff _ forest.mem_members_lineage_iff

/--
What a call that is answered has added to a tracker: its amount, if it was made
on the tracker or on a descendant of it, unless a limit has refused it.
-/
def share (forest : Forest) (tracker : Nat) : Call × Answer → Int
  | (.tryConsume lineage bytes, .admitted (.ok true)) =>
      if forest.Descends lineage.tracker tracker then bytes else 0
  | (.consume lineage bytes, _) =>
      if forest.Descends lineage.tracker tracker then bytes else 0
  | (.release lineage bytes, _) =>
      if forest.Descends lineage.tracker tracker then -bytes else 0
  | _ => 0

end Forest

namespace Tracker

/-- A tracker that an amount has been added to, whatever its limit. -/
def posted (tracker : Tracker) (bytes : Int) : Tracker :=
  (tracker.store (tracker.consumption + bytes)).reach
    (tracker.consumption + bytes)

/-- A tracker can be charged an amount more without going past its limit. -/
def HasRoom (tracker : Tracker) (bytes : Int) : Prop :=
  ∀ limit, tracker.limit = some limit → tracker.consumption + bytes ≤ limit

end Tracker

namespace World

variable {world later : World} {bytes : Int} {lineage : Lineage}

theorem Advances.of_posted
    (counts : world.CanCount lineage bytes)
    (retracks : world.Retracks (·.posted bytes) lineage.members later) :
    world.Advances bytes lineage.members later where
  consumption := by
    intro key
    rw [retracks key]
    split
    · rename_i member
      exact Amount.wrap_of_inRange (counts key member)
    · exact (Int.add_zero _).symm
  limit := by
    intro key
    rw [retracks key]
    split
    · rfl
    · rfl

/-- What is done to some trackers leaves every other one as it is. -/
theorem entry_eq_of_trackerSteps
    {trackers : List Nat}
    (steps : ReflTransGen (TrackerStep trackers) world later)
    {key : Nat}
    (apart : key ∉ trackers) :
    later.trackers.entry key = world.trackers.entry key := by
  induction steps with
  | refl => rfl
  | tail _ step ih =>
      cases step with
      | note => exact ih
      | store member =>
          rw [entry_trackers_setTracker,
            if_neg (ne_of_mem_of_not_mem member apart).symm]
          exact ih
      | reach member =>
          rw [entry_trackers_setTracker,
            if_neg (ne_of_mem_of_not_mem member apart).symm]
          exact ih

end World

namespace Charging

variable {world : World} {lineage : Lineage} {bytes : Int}

/--
A tracker that has stored a sum and recorded it as reached has had
the amount added.
-/
theorem posted_reach
    {tracker : Nat}
    {middle : World}
    (stored : middle.trackers = world.trackers.set tracker
      ((world.trackers.entry tracker).store
        ((world.trackers.entry tracker).consumption + bytes))) :
    Ends (reach tracker ((world.trackers.entry tracker).consumption + bytes))
      middle (fun _ later => world.Retracks (·.posted bytes) [tracker] later)
      (fun _ _ => False) := by
  refine (ends_reach tracker _ middle).sure fun _ later set => .of_set ?_
  rw [set, stored, Table.entry_set_self, Table.set_set, Tracker.posted]

/-- What every tracker of a list can count is added to each. -/
theorem posted_forM
    {trackers : List Nat}
    (distinct : trackers.Nodup)
    (inside : ∀ key ∈ trackers,
      Amount.InRange ((world.trackers.entry key).consumption + bytes)) :
    Ends (trackers.forM (add bytes)) world
      (fun _ later => world.Retracks (·.posted bytes) trackers later)
      (fun _ _ => False) := by
  induction trackers generalizing world with
  | nil =>
      show world.Retracks (·.posted bytes) [] world
      exact .of_same rfl
  | cons tracker rest ih =>
      obtain ⟨apart, others⟩ := List.nodup_cons.mp distinct
      have added : Ends (add bytes tracker) world
          (fun _ middle => world.Retracks (·.posted bytes) [tracker] middle)
          (fun _ _ => False) := by
        rw [add, ends_bind, ends_get, ends_bind, ends_note, ends_bind,
          ends_modify, if_pos (inside tracker List.mem_cons_self)]
        exact posted_reach rfl
      refine added.bind fun _ middle begun => ?_
      have elsewhere : ∀ key ∈ rest, key ∉ [tracker] :=
        fun key member same => apart (List.mem_singleton.mp same ▸ member)
      refine (ih others fun key member => ?_).sure fun _ _ onward =>
        begun.trans onward fun key same => List.mem_singleton.mp same ▸ apart
      rw [begun key, if_neg (elsewhere key member)]
      exact inside key (List.mem_cons_of_mem tracker member)

variable (distinct : lineage.members.Nodup)

include distinct

/-- A charge past the limits is counted by each member. -/
theorem advances_consume (counts : world.CanCount lineage bytes) :
    Ends (consume lineage bytes) world
      (fun _ later => world.Advances bytes lineage.members later)
      (fun _ _ => False) := by
  have added : Ends (lineage.members.forM (add bytes))
      (world.note (.tracked lineage.tracker (.consume bytes)))
      (fun _ later => world.Retracks (·.posted bytes) lineage.members later)
      (fun _ _ => False) :=
    posted_forM distinct counts
  rw [consume, ends_bind, ends_note]
  exact added.sure fun _ _ posted => .of_posted counts posted

/--
What is given back is taken from each member; nothing at all is taken where
nothing is given back.
-/
theorem advances_releaseAll (counts : world.CanCount lineage (-bytes)) :
    Ends (releaseAll lineage bytes) world
      (fun _ later => world.Advances (-bytes) lineage.members later)
      (fun _ _ => False) := by
  rw [releaseAll]
  refine Ends.ite (fun nothing => ?_) (fun _ => ?_)
  · exact (World.Advances.of_same rfl).congr (by rw [nothing]; rfl)
  · exact (discharges_forM distinct counts).sure fun _ _ discharged =>
      .of_discharged counts discharged

/-- A release is taken from each member. -/
theorem advances_release (counts : world.CanCount lineage (-bytes)) :
    Ends (release lineage bytes) world
      (fun _ later => world.Advances (-bytes) lineage.members later)
      (fun _ _ => False) := by
  have counted :
      (world.note (.tracked lineage.tracker (.release bytes))).CanCount lineage
        (-bytes) := counts
  rw [release, ends_bind, ends_note]
  exact (advances_releaseAll distinct counted).sure fun _ _ advances =>
    ⟨advances.consumption, advances.limit⟩

/--
A charge of an amount that can be counted never stops, and neither does one
that is a release. It is admitted unless it is a charge that some limit
leaves no room for, and then each member has counted it; otherwise none has
counted anything.
-/
theorem posts_tryConsume
    (measured : world.Measured)
    (amount : Amount.InRange bytes)
    (other : bytes ≠ Amount.least)
    (counts : world.CanCount lineage bytes) :
    Ends (tryConsume lineage bytes) world (fun admitted later =>
        (admitted = true ↔
          0 < bytes → ∀ key ∈ lineage.members,
            (world.trackers.entry key).HasRoom bytes) ∧
        world.Advances (if admitted then bytes else 0) lineage.members later)
      (fun _ _ => False) := by
  by_cases positive : 0 < bytes
  · refine (admits_tryConsume measured distinct amount.2 positive counts).sure
      ?_
    rintro admitted later ⟨decides, advances⟩
    refine ⟨decides.trans ?_, advances⟩
    rw [imp_iff_right positive]
    exact forall₂_congr fun key member => Tracker.admits_iff (counts key member)
  · have given : Amount.saturate (-bytes) = -bytes := by
      apply Amount.saturate_of_inRange
      unfold Amount.InRange Amount.least Amount.greatest at *
      omega
    have counted :
        (world.note (.tracked lineage.tracker (.tryConsume bytes))).CanCount
          lineage (-(-bytes)) := by
      rw [Int.neg_neg]
      exact counts
    rw [tryConsume, ends_bind, ends_note,
      if_pos (Int.not_lt.mp positive), given]
    refine (advances_releaseAll distinct counted).bind
      fun _ later advances => ?_
    exact ⟨iff_of_true rfl fun impossible => absurd impossible positive,
      Int.neg_neg bytes ▸ advances.consumption, advances.limit⟩

omit distinct

section Spare

variable {later : World} {trackers : List Nat} {spare : Int}

/-- Some tracker of a list has a limit. -/
def Limited (world : World) (trackers : List Nat) : Prop :=
  ∃ key ∈ trackers, (world.trackers.entry key).limit ≠ none

theorem headroom_le_greatest
    {tracker : Tracker}
    (read : headroom tracker = .ok spare) :
    spare ≤ Amount.greatest := by
  rw [headroom] at read
  split at read
  · exact (Except.ok.inj read).ge
  · rw [Amount.sub] at read
    split at read
    · rename_i inside
      exact Except.ok.inj read ▸ inside.2
    · cases read

/-- Trackers without limits leave as much as there can be. -/
theorem spareOf_of_not_limited (free : ¬Limited world trackers) :
    spareOf world.trackers trackers = .ok Amount.greatest := by
  induction trackers with
  | nil => rfl
  | cons tracker rest ih =>
      have unlimited : (world.trackers.entry tracker).limit = none :=
        Classical.not_not.mp fun limited =>
          free ⟨tracker, List.mem_cons_self, limited⟩
      have others : ¬Limited world rest := by
        rintro ⟨key, member, limited⟩
        exact free ⟨key, List.mem_cons_of_mem tracker member, limited⟩
      rw [spareOf, headroom, unlimited, ih others]
      rfl

/--
A tracker that has been charged no more than its limit leaves that much
less below it.
-/
theorem headroom_advanced
    {tracker charged : Tracker}
    (limit : charged.limit = tracker.limit)
    (counted : charged.consumption = tracker.consumption + bytes)
    (positive : 0 < bytes)
    (read : headroom tracker = .ok spare)
    (covers : bytes ≤ spare) :
    headroom charged =
      .ok (if tracker.limit = none then Amount.greatest
        else spare - bytes) := by
  rw [headroom, limit]
  cases limited : tracker.limit with
  | none => rfl
  | some most =>
      have most_le := headroom_le_greatest read
      rw [headroom, limited] at read
      dsimp only at read
      rw [Amount.sub] at read
      split at read
      · obtain rfl := Except.ok.inj read
        have left : most - charged.consumption =
            most - tracker.consumption - bytes := by omega
        have inside : Amount.InRange (most - charged.consumption) := by
          unfold Amount.InRange Amount.least Amount.greatest at *
          omega
        rw [if_neg (Option.some_ne_none most), ← left]
        exact Amount.sub_of_inRange inside
      · cases read

theorem spareOf_le_greatest
    (left : spareOf world.trackers trackers = .ok spare) :
    spare ≤ Amount.greatest := by
  cases trackers with
  | nil => exact (Except.ok.inj left).ge
  | cons tracker rest =>
      obtain ⟨own, read, computed⟩ := exists_of_bind_eq_ok left
      obtain ⟨others, -, both⟩ := exists_of_bind_eq_ok computed
      obtain rfl : min own others = spare := Except.ok.inj both
      exact (Int.min_le_left own others).trans (headroom_le_greatest read)

/--
Where all the trackers of a list have been charged what they left, and one of
them has a limit, they leave that much less.
-/
theorem spareOf_advanced
    {charged : List Nat}
    (advances : world.Advances bytes charged later)
    (positive : 0 < bytes)
    (among : ∀ key ∈ trackers, key ∈ charged)
    (limited : Limited world trackers)
    (left : spareOf world.trackers trackers = .ok spare)
    (covers : bytes ≤ spare) :
    spareOf later.trackers trackers = .ok (spare - bytes) := by
  induction trackers generalizing spare with
  | nil =>
      obtain ⟨key, member, -⟩ := limited
      exact absurd member List.not_mem_nil
  | cons tracker rest ih =>
      obtain ⟨own, read, computed⟩ := exists_of_bind_eq_ok left
      obtain ⟨others, further, both⟩ := exists_of_bind_eq_ok computed
      obtain rfl : min own others = spare := Except.ok.inj both
      have ownMost : own ≤ Amount.greatest := headroom_le_greatest read
      have othersMost : others ≤ Amount.greatest := spareOf_le_greatest further
      have counted := advances.consumption tracker
      rw [if_pos (among tracker List.mem_cons_self)] at counted
      have first := headroom_advanced (advances.limit tracker) counted positive
        read (covers.trans (Int.min_le_left own others))
      by_cases limitedRest : Limited world rest
      · have rested :=
          ih (fun key member => among key (List.mem_cons_of_mem tracker member))
            limitedRest further (covers.trans (Int.min_le_right own others))
        rw [spareOf, first, rested]
        refine congrArg Except.ok ?_
        split
        · rename_i unlimited
          rw [headroom, unlimited] at read
          obtain rfl : Amount.greatest = own := Except.ok.inj read
          omega
        · omega
      · -- The limit is the tracker's own, and the others leave as much
        -- as there can be.
        have unlimitedRest : ¬Limited later rest := by
          rintro ⟨key, member, limitedKey⟩
          exact limitedRest ⟨key, member, advances.limit key ▸ limitedKey⟩
        have own_limit : (world.trackers.entry tracker).limit ≠ none := by
          obtain ⟨key, member, limitedKey⟩ := limited
          rcases List.mem_cons.mp member with rfl | later
          · exact limitedKey
          · exact absurd ⟨key, later, limitedKey⟩ limitedRest
        obtain rfl : Amount.greatest = others :=
          Except.ok.inj
            ((spareOf_of_not_limited limitedRest).symm.trans further)
        rw [spareOf, first, if_neg own_limit,
          spareOf_of_not_limited unlimitedRest]
        refine congrArg Except.ok ?_
        omega

end Spare

end Charging

/-- The lineage that a call charges or pays back past all allocators. -/
def Call.lineage? : Call → Option Lineage
  | .tryConsume lineage _ | .consume lineage _ | .release lineage _ =>
      some lineage
  | _ => none

namespace Session

/--
A call charges a tracker of a forest or pays it back, and every tracker that it
is to be recorded on can count the sum.
-/
inductive Posts (forest : Forest) (session : Session) : Call → Prop where
  | tryConsume
      (tracker : Nat)
      {bytes : Int}
      (amount : Amount.InRange bytes)
      (other : bytes ≠ Amount.least)
      (counts : session.world.CanCount (forest.lineage tracker) bytes) :
      Posts forest session (.tryConsume (forest.lineage tracker) bytes)
  | consume
      (tracker : Nat)
      {bytes : Int}
      (amount : Amount.InRange bytes)
      (counts : session.world.CanCount (forest.lineage tracker) bytes) :
      Posts forest session (.consume (forest.lineage tracker) bytes)
  | release
      (tracker : Nat)
      {bytes : Int}
      (amount : Amount.InRange bytes)
      (counts : session.world.CanCount (forest.lineage tracker) (-bytes)) :
      Posts forest session (.release (forest.lineage tracker) bytes)

/-- What comes of a call on a tracker of a forest. -/
structure Posted
    (forest : Forest)
    (session : Session)
    (call : Call)
    (answer : Answer)
    (later : Session) : Prop where
  /-- The call does not stop at a fault. -/
  answered : answer.fault? = none
  /--
  What is refused is a charge that some limit of the lineage leaves no room for.
  -/
  refused_iff : answer = .admitted (.ok false) ↔
    ∃ lineage bytes, call = .tryConsume lineage bytes ∧ 0 < bytes ∧
      ∃ key, forest.Descends lineage.tracker key ∧
        ¬(session.world.trackers.entry key).HasRoom bytes
  /-- Every tracker has counted its share. -/
  counted : ∀ key, (later.world.trackers.entry key).consumption =
    (session.world.trackers.entry key).consumption +
    forest.share key (call, answer)
  /-- A charge that is refused is counted by no tracker. -/
  idle : answer = .admitted (.ok false) → ∀ key,
    (later.world.trackers.entry key).consumption =
    (session.world.trackers.entry key).consumption
  /-- A tracker that the called one does not descend from is what it was. -/
  aside : ∀ lineage ∈ call.lineage?, ∀ key,
    ¬forest.Descends lineage.tracker key →
    later.world.trackers.entry key = session.world.trackers.entry key

theorem Posts.ne_setCeiling
    {forest : Forest}
    {session : Session}
    {call : Call}
    (posts : session.Posts forest call)
    (mediator ceiling : Nat) :
    call ≠ .setCeiling mediator ceiling := by
  rintro rfl
  cases posts

section Posting

variable {session : Session} {forest : Forest} {tracker : Nat} {bytes : Int}

/--
What has advanced on a lineage has advanced on the trackers that the called one
descends from.
-/
theorem counted_of_advances
    {world later : World}
    (advances : world.Advances bytes (forest.lineage tracker).members later)
    (key : Nat) :
    (later.trackers.entry key).consumption =
        (world.trackers.entry key).consumption +
      if forest.Descends tracker key then bytes else 0 := by
  rw [advances.consumption key]
  exact congrArg _ (if_congr forest.mem_members_lineage_iff rfl rfl)

/--
What an operation on a lineage does, it does to the trackers that the called one
descends from.
-/
theorem aside_of_tracks
    {α : Type}
    {operation : Operation α}
    (tracks : Operation.Tracks (forest.lineage tracker).members operation)
    {world : World} :
    Ends operation world (fun _ later => ∀ key, ¬forest.Descends tracker key →
        later.trackers.entry key = world.trackers.entry key)
      (fun _ _ => True) := by
  refine (tracks world).mono (fun _ _ steps key apart => ?_)
    fun _ _ _ => trivial
  exact World.entry_eq_of_trackerSteps steps
    (mt forest.mem_members_lineage_iff.mp apart)

/--
A charge put to the limits is recorded on the trackers that the called one
descends from, or on none.
-/
theorem posted_tryConsume
    (measured : session.world.Measured)
    (amount : Amount.InRange bytes)
    (other : bytes ≠ Amount.least)
    (counts : session.world.CanCount (forest.lineage tracker) bytes) :
    let call := Call.tryConsume (forest.lineage tracker) bytes
    session.Posted forest call (session.perform call).1
      (session.perform call).2 := by
  intro call
  refine run_rule
    (fun result later => session.Posted forest call (.admitted result) later)
    (((Charging.posts_tryConsume (forest.nodup_members_lineage tracker)
      measured amount other
      counts).and (aside_of_tracks (Charging.tracks_tryConsume _ bytes))).mono
      ?_ fun _ _ stopped => stopped.1.elim)
  rintro admitted later ⟨⟨decides, advances⟩, aside⟩
  have idle : admitted = false → ∀ key, (later.trackers.entry key).consumption =
      (session.world.trackers.entry key).consumption := by
    rintro rfl
    exact advances.consumption_eq
  have refused : admitted = false ↔
      0 < bytes ∧ ∃ key, forest.Descends tracker key ∧
      ¬(session.world.trackers.entry key).HasRoom bytes := by
    rw [← Bool.not_eq_true, decides]
    simp only [forest.mem_members_lineage_iff, Classical.not_imp, not_forall]
  constructor
  case answered => rfl
  case refused_iff =>
    constructor
    · intro same
      exact ⟨_, _, rfl, refused.mp (Except.ok.inj (Answer.admitted.inj same))⟩
    · rintro ⟨_, _, same, room⟩
      obtain ⟨rfl, rfl⟩ := Call.tryConsume.inj same
      rw [refused.mpr room]
  case counted =>
    intro key
    rw [counted_of_advances advances key]
    cases admitted with
    | true => rfl
    | false => rw [if_neg Bool.false_ne_true, ite_self]; rfl
  case idle => exact fun same => idle (Except.ok.inj (Answer.admitted.inj same))
  case aside =>
    rintro lineage same key apart
    obtain rfl := Option.some.inj same
    exact aside key apart

/--
What is always recorded is recorded on the trackers that the called one
descends from.
-/
theorem posted_always
    {call : Call}
    {operation : Operation Unit}
    {added : Int}
    (named : call.lineage? = some (forest.lineage tracker))
    (shares : ∀ key, forest.share key (call, .done (.ok ())) =
      if forest.Descends tracker key then added else 0)
    (tried : ∀ lineage bytes, call ≠ .tryConsume lineage bytes)
    (advances : Ends operation session.world (fun _ later =>
      session.world.Advances added (forest.lineage tracker).members later)
      (fun _ _ => False))
    (tracks : Operation.Tracks (forest.lineage tracker).members operation) :
    session.Posted forest call (.done (session.run operation).1)
      (session.run operation).2 := by
  refine run_rule
    (fun result later => session.Posted forest call (.done result) later)
    ((advances.and (aside_of_tracks tracks)).mono ?_
      fun _ _ stopped => stopped.1.elim)
  rintro ⟨⟩ later ⟨advances, aside⟩
  constructor
  case answered => rfl
  case refused_iff =>
    exact iff_of_false nofun fun ⟨lineage, bytes, same, _⟩ =>
      tried lineage bytes same
  case counted =>
    exact fun key => (shares key).symm ▸ counted_of_advances advances key
  case idle => exact nofun
  case aside =>
    rintro lineage same key apart
    obtain rfl := Option.some.inj (named.symm.trans same)
    exact aside key apart

/--
A call that posts to a tracker is recorded on the trackers that the called one
descends from, unless a limit refuses it.
-/
theorem Posts.posted
    (measured : session.world.Measured)
    {call : Call}
    (posts : session.Posts forest call) :
    session.Posted forest call (session.perform call).1
      (session.perform call).2 := by
  cases posts with
  | tryConsume tracker amount other counts =>
      exact posted_tryConsume measured amount other counts
  | consume tracker amount counts =>
      exact posted_always rfl (fun _ => rfl) nofun (Charging.advances_consume
        (forest.nodup_members_lineage tracker) counts)
        (Charging.tracks_consume _ _)
  | release tracker amount counts =>
      exact posted_always rfl (fun _ => rfl) nofun (Charging.advances_release
        (forest.nodup_members_lineage tracker) counts)
        (Charging.tracks_release _ _)

end Posting

/-- A run of calls that post adds to each tracker what each of them adds. -/
theorem counted_performAll
    {forest : Forest}
    (tracker : Nat)
    {session : Session}
    {calls : List Call}
    (measured : session.world.Measured)
    (follows : session.Follows (Posts forest) calls) :
    ((session.performAll calls).world.trackers.entry tracker).consumption =
      (session.world.trackers.entry tracker).consumption +
      ((session.transcript calls).map (forest.share tracker)).sum := by
  induction calls generalizing session with
  | nil => exact (Int.add_zero _).symm
  | cons call rest ih =>
      have posted := follows.1.posted measured
      have kept : (session.perform call).2.world.Measured :=
        (changes_perform follows.1.ne_setCeiling).measured measured
      rw [performAll_cons, ih kept follows.2, posted.counted tracker,
        transcript, List.map_cons, List.sum_cons, Int.add_assoc]

/--
Trackers are charged and paid back past all allocators, each call with an amount
that every tracker it is to be recorded on can count.  Then each tracker has
counted what the calls made on it and on its descendants have added: the amounts
of the charges that were admitted and of those that are made past the limits,
less what was released.  No call stops, a charge is refused just where some
limit of the lineage leaves no room for it, and then no tracker has counted
anything of it; and no call changes a tracker that is not part of the lineage.
-/
theorem postings_are_mirrored
    {world : World}
    (fresh : world.Fresh)
    (forest : Forest)
    {calls : List Call}
    (follows : (start world).Follows (Posts forest) calls) :
    let session := (start world).performAll calls
    (∀ tracker, (session.world.trackers.entry tracker).consumption =
      (((start world).transcript calls).map (forest.share tracker)).sum) ∧
      ∀ call, session.Posts forest call →
        session.Posted forest call (session.perform call).1
          (session.perform call).2 := by
  intro session
  have measured : session.world.Measured :=
    measured_performAll fresh.measured calls
  refine ⟨fun tracker => ?_, fun call posts => posts.posted measured⟩
  rw [counted_performAll tracker fresh.measured follows]
  show (world.trackers.entry tracker).consumption + _ = _
  rw [fresh.trackers tracker, Int.zero_add]

/--
A query of 10 bytes has a scan below it that counts 8.  The scan is refused 5
more by the query, pays 3 back by a charge of less than nothing, and is refused
6; the process above the query and a cache beside it have counted nothing of
what was refused.
-/
theorem postings_are_mirrored_below_query :
    let forest : Forest := { parents := [none, some 0, some 1, some 0] }
    let world : World := .start [] [.fresh "process" (some 1000),
      .fresh "query" (some 10), .fresh "scan" none, .fresh "cache" none]
    let session := (start world).performAll [.consume (forest.lineage 2) 8,
      .tryConsume (forest.lineage 2) 5, .tryConsume (forest.lineage 2) (-3),
      .release (forest.lineage 3) 4, .tryConsume (forest.lineage 3) 7]
    let outcome := session.perform (.tryConsume (forest.lineage 2) 6)
    [0, 1, 2, 3].map (fun key =>
      (session.world.trackers.entry key).consumption) = [8, 5, 5, 3] ∧
      outcome.1 = .admitted (.ok false) ∧
        (∀ key, (outcome.2.world.trackers.entry key).consumption =
          (session.world.trackers.entry key).consumption) ∧
          outcome.2.world.trackers.entry 3 =
            session.world.trackers.entry 3 := by
  intro forest world session outcome
  have fresh : world.Fresh := .start_quotas [] (by decide) (by decide)
  have scan : forest.lineage 2 = ⟨2, [1, 0]⟩ := by decide +kernel
  have cache : forest.lineage 3 = ⟨3, [0]⟩ := by decide +kernel
  have counts : ∀ (session : Session) (lineage : Lineage) (bytes : Int),
      (∀ key ∈ lineage.members, Amount.InRange
        ((session.world.trackers.entry key).consumption + bytes)) →
      session.world.CanCount lineage bytes :=
    fun _ _ _ counted => counted
  have follows :
      (start world).Follows (Posts forest) [.consume (forest.lineage 2) 8,
        .tryConsume (forest.lineage 2) 5, .tryConsume (forest.lineage 2) (-3),
        .release (forest.lineage 3) 4, .tryConsume (forest.lineage 3) 7] :=
    ⟨.consume 2 (by decide) (counts _ _ _ (by decide +kernel)),
      .tryConsume 2 (by decide) (by decide) (counts _ _ _ (by decide +kernel)),
      .tryConsume 2 (by decide) (by decide) (counts _ _ _ (by decide +kernel)),
      .release 3 (by decide) (counts _ _ _ (by decide +kernel)), .tryConsume 3
      (by decide) (by decide) (counts _ _ _ (by decide +kernel)), trivial⟩
  obtain ⟨counted, posted⟩ := postings_are_mirrored fresh forest follows
  have posts : session.Posts forest (.tryConsume (forest.lineage 2) 6) :=
    .tryConsume 2 (by decide) (by decide) (counts _ _ _ (by decide +kernel))
  have last : session.Posted forest
      (.tryConsume (forest.lineage 2) 6) outcome.1 outcome.2 :=
    posted _ posts
  have refused : outcome.1 = .admitted (.ok false) := by
    refine last.refused_iff.mpr ⟨_, 6, rfl,
      by decide, 1, by decide +kernel, fun room => ?_⟩
    exact absurd (room 10 (by decide +kernel)) (by decide +kernel)
  refine ⟨?_, refused, last.idle refused, ?_⟩
  · show [0, 1, 2, 3].map
        (fun key => (session.world.trackers.entry key).consumption) = _
    rw [funext counted]
    decide +kernel
  · exact last.aside _ rfl 3 (by decide +kernel)

/--
A charge is put to the limits of a tracker and its ancestors, in whatever state
they are, as long as each of them can count it and the room below each limit is
an amount.  Then the least of what the limits leave can be read, and the charge
is admitted just where that covers it.  After an admitted charge the limits
leave that much less, or again as much as there can be, if there are none; after
a refused one they leave what they left before.
-/
theorem spare_predicts_charge
    {world : World}
    (fresh : world.Fresh)
    (calls : List Call)
    (forest : Forest)
    (tracker : Nat)
    {bytes : Int}
    (positive : 0 < bytes)
    (amount : bytes ≤ Amount.greatest) :
    let session := (start world).performAll calls
    let lineage := forest.lineage tracker
    let outcome := session.perform (.tryConsume lineage bytes)
    session.world.CanCount lineage bytes →
      (∀ key ∈ lineage.members,
        ∀ limit ∈ (session.world.trackers.entry key).limit,
        Amount.InRange (limit -
          (session.world.trackers.entry key).consumption)) →
      ∃ spare, Charging.spare session.world lineage = .ok spare ∧
        outcome.1 = .admitted (.ok (decide (bytes ≤ spare))) ∧
        (bytes ≤ spare → Charging.Limited session.world lineage.members →
          Charging.spare outcome.2.world lineage = .ok (spare - bytes)) ∧
        (bytes ≤ spare → ¬Charging.Limited session.world lineage.members →
          Charging.spare outcome.2.world lineage = .ok Amount.greatest) ∧
        (spare < bytes →
          Charging.spare outcome.2.world lineage = .ok spare) := by
  intro session lineage outcome counts legible
  have measured : session.world.Measured :=
    measured_performAll fresh.measured calls
  obtain ⟨spare, left⟩ := Charging.exists_spare legible
  have settled := run_rule (fun result later =>
    Answer.admitted result = .admitted (.ok (decide (bytes ≤ spare))) ∧
      session.world.Advances
        (if bytes ≤ spare then bytes else 0) lineage.members later.world)
    ((Charging.advances_tryConsume measured
      (forest.nodup_members_lineage tracker) left amount positive counts).sure
      fun admitted later ended => ⟨congrArg (Answer.admitted ∘ Except.ok)
        (Bool.eq_iff_iff.mpr (ended.1.trans decide_eq_true_iff.symm)),
        ended.2.congr (if_congr ended.1 rfl rfl)⟩)
  obtain ⟨answered, advances⟩ := settled
  refine ⟨spare, left, answered, fun covers limited => ?_, fun covers free =>
    ?_, fun beyond => ?_⟩
  · rw [if_pos covers] at advances
    exact Charging.spareOf_advanced advances positive
      (fun _ member => member) limited left covers
  · refine Charging.spareOf_of_not_limited ?_
    rintro ⟨key, member, limited⟩
    exact free ⟨key, member, advances.limit key ▸ limited⟩
  · rw [if_neg (Int.not_le.mpr beyond)] at advances
    exact (Charging.spare_of_advances advances).trans left

/--
A process has 10 bytes left below its limit and a query below it has no limit.
A charge of all 10 is admitted and leaves none; in the state before it 11 would
have been refused, and would have left 10.
-/
theorem spare_predicts_charge_of_query :
    let forest : Forest := { parents := [none, some 0] }
    let world : World :=
      .start [] [.fresh "process" (some 30), .fresh "query" none]
    let session := (start world).performAll [.consume (forest.lineage 0) 20]
    let met := session.perform (.tryConsume (forest.lineage 1) 10)
    let refused := session.perform (.tryConsume (forest.lineage 1) 11)
    met.1 = .admitted (.ok true) ∧
      Charging.spare met.2.world (forest.lineage 1) = .ok 0 ∧
      refused.1 = .admitted (.ok false) ∧
        Charging.spare refused.2.world (forest.lineage 1) = .ok 10 := by
  intro forest world session met refused
  have fresh : world.Fresh := .start_quotas [] (by decide) (by decide)
  have left : Charging.spare session.world (forest.lineage 1) =
      .ok 10 := by decide +kernel
  have legible : ∀ key ∈ (forest.lineage 1).members,
      ∀ limit ∈ (session.world.trackers.entry key).limit, Amount.InRange
      (limit - (session.world.trackers.entry key).consumption) := by
    decide +kernel
  have counts : ∀ bytes ≤ 11, 0 < bytes →
      session.world.CanCount (forest.lineage 1) bytes := by
    intro bytes most positive key member
    have counted : ∀ key ∈ (forest.lineage 1).members,
        0 ≤ (session.world.trackers.entry key).consumption ∧
          (session.world.trackers.entry key).consumption ≤ 20 := by
      decide +kernel
    obtain ⟨least, greatest⟩ := counted key member
    unfold Amount.InRange Amount.least Amount.greatest
    omega
  have limited : Charging.Limited session.world (forest.lineage 1).members :=
    ⟨0, by decide +kernel, by decide +kernel⟩
  obtain ⟨spare, read, admits, charged, -, -⟩ := spare_predicts_charge fresh
    [.consume (forest.lineage 0) 20] forest 1 (by decide : (0 : Int) < 10)
    (by decide) (counts 10 (by decide) (by decide)) legible
  obtain rfl : 10 = spare := Except.ok.inj (left.symm.trans read)
  obtain ⟨other, readToo, refuses, -, -, kept⟩ := spare_predicts_charge fresh
    [.consume (forest.lineage 0) 20] forest 1 (by decide : (0 : Int) < 11)
    (by decide) (counts 11 (by decide) (by decide)) legible
  obtain rfl : 10 = other := Except.ok.inj (left.symm.trans readToo)
  exact ⟨admits, charged (by decide) limited, refuses, kept (by decide)⟩

end Session

end BufferBudget
