import BufferBudget.Allocator
import BufferBudget.Proofs.Mediation

/-!
# Rules for layers

A rule for a function of a layer says what has to be shown of the calls that the
function makes, one premise for each way through it, so that the function ends
as wanted.  A contract of sources is established for a layer by naming what each
of these calls ends in, and the function itself is not opened again.

The premises name the ends of intermediate calls: `Granted` is where a grant
ends, `Below` where a call on the source below ends, and so on.
-/

namespace BufferBudget

namespace Source

variable {source : Source} {site : Site}

theorem readAvailable_rule
    {world : World}
    {onValue : Nat → World → Prop}
    {onFault : Fault → World → Prop}
    (read : ∀ rest, source.available world = .ok rest →
      onValue rest (world.noteAll (source.readLocks world)))
    (stopped : ∀ fault, source.available world = .error fault →
      onFault fault (world.noteAll (source.readLocks world))) :
    Ends source.readAvailable world onValue onFault := by
  rw [readAvailable, ends_bind, ends_get, ends_bind,
    ends_noteAll, ends_ofExcept]
  exact ⟨read, stopped⟩

theorem noting_allocate_rule
    {requested minimal : Nat}
    {world : World}
    {onValue : Option Contents → World → Prop}
    {onFault : Fault → World → Prop}
    (called : Ends (source.allocate requested minimal) world
      (fun result later => onValue result (later.note (.called site
        (.allocated requested minimal (result.map (·.size)))))) onFault) :
    Ends ((source.noting site).allocate requested minimal) world
      onValue onFault :=
  called.bind fun _ _ noted => noted

theorem noting_resize_rule
    {requested minimal : Nat}
    {bench : Workbench}
    {onValue : Bool → Workbench → Prop}
    {onFault : Fault → Workbench → Prop}
    (called : Ends (source.resize requested minimal) bench
      (fun met later => onValue met
        { later with world := later.world.note (.called site (.resized requested
          minimal met bench.contents.size later.contents.size)) }) onFault) :
    Ends ((source.noting site).resize requested minimal) bench
      onValue onFault :=
  (ends_bind Resizing.size _).mpr (called.bind fun _ _ noted => noted)

theorem noting_free_rule
    {size : Nat}
    {world : World}
    {onValue : Unit → World → Prop}
    {onFault : Fault → World → Prop}
    (called : Ends (source.free size)
      (world.note (.called site (.freed size))) onValue onFault) :
    Ends ((source.noting site).free size) world onValue onFault :=
  (ends_bind _ _).mpr called

/--
The way down of both layers that pay for sizes: the source below resizes, and
what the buffer has lost of its old size is paid back.
-/
theorem resize_settling_rule
    {settle : Nat → Operation Unit}
    {old requested minimal : Nat}
    {bench : Workbench}
    {onValue : Bool → Workbench → Prop}
    {onFault : Fault → Workbench → Prop}
    {Below : Bool → Workbench → Prop}
    (called : Ends (source.resize requested minimal) bench Below onFault)
    (refused : ∀ later, Below false later → onValue false later)
    (grown : ∀ later, Below true later → old < later.contents.size →
      onFault .subtractionOverflow later)
    (cut : ∀ later, Below true later → later.contents.size ≤ old →
      Ends (settle (old - later.contents.size)) later.world
      (fun _ last => onValue true { later with world := last })
      (fun fault last => onFault fault { later with world := last })) :
    Ends (do
      if ← source.resize requested minimal then
        let surplus ← Operation.ofExcept (Size.sub old (← Resizing.size))
        settle surplus
        return true
      else return false : Resizing Bool) bench onValue onFault := by
  refine called.bind ?_
  intro met later ended
  cases met with
  | false => exact refused later ended
  | true =>
      show Ends (Resizing.size >>= _) later onValue onFault
      rw [ends_bind, ends_size, ends_bind, ends_liftM]
      refine ends_sub (fun smaller => ?_)
        (fun larger => grown later ended larger)
      exact (cut later ended smaller).bindResizing fun _ _ settled => settled

end Source

namespace Heap

variable {heap : Heap}

theorem allocate_rule
    {requested : Nat}
    {world : World}
    {onValue : Option Contents → World → Prop}
    {onFault : Fault → World → Prop}
    (refused : heap.serves requested = false → onValue none world)
    (served : heap.serves requested = true →
      onValue (some (.fresh requested)) world) :
    Ends (heap.allocate requested) world onValue onFault := by
  rw [allocate, ends_pure]
  cases serves : heap.serves requested with
  | true => exact served serves
  | false => exact refused serves

theorem resize_rule
    {requested : Nat}
    {bench : Workbench}
    {onValue : Bool → Workbench → Prop}
    {onFault : Fault → Workbench → Prop}
    (refused : bench.contents.size < requested → heap.serves requested = false →
      onValue false bench)
    (grown : bench.contents.size < requested → heap.serves requested = true →
      onValue true { bench with contents := bench.contents.extend requested })
    (cut : requested < bench.contents.size →
      onValue true { bench with contents := bench.contents.truncate requested })
    (kept : requested = bench.contents.size → onValue true bench) :
    Ends (heap.resize requested) bench onValue onFault := by
  rw [resize, ends_bind, ends_get]
  refine Ends.ite (fun larger => ?_) (fun notLarger => ?_)
  · cases serves : heap.serves requested with
    | false => exact refused larger serves
    | true => exact grown larger serves
  · refine Ends.ite (fun smaller => cut smaller) (fun notSmaller => kept ?_)
    exact Nat.le_antisymm (Nat.not_lt.mp notLarger) (Nat.not_lt.mp notSmaller)

end Heap

theorem Mediation.grant_rule
    {mediator requested minimal : Nat}
    {world : World}
    {onValue : Option Nat → World → Prop}
    {onFault : Fault → World → Prop}
    {Answered : Nat → World → Prop}
    (empty : requested = 0 → onValue (some 0) world)
    (asked : requested ≠ 0 →
      Ends (allocate mediator requested minimal) world Answered onFault)
    (enough : ∀ granted later, Answered granted later → minimal ≤ granted →
      onValue (some granted) later)
    (short : ∀ granted later, Answered granted later → granted < minimal →
      0 < granted → Ends (free mediator granted) later
      (fun _ last => onValue none last) onFault)
    (nothing : ∀ later, Answered 0 later → 0 < minimal → onValue none later) :
    Ends (grant mediator requested minimal) world onValue onFault := by
  rw [grant]
  refine Ends.ite empty (fun notEmpty => (asked notEmpty).bind ?_)
  intro granted later answered
  refine Ends.ite (enough granted later answered) (fun notEnough => ?_)
  refine Ends.ite (fun positive => ?_) (fun notPositive => ?_)
  · exact (short granted later answered (Nat.not_le.mp notEnough) positive).bind
      fun _ _ denied => denied
  · obtain rfl : granted = 0 := Nat.eq_zero_of_not_pos notPositive
    exact nothing later answered (Nat.not_le.mp notEnough)

namespace Mediated

variable {mediator : Nat} {below : Source} {requested minimal : Nat}

theorem allocate_rule
    {world : World}
    {onValue : Option Contents → World → Prop}
    {onFault : Fault → World → Prop}
    {Granted : Option Nat → World → Prop}
    (Below : Nat → Option Contents → World → Prop)
    (asked :
      Ends (Mediation.grant mediator requested minimal) world Granted onFault)
    (denied : ∀ later, Granted none later → onValue none later)
    (called : ∀ granted later, Granted (some granted) later →
      Ends (below.allocate granted minimal) later (Below granted) onFault)
    (refused : ∀ granted later, Below granted none later →
      Ends (Mediation.free mediator granted) later
      (fun _ last => onValue none last) onFault)
    (short : ∀ granted contents later, Below granted (some contents) later →
      contents.size < granted →
      Ends (Mediation.free mediator (granted - contents.size)) later
      (fun _ last => onValue (some contents) last) onFault)
    (full : ∀ granted contents later, Below granted (some contents) later →
      granted ≤ contents.size → onValue (some contents) later) :
    Ends (allocate mediator below requested minimal) world onValue onFault := by
  refine asked.bind ?_
  intro answer granting given
  cases answer with
  | none => exact denied granting given
  | some granted =>
      refine (called granted granting given).bind ?_
      intro result later ended
      cases result with
      | none =>
          exact (refused granted later ended).bind fun _ _ settled => settled
      | some contents =>
          refine Ends.ite (fun less => ?_) (fun notLess => ?_)
          · rw [Size.sub_of_le (Nat.le_of_lt less), ends_bind, ends_ofExcept_ok]
            exact (short granted contents later ended less).bind
              fun _ _ settled => settled
          · exact full granted contents later ended (Nat.not_lt.mp notLess)

variable
    {bench : Workbench}
    {onValue : Bool → Workbench → Prop}
    {onFault : Fault → Workbench → Prop}

theorem shrink_rule
    {Below : Bool → Workbench → Prop}
    (called : Ends (below.resize requested minimal) bench Below onFault)
    (refused : ∀ later, Below false later → onValue false later)
    (grown : ∀ later, Below true later → bench.contents.size <
        later.contents.size → onFault .subtractionOverflow later)
    (cut : ∀ later, Below true later →
      later.contents.size ≤ bench.contents.size →
      Ends (Mediation.free mediator (bench.contents.size - later.contents.size))
      later.world (fun _ last => onValue true { later with world := last })
      (fun fault last => onFault fault { later with world := last })) :
    Ends (shrink mediator below requested minimal) bench onValue onFault := by
  rw [shrink, ends_bind, ends_size]
  exact Source.resize_settling_rule called refused grown cut

theorem grow_rule
    {Granted : Option Nat → World → Prop}
    (Below : Nat → Bool → Workbench → Prop)
    (larger : bench.contents.size < requested)
    (asked : Ends (Mediation.grant mediator (requested - bench.contents.size)
      (minimal - bench.contents.size)) bench.world Granted
      (fun fault later => onFault fault { bench with world := later }))
    (denied : ∀ later, Granted none later →
      onValue false { bench with world := later })
    (beyond : ∀ granted later, Granted (some granted) later →
      Size.limit < bench.contents.size + granted →
      onFault .additionOverflow { bench with world := later })
    (called : ∀ granted later, Granted (some granted) later →
      bench.contents.size + granted ≤ Size.limit →
      Ends (below.resize (bench.contents.size + granted) minimal)
      { bench with world := later } (Below granted) onFault)
    (refused : ∀ granted later, Below granted false later →
      Ends (Mediation.free mediator granted) later.world
      (fun _ last => onValue false { later with world := last })
      (fun fault last => onFault fault { later with world := last }))
    (excess : ∀ granted later, Below granted true later →
      bench.contents.size + granted < later.contents.size →
      onFault .growthAboveGrant later)
    (settled : ∀ granted later, Below granted true later → later.contents.size ≤
        bench.contents.size + granted → Ends (Mediation.free mediator
          (bench.contents.size + granted - later.contents.size))
      later.world (fun _ last => onValue true { later with world := last })
      (fun fault last => onFault fault { later with world := last })) :
    Ends (grow mediator below requested minimal) bench onValue onFault := by
  rw [grow, ends_bind, ends_size, Size.sub_of_le (Nat.le_of_lt larger),
    ends_bind, ends_liftM, ends_ofExcept_ok]
  refine asked.bindResizing ?_
  intro answer granting given
  cases answer with
  | none => exact denied granting given
  | some granted =>
      refine (ends_bind _ _).mpr ((ends_liftM _).mpr ?_)
      refine ends_add (fun fits => ?_) (beyond granted granting given)
      refine (called granted granting given fits).bind ?_
      intro met later ended
      cases met with
      | false =>
          exact (refused granted later ended).bindResizing
            fun _ _ repaid => repaid
      | true =>
          show Ends (Resizing.size >>= _) later onValue onFault
          rw [ends_bind, ends_size]
          refine Ends.ite (fun above => excess granted later ended above)
            (fun notAbove => ?_)
          have within := Nat.not_lt.mp notAbove
          rw [Size.sub_of_le within, ends_bind, ends_liftM, ends_ofExcept_ok]
          exact (settled granted later ended within).bindResizing
            fun _ _ repaid => repaid

theorem resize_rule
    (shrunk : requested ≤ bench.contents.size →
      Ends (shrink mediator below requested minimal) bench onValue onFault)
    (grown : bench.contents.size < requested →
      Ends (grow mediator below requested minimal) bench onValue onFault) :
    Ends (resize mediator below requested minimal) bench onValue onFault := by
  rw [resize, ends_bind, ends_size]
  exact Ends.ite shrunk fun above => grown (Nat.not_le.mp above)

theorem free_rule
    {size : Nat}
    {world : World}
    {Paid : World → Prop}
    {onValue : Unit → World → Prop}
    {onFault : Fault → World → Prop}
    (paid : Ends (Mediation.free mediator size) world
      (fun _ later => Paid later) onFault)
    (called : ∀ later, Paid later →
      Ends (below.free size) later onValue onFault) :
    Ends (free mediator below size) world onValue onFault :=
  paid.bind fun _ => called

end Mediated

namespace Bypass

variable {mediator amount : Nat} {below : Source} {requested minimal : Nat}

theorem readAvailable_rule
    {world : World}
    {onValue : Nat → World → Prop}
    {onFault : Fault → World → Prop}
    (read : ∀ rest, available mediator amount below world = .ok rest →
      onValue rest (world.noteAll (readLocks mediator below world)))
    (stopped : ∀ fault, available mediator amount below world = .error fault →
      onFault fault (world.noteAll (readLocks mediator below world))) :
    Ends (readAvailable mediator amount below) world onValue onFault := by
  rw [readAvailable, ends_bind, ends_get, ends_bind,
    ends_noteAll, ends_ofExcept]
  exact ⟨read, stopped⟩

theorem allocate_rule
    {world : World}
    {onValue : Option Contents → World → Prop}
    {onFault : Fault → World → Prop}
    {Read : Nat → World → Prop}
    (First : Option Contents → World → Prop)
    (read : Ends (readAvailable mediator amount below) world Read onFault)
    (first : ∀ rest later, Read rest later → Ends (Mediated.allocate mediator
      below requested (raiseMinimal requested minimal rest))
      later First onFault)
    (met : ∀ contents later, First (some contents) later →
      onValue (some contents) later)
    (again : ∀ later, First none later → Ends (Mediated.allocate mediator below
      requested minimal) later onValue onFault) :
    Ends (allocate mediator amount below requested minimal) world
      onValue onFault := by
  refine read.bind fun rest reading known => (first rest reading known).bind ?_
  intro result later ended
  cases result with
  | none => exact again later ended
  | some contents => exact met contents later ended

theorem resize_rule
    {bench : Workbench}
    {onValue : Bool → Workbench → Prop}
    {onFault : Fault → Workbench → Prop}
    (Read : Nat → World → Prop)
    (First : Bool → Workbench → Prop)
    (read : Ends (readAvailable mediator amount below) bench.world Read
      (fun fault later => onFault fault { bench with world := later }))
    (first : ∀ rest later, Read rest later → Ends (Mediated.resize mediator
      below requested (raiseMinimal requested minimal rest))
      { bench with world := later } First onFault)
    (met : ∀ later, First true later → onValue true later)
    (again : ∀ later, First false later →
      Ends (Mediated.resize mediator below requested minimal) later
      onValue onFault) :
    Ends (resize mediator amount below requested minimal) bench
      onValue onFault := by
  refine read.bindResizing fun rest reading known =>
    (first rest reading known).bind ?_
  intro result later ended
  cases result with
  | false => exact again later ended
  | true => exact met later ended

end Bypass

namespace Guaranteed

variable {mediator amount : Nat} {below : Source} {requested : Nat}

theorem allocate_rule
    {world : World}
    {onValue : Option Contents → World → Prop}
    {onFault : Fault → World → Prop}
    (refused : available mediator amount world < requested →
      onValue none (world.noteAll (Mediation.readLocks world mediator)))
    (inFull : requested ≤ available mediator amount world →
      Ends (Mediated.allocate mediator below requested requested)
      (world.noteAll (Mediation.readLocks world mediator)) onValue onFault) :
    Ends (allocate mediator amount below requested) world onValue onFault :=
  Ends.ite refused fun enough => inFull (Nat.not_lt.mp enough)

theorem resize_rule
    {bench : Workbench}
    {onValue : Bool → Workbench → Prop}
    {onFault : Fault → Workbench → Prop}
    (refused : bench.contents.size < requested →
      available mediator amount bench.world < requested - bench.contents.size →
      onValue false { bench with
                        world := bench.world.noteAll
                          (Mediation.readLocks bench.world mediator) })
    (unread : requested ≤ bench.contents.size →
      Ends (Mediated.resize mediator below requested requested) bench
      onValue onFault)
    (read : bench.contents.size < requested →
      requested - bench.contents.size ≤ available mediator amount bench.world →
      Ends (Mediated.resize mediator below requested requested)
      { bench with world := bench.world.noteAll (Mediation.readLocks bench.world
        mediator) } onValue onFault) :
    Ends (resize mediator amount below requested) bench onValue onFault := by
  rw [resize, ends_bind, ends_size]
  refine Ends.ite (fun larger => ?_)
    (fun notLarger => unread (Nat.not_lt.mp notLarger))
  exact Ends.ite (refused larger) fun enough =>
    read larger (Nat.not_lt.mp enough)

end Guaranteed

namespace Clearing

variable {below : Source} {requested minimal : Nat}

theorem allocate_rule
    {world : World}
    {onValue : Option Contents → World → Prop}
    {onFault : Fault → World → Prop}
    (called : Ends (below.allocate requested minimal) world (fun result later =>
      onValue (result.map fun contents => contents.fill 0) later) onFault) :
    Ends ((source below).allocate requested minimal) world onValue onFault :=
  called.bind fun _ _ filled => filled

theorem resize_rule
    {bench : Workbench}
    {onValue : Bool → Workbench → Prop}
    {onFault : Fault → Workbench → Prop}
    {Below : Bool → Workbench → Prop}
    (called : Ends (below.resize requested minimal) bench Below onFault)
    (same : ∀ met later, Below met later →
      (met = true → later.contents.size ≤ bench.contents.size) →
      onValue met later)
    (cleared : ∀ later, Below true later →
      bench.contents.size < later.contents.size → onValue true
      { later with contents := later.contents.zeroFrom bench.contents.size }) :
    Ends ((source below).resize requested minimal) bench onValue onFault := by
  refine (ends_bind Resizing.size _).mpr (called.bind ?_)
  intro met later ended
  refine (ends_bind Resizing.size _).mpr
    (Ends.ite (fun grown => ?_) (fun notGrown => ?_))
  · simp only [Bool.and_eq_true, decide_eq_true_eq] at grown
    obtain ⟨rfl, larger⟩ := grown
    exact cleared later ended larger
  · refine same met later ended fun isMet =>
      Nat.not_lt.mp fun larger => notGrown ?_
    exact Bool.and_eq_true_iff.mpr ⟨isMet, decide_eq_true larger⟩

end Clearing

namespace Tallied

variable {tally : Nat} {below : Source} {requested minimal : Nat}

theorem allocate_rule
    {world : World}
    {onValue : Option Contents → World → Prop}
    {onFault : Fault → World → Prop}
    {Below : Option Contents → World → Prop}
    (called : Ends (below.allocate requested minimal) world Below onFault)
    (granted : ∀ contents later, Below (some contents) later →
      onValue (some contents) (later.setTally tally
        ((later.tallies.entry tally).allocated contents.size)))
    (refused : ∀ later, Below none later → onValue none
      (later.setTally tally ((later.tallies.entry tally).refused minimal))) :
    Ends ((source tally below).allocate requested minimal) world
      onValue onFault := by
  refine called.bind ?_
  intro result later ended
  cases result with
  | none => exact refused later ended
  | some contents => exact granted contents later ended

theorem resize_rule
    {bench : Workbench}
    {onValue : Bool → Workbench → Prop}
    {onFault : Fault → Workbench → Prop}
    {Below : Bool → Workbench → Prop}
    (called : Ends (below.resize requested minimal) bench Below onFault)
    (grown : ∀ met later, Below met later →
      bench.contents.size < later.contents.size →
      onValue met
        { later with
          world := later.world.setTally tally
            ((later.world.tallies.entry tally).allocated
              (later.contents.size - bench.contents.size)) })
    (cut : ∀ met later, Below met later →
      later.contents.size < bench.contents.size →
      onValue met
        { later with
          world := later.world.setTally tally
            ((later.world.tallies.entry tally).freed
              (bench.contents.size - later.contents.size)) })
    (missed : ∀ later, Below false later →
      later.contents.size = bench.contents.size →
      bench.contents.size < requested →
      onValue false
        { later with
          world := later.world.setTally tally
            ((later.world.tallies.entry tally).refused
              (requested - later.contents.size)) })
    (kept : ∀ met later, Below met later →
      later.contents.size = bench.contents.size →
      (met = false → requested ≤ bench.contents.size) → onValue met later) :
    Ends ((source tally below).resize requested minimal) bench
      onValue onFault := by
  refine (ends_bind Resizing.size _).mpr (called.bind ?_)
  intro met later ended
  refine (ends_bind Resizing.size _).mpr ?_
  rw [ends_size, ends_bind, ends_liftM]
  refine Ends.ite (fun larger => ?_)
    (fun notLarger => Ends.ite (fun smaller => ?_) ?_)
  · rw [Size.sub_of_le (Nat.le_of_lt larger), ends_bind, ends_ofExcept_ok]
    exact grown met later ended larger
  · rw [Size.sub_of_le (Nat.le_of_lt smaller), ends_bind, ends_ofExcept_ok]
    exact cut met later ended smaller
  · intro notSmaller
    have same : later.contents.size = bench.contents.size :=
      Nat.le_antisymm (Nat.not_lt.mp notLarger) (Nat.not_lt.mp notSmaller)
    refine Ends.ite (fun missing => ?_)
      (fun notMissing => kept met later ended same ?_)
    · simp only [Bool.and_eq_true, Bool.not_eq_true', decide_eq_true_eq]
        at missing
      obtain ⟨rfl, less⟩ := missing
      rw [Size.sub_of_le (Nat.le_of_lt less), ends_bind, ends_ofExcept_ok]
      exact missed later ended same (same ▸ less)
    · rintro rfl
      exact same ▸ Nat.not_lt.mp fun less => notMissing (decide_eq_true less)

theorem free_rule
    {size : Nat}
    {world : World}
    {onValue : Unit → World → Prop}
    {onFault : Fault → World → Prop}
    (called : Ends (below.free size) world (fun done later => onValue done
      (later.setTally tally ((later.tallies.entry tally).freed size)))
      onFault) :
    Ends ((source tally below).free size) world onValue onFault :=
  called.bind fun _ _ reported => reported

end Tallied

namespace Tracked

variable {lineage : Lineage} {enforcing : Bool} {below : Source}

theorem charge_rule
    {size : Nat}
    {world : World}
    {onValue : Bool → World → Prop}
    {onFault : Fault → World → Prop}
    {Tried : Bool → World → Prop}
    (tried : Ends (Charging.tryConsume lineage (Amount.ofSize size))
      world Tried onFault)
    (admitted : ∀ later, Tried true later → onValue true later)
    (refused : ∀ later, Tried false later → enforcing = true →
      onValue false later)
    (forced : ∀ later, Tried false later → enforcing = false →
      Ends (Charging.consume lineage (Amount.ofSize size)) later
      (fun _ last => onValue true last) onFault) :
    Ends (charge lineage enforcing size) world onValue onFault := by
  refine tried.bind ?_
  intro admits later ended
  cases admits with
  | true => exact admitted later ended
  | false =>
      refine Ends.ite (fun impossible => nomatch impossible) (fun _ => ?_)
      refine Ends.ite (fun strict => refused later ended strict)
        (fun forcing => ?_)
      have lenient : enforcing = false := Bool.not_eq_true enforcing ▸ forcing
      exact (forced later ended lenient).bind fun _ _ charged => charged

theorem allocateFirst_rule
    {target : Nat}
    {rest : List Nat}
    {world : World}
    {onValue : Option Contents → World → Prop}
    {onFault : Fault → World → Prop}
    {Charged : Bool → World → Prop}
    (Below : Option Contents → World → Prop)
    (Undone : World → Prop)
    (charged : Ends (charge lineage enforcing target) world Charged onFault)
    (called : ∀ later, Charged true later →
      Ends (below.allocate target target) later Below onFault)
    (met : ∀ contents later, Below (some contents) later →
      onValue (some contents) later)
    (undone : ∀ later, Below none later →
      Ends (discharge lineage target) later (fun _ last => Undone last) onFault)
    (again : ∀ later, Charged false later ∨ Undone later →
      Ends (allocateFirst lineage enforcing below rest) later onValue onFault) :
    Ends (allocateFirst lineage enforcing below (target :: rest)) world
      onValue onFault := by
  refine charged.bind ?_
  intro admitted charging paid
  cases admitted with
  | false => exact again charging (.inl paid)
  | true =>
      refine (called charging paid).bind ?_
      intro result later ended
      cases result with
      | some contents => exact met contents later ended
      | none =>
          exact (undone later ended).bind fun _ last repaid =>
            again last (.inr repaid)

variable
    {old target : Nat}
    {bench : Workbench}
    {onValue : Bool → Workbench → Prop}
    {onFault : Fault → Workbench → Prop}

theorem shrinkTo_rule
    {Below : Bool → Workbench → Prop}
    (called : Ends (below.resize target target) bench Below onFault)
    (refused : ∀ later, Below false later → onValue false later)
    (grown : ∀ later, Below true later → old < later.contents.size →
      onFault .subtractionOverflow later)
    (cut : ∀ later, Below true later → later.contents.size ≤ old →
      Ends (discharge lineage (old - later.contents.size)) later.world
      (fun _ last => onValue true { later with world := last })
      (fun fault last => onFault fault { later with world := last })) :
    Ends (shrinkTo lineage below old target) bench onValue onFault :=
  Source.resize_settling_rule called refused grown cut

theorem growTo_rule
    (Charged : Bool → World → Prop)
    (Below : Bool → Workbench → Prop)
    (larger : old < target)
    (charged : Ends (charge lineage enforcing (target - old)) bench.world
      Charged (fun fault later => onFault fault { bench with world := later }))
    (turnedAway : ∀ later, Charged false later →
      onValue false { bench with world := later })
    (called : ∀ later, Charged true later → Ends (below.resize target target)
      { bench with world := later } Below onFault)
    (met : ∀ later, Below true later → onValue true later)
    (refused : ∀ later, Below false later →
      Ends (discharge lineage (target - old)) later.world
      (fun _ last => onValue false { later with world := last })
      (fun fault last => onFault fault { later with world := last })) :
    Ends (growTo lineage enforcing below old target) bench onValue onFault := by
  rw [growTo, Size.sub_of_le (Nat.le_of_lt larger), ends_bind, ends_liftM,
    ends_ofExcept_ok]
  refine charged.bindResizing ?_
  intro admitted charging paid
  cases admitted with
  | false => exact turnedAway charging paid
  | true =>
      refine (called charging paid).bind ?_
      intro result later ended
      cases result with
      | true => exact met later ended
      | false =>
          exact (refused later ended).bindResizing fun _ _ repaid => repaid

theorem resizeFirst_rule
    {rest : List Nat}
    (Tried : Bool → Workbench → Prop)
    (tried :
      Ends (resizeTo lineage enforcing below old target) bench Tried onFault)
    (met : ∀ later, Tried true later → onValue true later)
    (again : ∀ later, Tried false later → Ends
      (resizeFirst lineage enforcing below old rest) later onValue onFault) :
    Ends (resizeFirst lineage enforcing below old (target :: rest)) bench
      onValue onFault := by
  refine tried.bind ?_
  intro result later ended
  cases result with
  | true => exact met later ended
  | false => exact again later ended

theorem free_rule
    {size : Nat}
    {world : World}
    {Freed : World → Prop}
    {onValue : Unit → World → Prop}
    {onFault : Fault → World → Prop}
    (called : Ends (below.free size) world (fun _ later => Freed later) onFault)
    (discharged : ∀ later, Freed later →
      Ends (discharge lineage size) later onValue onFault) :
    Ends ((source lineage enforcing below).free size) world onValue onFault :=
  called.bind fun _ => discharged

end Tracked

namespace Probe

variable
    {probe : Nat}
    {screen : Screen}
    {below : Source}
    {requested minimal : Nat}

theorem allocate_rule
    {world : World}
    {onValue : Option Contents → World → Prop}
    {onFault : Fault → World → Prop}
    (refused : onValue none (world.countProbe probe))
    (called : Ends (below.allocate (screen.lower requested minimal) minimal)
      (world.countProbe probe) onValue onFault) :
    Ends ((source probe screen below).allocate requested minimal) world
      onValue onFault :=
  Ends.ite (fun _ => called) fun _ => refused

theorem resize_rule
    {bench : Workbench}
    {onValue : Bool → Workbench → Prop}
    {onFault : Fault → Workbench → Prop}
    (refused :
      onValue false { bench with world := bench.world.countProbe probe })
    (called : Ends (below.resize (screen.lower requested minimal) minimal)
      { bench with world := bench.world.countProbe probe } onValue onFault) :
    Ends ((source probe screen below).resize requested minimal) bench
      onValue onFault :=
  Ends.ite (fun _ => called) fun _ => refused

end Probe

end BufferBudget
