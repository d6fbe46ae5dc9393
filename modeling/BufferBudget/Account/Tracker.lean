import BufferBudget.Size

/-!
# Trackers and their lineages

A tracker counts what a part of a program consumes, against an optional limit
of its own, and remembers its highest count.  Trackers form a forest: what is
recorded on one is recorded on each of its ancestors too.

The counter of a tracker keeps the remainder of a sum that leaves the range of
amounts; the comparison with a limit is made on the saturated sum.
-/

namespace BufferBudget

/-- A counter with an optional limit. -/
structure Tracker where
  /-- The name that diagnostics give. -/
  label : String
  /-- The highest consumption admitted by request; none means no bound. -/
  limit : Option Int
  /-- What is consumed now. -/
  consumption : Int
  /-- The highest consumption recorded. -/
  peak : Int
deriving DecidableEq, Repr, Inhabited

namespace Tracker

/-- A tracker nothing has been recorded on. -/
def fresh (label : String) (limit : Option Int) : Tracker :=
  { label, limit, consumption := 0, peak := 0 }

/-- Stores a consumption, reduced to the range of amounts. -/
def store (tracker : Tracker) (consumption : Int) : Tracker :=
  { tracker with consumption := Amount.wrap consumption }

/-- Raises the peak to a consumption that has been reached. -/
def reach (tracker : Tracker) (consumption : Int) : Tracker :=
  { tracker with peak := max tracker.peak consumption }

/-- The consumption after a request that a limited tracker has to decide on. -/
def target (tracker : Tracker) (bytes : Int) : Int :=
  Amount.saturate (tracker.consumption + bytes)

/-- Whether the limit, if there is one, leaves room for more. -/
def admits (tracker : Tracker) (bytes : Int) : Bool :=
  match tracker.limit with
  | none => true
  | some limit => tracker.target bytes ≤ limit

@[simp]
theorem limit_store (tracker : Tracker) (consumption : Int) :
    (tracker.store consumption).limit = tracker.limit :=
  rfl

@[simp]
theorem limit_reach (tracker : Tracker) (consumption : Int) :
    (tracker.reach consumption).limit = tracker.limit :=
  rfl

@[simp]
theorem consumption_store (tracker : Tracker) (consumption : Int) :
    (tracker.store consumption).consumption = Amount.wrap consumption :=
  rfl

@[simp]
theorem consumption_reach (tracker : Tracker) (consumption : Int) :
    (tracker.reach consumption).consumption = tracker.consumption :=
  rfl

end Tracker

/-- A tracker and its ancestors, nearest first, by their numbers. -/
structure Lineage where
  tracker : Nat
  ancestors : List Nat
deriving DecidableEq, Repr

/-- The trackers that a charge on the first of them is recorded on. -/
def Lineage.members (lineage : Lineage) : List Nat :=
  lineage.tracker :: lineage.ancestors

/--
The family of each tracker: a tracker may name an earlier one as its parent.
-/
structure Forest where
  parents : List (Option Nat)
deriving DecidableEq, Repr

namespace Forest

/-- The parent of a tracker, if it has one and that one comes earlier. -/
def parent? (forest : Forest) (tracker : Nat) :
    Option { parent : Nat // parent < tracker } :=
  match forest.parents[tracker]? with
  | some (some parent) =>
      if earlier : parent < tracker then some ⟨parent, earlier⟩ else none
  | _ => none

/-- The ancestors of a tracker, nearest first. -/
def ancestors (forest : Forest) (tracker : Nat) : List Nat :=
  match forest.parent? tracker with
  | none => []
  | some ⟨parent, _⟩ => parent :: forest.ancestors parent
termination_by tracker

/-- A tracker with all its ancestors. -/
def lineage (forest : Forest) (tracker : Nat) : Lineage :=
  { tracker, ancestors := forest.ancestors tracker }

@[simp]
theorem tracker_lineage (forest : Forest) (tracker : Nat) :
    (forest.lineage tracker).tracker = tracker :=
  rfl

/-- Every ancestor comes earlier than its descendant. -/
theorem lt_of_mem_ancestors
    (forest : Forest)
    {tracker ancestor : Nat}
    (member : ancestor ∈ forest.ancestors tracker) :
    ancestor < tracker := by
  induction tracker using Nat.strongRecOn with
  | _ tracker ih =>
    unfold ancestors at member
    split at member
    · simp at member
    · rename_i parent earlier _
      rcases List.mem_cons.mp member with rfl | further
      · exact earlier
      · exact Nat.lt_trans (ih parent earlier further) earlier

theorem nodup_ancestors (forest : Forest) (tracker : Nat) :
    (forest.ancestors tracker).Nodup := by
  induction tracker using Nat.strongRecOn with
  | _ tracker ih =>
    unfold ancestors
    split
    · exact List.nodup_nil
    · rename_i parent earlier _
      refine List.nodup_cons.mpr ⟨?_, ih parent earlier⟩
      intro member
      exact Nat.lt_irrefl parent (forest.lt_of_mem_ancestors member)

/-- A lineage names no tracker twice. -/
theorem nodup_members_lineage (forest : Forest) (tracker : Nat) :
    (forest.lineage tracker).members.Nodup := by
  refine List.nodup_cons.mpr ⟨?_, forest.nodup_ancestors tracker⟩
  intro member
  exact Nat.lt_irrefl tracker (forest.lt_of_mem_ancestors member)

end Forest

end BufferBudget
