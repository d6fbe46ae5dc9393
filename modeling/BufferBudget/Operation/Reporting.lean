import BufferBudget.Operation

/-!
# Reporting to tallies

The operations on the tallies of a world: one for each kind of report.
-/

namespace BufferBudget

namespace Reporting

/-- Replaces a tally by what it is after a report. -/
def update (tally : Nat) (report : Tally → Tally) : Operation Unit :=
  modify fun world => world.setTally tally (report (world.tallies.entry tally))

/-- Reports a grant. -/
def allocated (tally bytes : Nat) : Operation Unit :=
  update tally fun account => account.allocated bytes

/-- Reports a refused request for at least `bytes`. -/
def refused (tally bytes : Nat) : Operation Unit :=
  update tally fun account => account.refused bytes

/-- Reports a release. -/
def freed (tally bytes : Nat) : Operation Unit :=
  update tally fun account => account.freed bytes

end Reporting

end BufferBudget
