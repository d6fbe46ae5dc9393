import BufferBudget.Account.Tally
import BufferBudget.Json.Datum

/-!
# Tallies in JSON

A tally is written as one line of JSON with its six totals in a fixed order.  It
is read from an object in which each of them is given exactly once, or from a
list of exactly six items.
-/

namespace BufferBudget

namespace Tally

/-- A tally as one line of JSON. -/
def render (tally : Tally) : String :=
  "\x7b\"allocated_bytes\":" ++ toString tally.allocatedBytes ++
    ",\"refused_bytes\":" ++ toString tally.refusedBytes ++
    ",\"freed_bytes\":" ++ toString tally.freedBytes ++
    ",\"allocations\":" ++ toString tally.allocations ++
    ",\"refusals\":" ++ toString tally.refusals ++
    ",\"frees\":" ++ toString tally.frees ++ "\x7d"

/-- Reads the members of an object. -/
def ofMembers? (members : Members) : Option Tally := do
  let allocatedBytes ← members.read? Datum.size? "allocated_bytes"
  let refusedBytes ← members.read? Datum.size? "refused_bytes"
  let freedBytes ← members.read? Datum.size? "freed_bytes"
  let allocations ← members.read? Datum.size? "allocations"
  let refusals ← members.read? Datum.size? "refusals"
  let frees ← members.read? Datum.size? "frees"
  return { allocatedBytes, refusedBytes, freedBytes, allocations,
           refusals, frees }

/-- Reads the items of a list. -/
def ofItems? (items : List Datum) : Option Tally := do
  match ← items.mapM Datum.size? with
  | [allocatedBytes, refusedBytes, freedBytes, allocations, refusals, frees] =>
      return { allocatedBytes, refusedBytes, freedBytes, allocations,
               refusals, frees }
  | _ => none

/-- Reads a JSON value. -/
def ofDatum? : Datum → Option Tally
  | .object members => do ofMembers? (← Members.ofObject? members)
  | .list items => ofItems? items
  | _ => none

/-- Reads a JSON text. -/
def ofText? (text : String) : Option Tally :=
  (Datum.ofText? text).bind ofDatum?

end Tally

end BufferBudget
