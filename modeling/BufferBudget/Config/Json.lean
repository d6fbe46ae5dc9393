import BufferBudget.Config
import BufferBudget.Json.Datum

/-!
# Configurations in JSON

A configuration is read from an object with at most one member for each field,
in any order, or from a list of its fields in the order in which they are
written.  What is missing takes its standard value, and members with other
names are passed over whatever their values are.  What has been read must then
be a configuration that can be honoured.
-/

namespace BufferBudget

/-- Why a text does not give a configuration. -/
inductive ConfigReadError where
  /-- The text is no JSON text, or not one of a configuration. -/
  | malformed
  /-- The configuration cannot be honoured. -/
  | invalid (error : ConfigError)
deriving DecidableEq, Repr

namespace Config

/-- Reads the members of an object. -/
def ofMembers? (members : Members) : Option Config := do
  let quota ← members.readOr? Datum.optionalSize? standard.quota "quota_bytes"
  let enforced ← members.readOr? Datum.flag? standard.enforced "enforced"
  let bypass ← members.readOr? Datum.optionalSize?
    standard.bypass "bypass_bytes"
  let clearing ← members.readOr? Datum.flag? standard.clearing "clear_memory"
  return { quota, enforced, bypass, clearing }

/-- Reads an item of a list, which may be missing. -/
def itemOr?
    {α : Type}
    (items : List Datum)
    (read? : Datum → Option α)
    (missing : α)
    (position : Nat) : Option α :=
  match items[position]? with
  | none => some missing
  | some datum => read? datum

/-- Reads the items of a list. -/
def ofItems? (items : List Datum) : Option Config := do
  let quota ← itemOr? items Datum.optionalSize? standard.quota 0
  let enforced ← itemOr? items Datum.flag? standard.enforced 1
  let bypass ← itemOr? items Datum.optionalSize? standard.bypass 2
  let clearing ← itemOr? items Datum.flag? standard.clearing 3
  if items.length ≤ 4 then
    return { quota, enforced, bypass, clearing }
  else
    none

/-- Reads a JSON value. -/
def ofDatum? : Datum → Option Config
  | .object members => do ofMembers? (← Members.ofObject? members)
  | .list items => ofItems? items
  | _ => none

/-- Reads a JSON text. -/
def ofText (text : String) : Except ConfigReadError Config :=
  match (Datum.ofText? text).bind ofDatum? with
  | none => .error .malformed
  | some config =>
      match config.validate with
      | .ok () => .ok config
      | .error error => .error (.invalid error)

end Config

end BufferBudget
