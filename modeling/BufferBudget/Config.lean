import BufferBudget.Size

/-!
# Configurations

A configuration says which layers an allocator is to have: a quota, a bypass of
it, and clearing.  It is written as one line of JSON with all four fields in a
fixed order.

A bypass above an enforced quota could never be honoured, so `validate` refuses
that combination, and no other.
-/

namespace BufferBudget

/-- The layers that an allocator is to have. -/
structure Config where
  /-- The quota in bytes, if there is one. -/
  quota : Option Nat
  /-- Whether the quota is enforced. -/
  enforced : Bool
  /-- The usage up to which a soft quota is bypassed, if it is. -/
  bypass : Option Nat
  /-- Whether fresh bytes are zeros. -/
  clearing : Bool
deriving DecidableEq, Repr

/-- Why a configuration cannot be honoured. -/
inductive ConfigError where
  /-- The bypass is above an enforced quota. -/
  | bypassAboveQuota (bypass quota : Nat)
deriving DecidableEq, Repr

/-- The text that an error is reported with. -/
def ConfigError.message : ConfigError → String
  | .bypassAboveQuota bypass quota =>
      "Invalid configuration: bypass_bytes (" ++ toString bypass ++
        ") exceeds the enforced quota (" ++ toString quota ++ ")"

namespace Config

/-- No quota, no bypass, no clearing. -/
def standard : Config :=
  { quota := none, enforced := true, bypass := none, clearing := false }

/-- Refuses a configuration that cannot be honoured. -/
def validate (config : Config) : Except ConfigError Unit :=
  match config.quota, config.bypass with
  | some quota, some bypass =>
      if config.enforced && quota < bypass then
        .error (.bypassAboveQuota bypass quota)
      else .ok ()
  | _, _ => .ok ()

/-- The quota, or the largest size where there is none. -/
def effectiveQuota (config : Config) : Nat :=
  config.quota.getD Size.limit

/-- The names of the layers that are asked for, the lowest first. -/
def layerNames (config : Config) : List String :=
  (if config.quota.isSome then ["memory_limit"] else []) ++
    (if config.bypass.isSome then ["soft_quota_bypass"] else []) ++
    (if config.clearing then ["clearing"] else [])

/-- An optional size in JSON. -/
def renderOptional : Option Nat → String
  | none => "null"
  | some value => toString value

/-- A flag in JSON. -/
def renderFlag (value : Bool) : String :=
  if value then "true" else "false"

/-- A configuration as one line of JSON. -/
def render (config : Config) : String :=
  "\x7b\"quota_bytes\":" ++ renderOptional config.quota ++
    ",\"enforced\":" ++ renderFlag config.enforced ++
    ",\"bypass_bytes\":" ++ renderOptional config.bypass ++
    ",\"clear_memory\":" ++ renderFlag config.clearing ++ "\x7d"

theorem validate_eq_ok_iff (config : Config) :
    config.validate = .ok () ↔
      ∀ quota bypass, config.quota = some quota → config.bypass = some bypass →
        config.enforced = true → bypass ≤ quota := by
  rcases config with ⟨_ | quota, enforced, _ | bypass, clearing⟩
    <;> simp [validate]

end Config

end BufferBudget
