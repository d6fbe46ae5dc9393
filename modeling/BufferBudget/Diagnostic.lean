/-!
# Diagnostics

What allocators, quotas and trackers tell an operator about.  None of it
changes an answer.  A diagnostic is a cause with its figures; `severity`,
`message` and `fields` say how it is written.
-/

namespace BufferBudget

/-- How urgent a diagnostic is. -/
inductive Severity where
  | error
  | warn
  | debug
  | trace
deriving DecidableEq, Repr

/-- The written name of a severity. -/
def Severity.name : Severity → String
  | .error => "error"
  | .warn => "warn"
  | .debug => "debug"
  | .trace => "trace"

/-- One figure of a diagnostic. -/
inductive Figure where
  | number (value : Int)
  | flag (value : Bool)
  | text (value : String)
deriving DecidableEq, Repr

/-- Something worth telling an operator. -/
inductive Diagnostic where
  /-- A request for memory was denied. -/
  | allocationFailed (requested minimal : Nat)
  /-- A request was granted with less than it asked for. -/
  | allocationShort (requested minimal allocated : Nat)
  /-- A quota had less left than the smallest grant accepted. -/
  | outOfQuota
      (requested minimal ceiling usage : Nat)
      (enforced : Bool)
      (granted : Nat)
  /-- More was given back to a quota than it had granted. -/
  | overRelease (usage amount : Nat)
  /-- A usage stands so high that the accounting must be wrong. -/
  | suspiciousUsage (usage : Nat)
  /-- A stack of layers was made from a configuration; lowest layer first. -/
  | layersBuilt (layers : List String)
  /-- The consumption of a tracker changed. -/
  | trackerUsage (tracker : String) (consumption peak : Int)
deriving DecidableEq, Repr

namespace Diagnostic

/-- How urgent a diagnostic is. -/
def severity : Diagnostic → Severity
  | .allocationFailed .. | .allocationShort .. | .outOfQuota .. => .warn
  | .overRelease .. | .suspiciousUsage .. => .error
  | .layersBuilt .. => .debug
  | .trackerUsage .. => .trace

/-- The sentence that a diagnostic is written with. -/
def message : Diagnostic → String
  | .allocationFailed .. => "memory allocation failed"
  | .allocationShort .. => "memory allocation was shorter than requested"
  | .outOfQuota .. => "out of quota"
  | .overRelease .. =>
      "quota free exceeds current usage; clamping usage at zero"
  | .suspiciousUsage .. =>
      "suspiciously big quota usage (an unaccounted free, or a race on an unsynchronized quota)"
  | .layersBuilt .. => "built allocator chain"
  | .trackerUsage .. => "mem tracker usage"

/-- Names in quotes, separated by commas, in square brackets. -/
def quotedList (names : List String) : String :=
  "[" ++ ", ".intercalate (names.map fun name => "\"" ++ name ++ "\"") ++ "]"

/-- What a quota did when a request went past its ceiling. -/
def outcome (granted : Nat) : String :=
  if granted = 0 then "did not allocate any memory"
  else "allocated the minimal value requested"

/--
The named figures of a diagnostic, in the order in which they are written.
-/
def fields : Diagnostic → List (String × Figure)
  | .allocationFailed requested minimal =>
      [("requested", .number requested), ("minimal", .number minimal)]
  | .allocationShort requested minimal allocated =>
      [("requested", .number requested), ("minimal", .number minimal),
        ("allocated", .number allocated)]
  | .outOfQuota requested minimal ceiling usage enforced granted =>
      [("requested", .number requested), ("minimal", .number minimal),
        ("quota", .number ceiling), ("usage", .number usage),
        ("enforced", .flag enforced), ("outcome", .text (outcome granted))]
  | .overRelease usage amount =>
      [("usage", .number usage), ("amount", .number amount)]
  | .suspiciousUsage usage => [("usage", .number usage)]
  | .layersBuilt layers => [("layers", .text (quotedList layers))]
  | .trackerUsage tracker consumption peak =>
      [("tracker", .text tracker), ("consumption", .number consumption),
        ("peak", .number peak)]

end Diagnostic

end BufferBudget
