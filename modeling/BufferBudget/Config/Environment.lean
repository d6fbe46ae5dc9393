import BufferBudget.Config
import BufferBudget.Text.Blank
import BufferBudget.Text.Numeral

/-!
# Configurations from the environment

Each field of a configuration has a variable of its own.  A variable that is not
set, is not text, or does not read as a value of its field leaves the field at
its standard value: an environment is never refused.

Blanks around a value do not count.  Sizes are numerals; flags are words, in
any mixture of capital and small letters.
-/

namespace BufferBudget

/-- The raw value of each variable that is set. -/
abbrev Environment : Type :=
  String → Option ByteArray

namespace Environment

/-- The characters of a variable, if it is set and is text. -/
def chars? (environment : Environment) (name : String) :
    Option (List Char) := do
  let bytes ← environment name
  return (← String.fromUTF8? bytes).toList

/-- Reads a flag. -/
def flagOf? (chars : List Char) : Option Bool :=
  let word := String.ofList ((Blank.trim chars).map Char.toLower)
  if word ∈ ["1", "true", "yes", "on"] then some true
  else if word ∈ ["0", "false", "no", "off"] then some false
  else none

/-- Reads a size. -/
def sizeOf? (chars : List Char) : Option Nat :=
  Numeral.size? (Blank.trim chars)

/-- The size that a variable gives, if it gives one. -/
def size? (environment : Environment) (name : String) : Option Nat :=
  (environment.chars? name).bind sizeOf?

/-- The flag that a variable gives, if it gives one. -/
def flag? (environment : Environment) (name : String) : Option Bool :=
  (environment.chars? name).bind flagOf?

end Environment

namespace Config

/-- The variable of the quota. -/
def quotaVariable : String := "BUFQUOTA_QUOTA_BYTES"

/-- The variable that says whether the quota is enforced. -/
def enforcedVariable : String := "BUFQUOTA_ENFORCED"

/-- The variable of the bypass. -/
def bypassVariable : String := "BUFQUOTA_BYPASS_BYTES"

/-- The variable that says whether fresh bytes are zeros. -/
def clearingVariable : String := "BUFQUOTA_CLEAR_MEMORY"

/-- The configuration that an environment gives. -/
def ofEnvironment (environment : Environment) : Config where
  quota := environment.size? quotaVariable
  enforced := (environment.flag? enforcedVariable).getD standard.enforced
  bypass := environment.size? bypassVariable
  clearing := (environment.flag? clearingVariable).getD standard.clearing

end Config

end BufferBudget
