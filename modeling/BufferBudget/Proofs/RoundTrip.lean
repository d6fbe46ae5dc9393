import BufferBudget.Account.Tally.Json
import BufferBudget.Config.Json
import BufferBudget.Proofs.Spelling

/-!
# What is written in JSON is read back

Configurations and tallies are written as objects, with a member for each field,
and their readers look for the members by name.  So each of the two round trips
has two parts: the text is what an object with some entries is written as, and
the reader makes the value again of the members that these entries stand for.

A configuration that has been read is then put to `validate`, which has the last
word: a configuration that cannot be honoured is written like any other, and is
read back as its error.
-/

namespace BufferBudget

namespace Datum

/-- The value that an optional size is written as. -/
def ofOptional : Option Nat → Datum
  | none => .null
  | some value => .number (some value)

theorem toList_toString (number : Nat) :
    (toString number).toList = Numeral.write number := by
  rw [← Numeral.ofList_write, String.toList_ofList]

theorem spells_toString (number : Nat) :
    Spells (toString number).toList (.number (some number)) := by
  rw [toList_toString]
  exact spells_number number

theorem spells_renderOptional (value : Option Nat) :
    Spells (Config.renderOptional value).toList (ofOptional value) := by
  cases value with
  | none => exact spells_of_written .null rfl
  | some number => exact spells_toString number

theorem spells_renderFlag (value : Bool) :
    Spells (Config.renderFlag value).toList (.boolean value) := by
  cases value with
  | true => exact spells_of_written .yes rfl
  | false => exact spells_of_written .no rfl

theorem size_of_le {value : Nat} (within : value ≤ Size.limit) :
    (Datum.number (some value)).size? = some value :=
  if_pos within

theorem optionalSize_ofOptional
    {value : Option Nat}
    (within : ∀ number ∈ value, number ≤ Size.limit) :
    (ofOptional value).optionalSize? = some value := by
  cases value with
  | none => rfl
  | some number =>
      show ((Datum.number (some number)).size?).map some = _
      rw [size_of_le (within number rfl)]
      rfl

end Datum

namespace Config

/-- The optional sizes of a configuration are sizes. -/
def Sized (config : Config) : Prop :=
  (∀ quota ∈ config.quota, quota ≤ Size.limit) ∧ ∀ bypass ∈ config.bypass,
    bypass ≤ Size.limit

/-- The members that a configuration is written with. -/
def entries (config : Config) : List Datum.Entry :=
  [⟨"quota_bytes", _, _, Token.isPlain_of_all (by decide),
    Datum.spells_renderOptional config.quota⟩,
    ⟨"enforced", _, _, Token.isPlain_of_all (by decide),
      Datum.spells_renderFlag config.enforced⟩,
    ⟨"bypass_bytes", _, _, Token.isPlain_of_all (by decide),
      Datum.spells_renderOptional config.bypass⟩,
    ⟨"clear_memory", _, _, Token.isPlain_of_all (by decide),
      Datum.spells_renderFlag config.clearing⟩]

theorem toList_render (config : Config) :
    config.render.toList = Datum.writeObject config.entries := by
  unfold render entries
  simp [Datum.writeObject, Datum.writeRest, Datum.Entry.write]

theorem members_entries (config : Config) :
    config.entries.map Datum.Entry.member =
      [(some "quota_bytes", .ofOptional config.quota),
        (some "enforced", .boolean config.enforced),
        (some "bypass_bytes", .ofOptional config.bypass),
        (some "clear_memory", .boolean config.clearing)] :=
  rfl

theorem ofDatum_entries {config : Config} (sized : config.Sized) :
    ofDatum? (.object (config.entries.map Datum.Entry.member)) =
      some config := by
  have quota := Datum.optionalSize_ofOptional sized.1
  have bypass := Datum.optionalSize_ofOptional sized.2
  rw [members_entries]
  simp [ofDatum?, Members.ofObject?, ofMembers?, Members.readOr?,
    Members.values, quota, bypass, Datum.flag?]

/-- A configuration is read back, and then validated. -/
theorem ofText_render {config : Config} (sized : config.Sized) :
    ofText config.render =
      match config.validate with
      | .ok () => .ok config
      | .error error => .error (.invalid error) := by
  have spells : Datum.Spells config.render.toList
      (.object (config.entries.map Datum.Entry.member)) :=
    config.toList_render ▸ Datum.spells_writeObject config.entries
  have read : (Datum.ofText? config.render).bind ofDatum? = some config := by
    rw [spells.ofText, Option.bind_some, ofDatum_entries sized]
  cases outcome : config.validate with
  | ok => simp only [ofText, read, outcome]
  | error error => simp only [ofText, read, outcome]

end Config

namespace Tally

/-- The totals of a tally are sizes. -/
def Sized (tally : Tally) : Prop :=
  tally.allocatedBytes ≤ Size.limit ∧ tally.refusedBytes ≤ Size.limit ∧
    tally.freedBytes ≤ Size.limit ∧ tally.allocations ≤ Size.limit ∧
      tally.refusals ≤ Size.limit ∧ tally.frees ≤ Size.limit

/-- The members that a tally is written with. -/
def entries (tally : Tally) : List Datum.Entry :=
  [⟨"allocated_bytes", _, _, Token.isPlain_of_all (by decide),
    Datum.spells_toString tally.allocatedBytes⟩,
    ⟨"refused_bytes", _, _, Token.isPlain_of_all (by decide),
      Datum.spells_toString tally.refusedBytes⟩,
    ⟨"freed_bytes", _, _, Token.isPlain_of_all (by decide),
      Datum.spells_toString tally.freedBytes⟩,
    ⟨"allocations", _, _, Token.isPlain_of_all (by decide),
      Datum.spells_toString tally.allocations⟩, ⟨"refusals", _, _,
        Token.isPlain_of_all (by decide), Datum.spells_toString tally.refusals⟩,
    ⟨"frees", _, _, Token.isPlain_of_all (by decide),
      Datum.spells_toString tally.frees⟩]

theorem toList_render (tally : Tally) :
    tally.render.toList = Datum.writeObject tally.entries := by
  unfold render entries
  simp [Datum.writeObject, Datum.writeRest, Datum.Entry.write]

theorem members_entries (tally : Tally) :
    tally.entries.map Datum.Entry.member =
      [(some "allocated_bytes", .number (some tally.allocatedBytes)),
        (some "refused_bytes", .number (some tally.refusedBytes)),
        (some "freed_bytes", .number (some tally.freedBytes)),
        (some "allocations", .number (some tally.allocations)),
        (some "refusals", .number (some tally.refusals)),
        (some "frees", .number (some tally.frees))] :=
  rfl

theorem ofDatum_entries {tally : Tally} (sized : tally.Sized) :
    ofDatum? (.object (tally.entries.map Datum.Entry.member)) = some tally := by
  obtain ⟨allocatedBytes, refusedBytes, freedBytes, allocations,
    refusals, frees⟩ := sized
  rw [members_entries]
  simp [ofDatum?,
    Members.ofObject?, ofMembers?, Members.read?, Members.values, Datum.size?,
    allocatedBytes, refusedBytes, freedBytes, allocations, refusals, frees]

/-- A tally is read back. -/
theorem ofText_render {tally : Tally} (sized : tally.Sized) :
    ofText? tally.render = some tally := by
  have spells : Datum.Spells tally.render.toList
      (.object (tally.entries.map Datum.Entry.member)) :=
    tally.toList_render ▸ Datum.spells_writeObject tally.entries
  rw [ofText?, spells.ofText, Option.bind_some, ofDatum_entries sized]

end Tally

/--
A configuration whose amounts are sizes is read back as itself if it can be
honoured, and stops at the error of its validation if it cannot.  A tally whose
totals are sizes is read back as itself.
-/
theorem written_text_is_read_back :
    (∀ config : Config, config.Sized →
      (config.validate = .ok () → Config.ofText config.render = .ok config) ∧
        ∀ error, config.validate = .error error →
          Config.ofText config.render = .error (.invalid error)) ∧
      ∀ tally : Tally, tally.Sized →
        Tally.ofText? tally.render = some tally := by
  refine ⟨fun config sized => ⟨fun valid => ?_, fun error failed => ?_⟩,
    fun tally sized => ?_⟩
  · rw [Config.ofText_render sized, valid]
  · rw [Config.ofText_render sized, failed]
  · exact Tally.ofText_render sized

/--
The greatest size is read back as a bypass of no quota, as a bypass above an
enforced quota, and as the totals of a tally.
-/
theorem written_text_is_read_back_at_size_limit :
    let bypass : Config :=
      { quota := none, enforced := true, bypass := some Size.limit,
        clearing := true }
    let tooHigh : Config := { bypass with quota := some 0 }
    let tally : Tally := ⟨Size.limit, 0, Size.limit, 10, 0, 7⟩
    Config.ofText bypass.render = .ok bypass ∧
      Config.ofText tooHigh.render =
          .error (.invalid (.bypassAboveQuota Size.limit 0)) ∧
        Tally.ofText? tally.render = some tally := by
  intro bypass tooHigh tally
  obtain ⟨configs, tallies⟩ := written_text_is_read_back
  refine ⟨(configs bypass ?_).1 rfl, (configs tooHigh ?_).2 _ rfl,
    tallies tally ?_⟩
  · simp [bypass, Config.Sized]
  · simp [tooHigh, bypass, Config.Sized]
  · simp [tally, Tally.Sized, Size.limit]

end BufferBudget
