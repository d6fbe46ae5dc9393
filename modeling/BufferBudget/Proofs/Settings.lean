import Mathlib.Data.List.Nodup
import BufferBudget.Proofs.RoundTrip

/-!
# What a configuration says in each of its spellings

A configuration says something about some of its fields, each once, and leaves
the others at their standard values.  It may do so by the members of an object,
in any order and among any other members, or by the items of a list, in the
order of the fields.  Either way it says the same, whatever its texts and
numbers are written with and wherever blanks stand.

Reading members over a configuration gives the settings that they are, applied
to it one after the other: what the first of them says is taken for a standard
value by those after it, since none of them is of the same field.

A configuration that says something twice, that says more than there are
fields, or whose sizes are too large, is malformed in each of its spellings.
-/

namespace BufferBudget

/--
The value that is written as a text: the text is a row of its tokens, with
blanks anywhere.
-/
def Datum.WrittenAs (datum : Datum) (text : String) : Prop :=
  Token.Row text.toList datum.tokens

theorem Datum.writtenAs_of_row
    {datum : Datum}
    {text : String}
    {chars : List Char}
    (row : Token.Row chars datum.tokens)
    (same : text.toList = chars) :
    datum.WrittenAs text := by
  subst same
  exact row

/-- The object with some members. -/
def Datum.ofMembers (members : Members) : Datum :=
  .object (members.map fun member => (some member.1, member.2))

/-- A field of a configuration, and a value for it. -/
inductive Setting where
  | quota (value : Option Nat)
  | enforced (value : Bool)
  | bypass (value : Option Nat)
  | clearing (value : Bool)

namespace Setting

/-- The name of the field. -/
def name : Setting → String
  | .quota _ => "quota_bytes"
  | .enforced _ => "enforced"
  | .bypass _ => "bypass_bytes"
  | .clearing _ => "clear_memory"

/-- The value as it is written. -/
def datum : Setting → Datum
  | .quota value | .bypass value => .ofOptional value
  | .enforced value | .clearing value => .boolean value

/-- The setting as a member of an object. -/
def member (setting : Setting) : String × Datum :=
  (setting.name, setting.datum)

/-- The value is one that the field can have. -/
def Sized : Setting → Prop
  | .quota value | .bypass value => ∀ number ∈ value, number ≤ Size.limit
  | .enforced _ | .clearing _ => True

/-- A configuration that has been given the value. -/
def apply (config : Config) : Setting → Config
  | .quota value => { config with quota := value }
  | .enforced value => { config with enforced := value }
  | .bypass value => { config with bypass := value }
  | .clearing value => { config with clearing := value }

end Setting

namespace Members

/-- Whether a name is that of a field of configurations. -/
def isField (name : String) : Bool :=
  name ∈ ["quota_bytes", "enforced", "bypass_bytes", "clear_memory"]

/-- The members that are fields of configurations. -/
def fields (members : Members) : Members :=
  members.filter fun member => isField member.1

variable {members : Members} {name : String}

theorem ofObject_map (members : Members) :
    ofObject? (members.map fun member => (some member.1, member.2)) =
      some members := by
  induction members with
  | nil => rfl
  | cons member rest ih =>
      rw [ofObject?] at ih ⊢
      rw [List.map_cons, List.mapM_cons, ih]
      rfl

theorem values_cons_self (datum : Datum) (rest : Members) :
    values ((name, datum) :: rest) name = datum :: rest.values name := by
  simp [values]

theorem values_cons_of_ne
    {other : String}
    (apart : other ≠ name)
    (datum : Datum)
    (rest : Members) :
    values ((other, datum) :: rest) name = rest.values name := by
  simp [values, apart]

theorem values_eq_nil (missing : name ∉ members.map (·.1)) :
    members.values name = [] := by
  rw [values, List.map_eq_nil_iff, List.filter_eq_nil_iff]
  intro member among same
  exact missing (List.mem_map.mpr ⟨member, among, of_decide_eq_true same⟩)

/--
What is given under the name of a field is given by the members that are fields.
-/
theorem values_fields (field : isField name = true) :
    members.fields.values name = members.values name := by
  rw [values, values, fields, List.filter_filter]
  refine congrArg _ (List.filter_congr fun member _ => ?_)
  by_cases same : member.1 = name
  · simp [same, field]
  · simp [same]

/-- Only the members that are fields are read. -/
theorem readOr_fields
    {α : Type}
    (field : isField name = true)
    (read? : Datum → Option α)
    (missing : α) :
    members.fields.readOr? read? missing name =
      members.readOr? read? missing name := by
  rw [readOr?, readOr?, values_fields field]

theorem length_values (members : Members) (name : String) :
    (members.values name).length = (members.map (·.1)).count name := by
  rw [values, List.length_map, List.count_eq_countP, List.countP_map,
    List.countP_eq_length_filter]
  refine congrArg _ (List.filter_congr fun member _ => ?_)
  rfl

/--
What a member says is as good as what is taken for it where it is missing.
-/
theorem readOr_cons_self
    {α : Type}
    {read? : Datum → Option α}
    {datum : Datum}
    {value : α}
    (read : read? datum = some value)
    {rest : Members}
    (alone : name ∉ rest.map (·.1))
    (missing : α) :
    readOr? ((name, datum) :: rest) read? missing name =
      rest.readOr? read? value name := by
  rw [readOr?, readOr?, values_cons_self, values_eq_nil alone]
  exact read

theorem readOr_cons_of_ne
    {α : Type}
    {other : String}
    (apart : other ≠ name)
    (datum : Datum)
    (rest : Members)
    (read? : Datum → Option α)
    (missing : α) :
    readOr? ((other, datum) :: rest) read? missing name =
      rest.readOr? read? missing name := by
  rw [readOr?, readOr?, values_cons_of_ne apart]

/-- A name that is given twice cannot be read. -/
theorem readOr_of_repeated
    {α : Type}
    {read? : Datum → Option α}
    {missing : α}
    (repeated : 2 ≤ (members.values name).length) :
    members.readOr? read? missing name = none := by
  unfold readOr?
  split
  · rename_i none
    simp [none] at repeated
  · rename_i one
    simp [one] at repeated
  · rfl

/-- A name cannot be read if what is given under it cannot. -/
theorem readOr_of_unreadable
    {α : Type}
    {read? : Datum → Option α}
    {missing : α}
    {datum : Datum}
    (given : (name, datum) ∈ members)
    (unreadable : read? datum = none) :
    members.readOr? read? missing name = none := by
  have among : datum ∈ members.values name :=
    List.mem_map.mpr ⟨_, List.mem_filter.mpr ⟨given, decide_eq_true rfl⟩, rfl⟩
  unfold readOr?
  split
  · rename_i none
    simp [none] at among
  · rename_i one
    rw [one, List.mem_singleton] at among
    exact among ▸ unreadable
  · rfl

end Members

namespace Config

/--
A configuration that has been read: itself if it can be honoured, or the error
of its validation.
-/
def outcome (config : Config) : Except ConfigReadError Config :=
  match config.validate with
  | .ok () => .ok config
  | .error error => .error (.invalid error)

/-- A configuration that has been given some values, one after the other. -/
def withAll (config : Config) (settings : List Setting) : Config :=
  settings.foldl Setting.apply config

/-- Settings of different fields can be made in any order. -/
theorem withAll_of_perm
    {settings others : List Setting}
    (same : settings.Perm others)
    (distinct : (settings.map Setting.name).Nodup)
    (config : Config) :
    config.withAll settings = config.withAll others := by
  refine same.foldl_eq' (fun first early second late between => ?_) config
  by_cases alike : first.name = second.name
  · rw [List.inj_on_of_nodup_map distinct early late alike]
  · cases first <;> cases second <;> first | rfl | exact absurd rfl alike

/-- All fields of a configuration, in their order. -/
def settings (config : Config) : List Setting :=
  [.quota config.quota, .enforced config.enforced, .bypass config.bypass,
    .clearing config.clearing]

/--
Reads the members of an object, where what is missing is taken from a
configuration.
-/
def ofMembersOver? (base : Config) (members : Members) : Option Config := do
  let quota ← members.readOr? Datum.optionalSize? base.quota "quota_bytes"
  let enforced ← members.readOr? Datum.flag? base.enforced "enforced"
  let bypass ← members.readOr? Datum.optionalSize? base.bypass "bypass_bytes"
  let clearing ← members.readOr? Datum.flag? base.clearing "clear_memory"
  return { quota, enforced, bypass, clearing }

theorem ofMembersOver_standard (members : Members) :
    ofMembersOver? standard members = ofMembers? members :=
  rfl

/-- Members that are no fields are passed over. -/
theorem ofMembersOver_fields (base : Config) (members : Members) :
    ofMembersOver? base members.fields = ofMembersOver? base members := by
  rw [ofMembersOver?, ofMembersOver?, Members.readOr_fields rfl,
    Members.readOr_fields rfl,
    Members.readOr_fields rfl, Members.readOr_fields rfl]

/-- What a setting says is taken for standard by those after it. -/
theorem ofMembersOver_cons
    {setting : Setting}
    (sized : setting.Sized)
    {rest : Members}
    (alone : setting.name ∉ rest.map (·.1))
    (base : Config) :
    ofMembersOver? base (setting.member :: rest) =
      ofMembersOver? (setting.apply base) rest := by
  unfold ofMembersOver? Setting.member
  cases setting with
  | quota value =>
      have own : "quota_bytes" ∉ rest.map (·.1) := alone
      have read : (Datum.ofOptional value).optionalSize? = some value :=
        Datum.optionalSize_ofOptional sized
      rw [Setting.name, Setting.datum, Members.readOr_cons_self read own,
        Members.readOr_cons_of_ne (by decide),
        Members.readOr_cons_of_ne (by decide),
        Members.readOr_cons_of_ne (by decide)]
      rfl
  | enforced value =>
      have own : "enforced" ∉ rest.map (·.1) := alone
      have read : (Datum.boolean value).flag? = some value := rfl
      rw [Setting.name, Setting.datum, Members.readOr_cons_of_ne (by decide),
        Members.readOr_cons_self read own,
        Members.readOr_cons_of_ne (by decide),
        Members.readOr_cons_of_ne (by decide)]
      rfl
  | bypass value =>
      have own : "bypass_bytes" ∉ rest.map (·.1) := alone
      have read : (Datum.ofOptional value).optionalSize? = some value :=
        Datum.optionalSize_ofOptional sized
      rw [Setting.name, Setting.datum, Members.readOr_cons_of_ne (by decide),
        Members.readOr_cons_of_ne (by decide), Members.readOr_cons_self read
        own, Members.readOr_cons_of_ne (by decide)]
      rfl
  | clearing value =>
      have own : "clear_memory" ∉ rest.map (·.1) := alone
      have read : (Datum.boolean value).flag? = some value := rfl
      rw [Setting.name, Setting.datum, Members.readOr_cons_of_ne (by decide),
        Members.readOr_cons_of_ne (by decide),
        Members.readOr_cons_of_ne (by decide),
        Members.readOr_cons_self read own]
      rfl

/-- Settings of different fields are read as what they say. -/
theorem ofMembersOver_settings
    {settings : List Setting}
    (distinct : (settings.map Setting.name).Nodup)
    (sized : ∀ setting ∈ settings, setting.Sized)
    (base : Config) :
    ofMembersOver? base (settings.map Setting.member) =
      some (base.withAll settings) := by
  induction settings generalizing base with
  | nil => rfl
  | cons setting rest ih =>
      obtain ⟨alone, others⟩ := List.nodup_cons.mp distinct
      have names : (rest.map Setting.member).map (·.1) =
          rest.map Setting.name := by
        rw [List.map_map]
        rfl
      rw [List.map_cons, ofMembersOver_cons (sized setting List.mem_cons_self)
        (names ▸ alone), ih others
        (fun other member => sized other (List.mem_cons_of_mem setting member))]
      rfl

/-- An object is read as what its fields say, if they are of different names. -/
theorem ofDatum_ofMembers
    {settings : List Setting}
    {members : Members}
    (distinct : (settings.map Setting.name).Nodup)
    (sized : ∀ setting ∈ settings, setting.Sized)
    (fields : members.fields = settings.map Setting.member) :
    ofDatum? (.ofMembers members) = some (standard.withAll settings) := by
  show (Members.ofObject? _).bind ofMembers? = _
  rw [Members.ofObject_map, Option.bind_some, ← ofMembersOver_standard,
    ← ofMembersOver_fields, fields]
  exact ofMembersOver_settings distinct sized standard

/-- The first fields of a configuration are read from a list of them. -/
theorem ofDatum_list {config : Config} (sized : config.Sized) (count : Nat) :
    ofDatum? (.list ((config.settings.take count).map Setting.datum)) =
      some (standard.withAll (config.settings.take count)) := by
  have quota := Datum.optionalSize_ofOptional sized.1
  have bypass := Datum.optionalSize_ofOptional sized.2
  rcases count with _ | _ | _ | _ | more
  all_goals simp [ofDatum?, ofItems?, itemOr?, settings, withAll, Setting.datum,
    Setting.apply, Datum.flag?, quota, bypass, standard]

/-- A name that cannot be read makes an object unreadable. -/
theorem ofMembers_eq_none
    {members : Members}
    (unreadable :
      members.readOr? Datum.optionalSize? standard.quota "quota_bytes" = none ∨
      members.readOr? Datum.flag? standard.enforced "enforced" = none ∨
      members.readOr? Datum.optionalSize? standard.bypass "bypass_bytes" =
        none ∨
      members.readOr? Datum.flag? standard.clearing "clear_memory" = none) :
    ofMembers? members = none := by
  rw [ofMembers?]
  rcases unreadable with none | none | none | none
  all_goals simp [none]

theorem ofDatum_ofMembers_eq_none
    {members : Members}
    (unreadable : ofMembers? members = none) :
    ofDatum? (.ofMembers members) = none := by
  show (Members.ofObject? _).bind ofMembers? = _
  rw [Members.ofObject_map, Option.bind_some, unreadable]

/-- No field can be given twice. -/
theorem ofDatum_of_repeated
    {members : Members}
    {name : String}
    (field : Members.isField name = true)
    (repeated : 2 ≤ (members.map (·.1)).count name) :
    ofDatum? (.ofMembers members) = none := by
  rw [← Members.length_values] at repeated
  refine ofDatum_ofMembers_eq_none (ofMembers_eq_none ?_)
  have names := of_decide_eq_true field
  simp only [List.mem_cons, List.not_mem_nil, or_false] at names
  rcases names with rfl | rfl | rfl | rfl
  · exact .inl (Members.readOr_of_repeated repeated)
  · exact .inr (.inl (Members.readOr_of_repeated repeated))
  · exact .inr (.inr (.inl (Members.readOr_of_repeated repeated)))
  · exact .inr (.inr (.inr (Members.readOr_of_repeated repeated)))

/-- A number above the largest size is no size. -/
theorem optionalSize_of_large
    {natural : Option Nat}
    (large : ∀ value ∈ natural, Size.limit < value) :
    (Datum.number natural).optionalSize? = none := by
  cases natural with
  | none => rfl
  | some value =>
      show (Datum.size? _).map some = none
      rw [Datum.size?, if_neg (Nat.not_le.mpr (large value rfl))]
      rfl

/-- No size can be given by a number that is none. -/
theorem ofDatum_of_large
    {members : Members}
    {name : String}
    {natural : Option Nat}
    (size : name ∈ ["quota_bytes", "bypass_bytes"])
    (large : ∀ value ∈ natural, Size.limit < value)
    (given : (name, .number natural) ∈ members) :
    ofDatum? (.ofMembers members) = none := by
  have unreadable := optionalSize_of_large large
  refine ofDatum_ofMembers_eq_none (ofMembers_eq_none ?_)
  simp only [List.mem_cons, List.not_mem_nil, or_false] at size
  rcases size with rfl | rfl
  · exact .inl (Members.readOr_of_unreadable given unreadable)
  · exact .inr (.inr (.inl (Members.readOr_of_unreadable given unreadable)))

theorem ofDatum_list_of_large
    {items : List Datum}
    {position : Nat}
    {natural : Option Nat}
    (size : position ∈ [0, 2])
    (large : ∀ value ∈ natural, Size.limit < value)
    (given : items[position]? = some (.number natural)) :
    ofDatum? (.list items) = none := by
  have unreadable := optionalSize_of_large large
  have unread : ∀ missing,
      itemOr? items Datum.optionalSize? missing position = none := by
    intro missing
    rw [itemOr?, given]
    exact unreadable
  show ofItems? items = none
  rw [ofItems?]
  simp only [List.mem_cons, List.not_mem_nil, or_false] at size
  rcases size with rfl | rfl
  all_goals simp [unread]

/-- There are no more items than fields. -/
theorem ofDatum_list_of_long {items : List Datum} (long : 5 ≤ items.length) :
    ofDatum? (.list items) = none := by
  have beyond : ¬items.length ≤ 4 := Nat.not_le.mpr long
  show ofItems? items = none
  simp [ofItems?, beyond]

section Texts

variable {datum : Datum} {text : String}

/-- What is read from a value is read from each text that it is written as. -/
theorem ofText_of_writtenAs
    {config : Config}
    (written : datum.WrittenAs text)
    (read : ofDatum? datum = some config) :
    ofText text = config.outcome := by
  have found : (Datum.ofText? text).bind ofDatum? = some config := by
    rw [Datum.ofText_of_row written, Option.bind_some, read]
  rw [ofText, found]
  rfl

theorem ofText_eq_malformed
    (written : datum.WrittenAs text)
    (unreadable : ofDatum? datum = none) :
    ofText text = .error .malformed := by
  have missed : (Datum.ofText? text).bind ofDatum? = none := by
    rw [Datum.ofText_of_row written, Option.bind_some, unreadable]
  rw [ofText, missed]

end Texts

/--
The members of an object say something about some fields, about each of them
once, and may say anything about what is no field.
-/
structure Declares (members : Members) (settings : List Setting) : Prop where
  distinct : (settings.map Setting.name).Nodup
  sized : ∀ setting ∈ settings, setting.Sized
  fields : members.fields = settings.map Setting.member

/--
An object whose members say something about some fields is read as the standard
configuration with what they say, in each of its spellings: the members stand in
any order, among any others with any values, and blanks stand between any
tokens.  It is then validated.  A list of the first fields is read as an object
with these is.  An object that names a field twice, a list of more items than
there are fields, and an object or a list with a number above the largest size
in the place of a size are malformed in each of their spellings.
-/
theorem every_spelling_means_the_same :
    (∀ (members : Members) (settings : List Setting) (text : String),
      Declares members settings →
      (Datum.ofMembers members).WrittenAs text →
        ofText text = (standard.withAll settings).outcome) ∧
    (∀ (config : Config) (count : Nat) (text : String), config.Sized →
      (Datum.list ((config.settings.take count).map Setting.datum)).WrittenAs
          text →
        ofText text = (standard.withAll (config.settings.take count)).outcome ∧
        ∀ (members : Members) (settings : List Setting) (other : String),
          Declares members settings →
            settings.Perm (config.settings.take count) →
            (Datum.ofMembers members).WrittenAs other →
              ofText text = ofText other) ∧
    (∀ (members : Members) (text name : String),
      (Datum.ofMembers members).WrittenAs text →
      Members.isField name = true → 2 ≤ (members.map (·.1)).count name →
        ofText text = .error .malformed) ∧
    (∀ (items : List Datum) (text : String), (Datum.list items).WrittenAs text →
      5 ≤ items.length → ofText text = .error .malformed) ∧
    (∀ (members : Members) (text name : String) (natural : Option Nat),
      (Datum.ofMembers members).WrittenAs text →
        name ∈ ["quota_bytes", "bypass_bytes"] →
        (∀ value ∈ natural, Size.limit < value) →
          (name, .number natural) ∈ members →
          ofText text = .error .malformed) ∧
    ∀ (items : List Datum) (text : String) (position : Nat)
        (natural : Option Nat),
      (Datum.list items).WrittenAs text → position ∈ [0, 2] →
        (∀ value ∈ natural, Size.limit < value) →
          items[position]? = some (.number natural) →
          ofText text = .error .malformed := by
  have objects :
      ∀ (members : Members) (settings : List Setting) (text : String),
        Declares members settings → (Datum.ofMembers members).WrittenAs text →
        ofText text = (standard.withAll settings).outcome :=
    fun _ _ _ declares written =>
      ofText_of_writtenAs written
        (ofDatum_ofMembers declares.distinct declares.sized declares.fields)
  refine ⟨objects, ?lists, ?repeated, ?long, ?large, ?largeItem⟩
  case lists =>
    intro config count text sized written
    have read := ofText_of_writtenAs written (ofDatum_list sized count)
    refine ⟨read, fun members settings other declares same also => ?_⟩
    rw [read, objects members settings other declares also,
      withAll_of_perm same declares.distinct]
  case repeated =>
    intro members text name written field repeated
    exact ofText_eq_malformed written (ofDatum_of_repeated field repeated)
  case long =>
    intro items text written long
    exact ofText_eq_malformed written (ofDatum_list_of_long long)
  case large =>
    intro members text name natural written size large given
    exact ofText_eq_malformed written (ofDatum_of_large size large given)
  case largeItem =>
    intro items text position natural written size large given
    exact ofText_eq_malformed written (ofDatum_list_of_large size large given)

/--
An object with its fields in another order, an escape in a name, blanks, and an
unknown member with a value that no field could have; a list of two fields, and
an object with the same; a field that is named twice; a list that is too long;
and the number after the largest size, in an object and in a list.
-/
theorem every_spelling_means_the_same_in_texts :
    ofText
        "\x7b\"x\":[1e3,\x7b\x7d] ,\n\"clear_memory\":true,\"\\u0065nforced\":false\x7d" =
        .ok { quota := none, enforced := false, bypass := none,
              clearing := true } ∧
      ofText " [5,false]" =
          .ok { quota := some 5, enforced := false, bypass := none,
                clearing := false } ∧
      ofText " [5,false]" =
          ofText "\x7b\"enforced\":false,\"quota_bytes\":5\x7d" ∧
      ofText "\x7b\"enforced\":true,\"enforced\":true\x7d" = .error .malformed ∧
      ofText "[null,true,null,true,0]" = .error .malformed ∧
      ofText "\x7b\"bypass_bytes\":18446744073709551616\x7d" =
          .error .malformed ∧
      ofText "[18446744073709551616]" = .error .malformed := by
  obtain ⟨objects, lists, repeated, long, large, largeItem⟩ :=
    every_spelling_means_the_same
  have plain : ∀ name : String,
      name.toList.all (decide <| Token.IsPlain ·) = true →
      Token.Written ('\x22' :: (name.toList ++ ['\x22'])) (.text (some name)) :=
    fun _ all => Token.written_text (Token.isPlain_of_all all)
  have quota := plain "quota_bytes" (by decide)
  have enforced := plain "enforced" (by decide)
  have bypass := plain "bypass_bytes" (by decide)
  have clearing := plain "clear_memory" (by decide)
  have thousand : Token.Written ['1', 'e', '3'] (.number none) :=
    .positive (.other (List.cons_ne_nil '1' []) (Token.isDigit_singleton rfl)
      (by decide)) .none (.power (.inl rfl) (.inl rfl)
        (List.cons_ne_nil '3' []) (Token.isDigit_singleton rfl))
  have escaped : Token.Written _ (.text (some "enforced")) :=
    .text (.unit (show Glyph.unit? '0' '0' '6' '5' = some 0x65 from rfl)
      (Glyph.written_plain
        (Token.isPlain_of_all (by decide : "nforced".toList.all _ = true))))
  have unknown : ∀ {chars : List Char} {tokens : List Token},
      Token.Row chars tokens →
      Token.Row _ (.openList :: .number none :: .comma :: .openObject ::
        .closeObject :: .closeList :: tokens) :=
    fun rest =>
      .token .openList (.token thousand (.token .comma (.token .openObject
        (.token .closeObject (.token .closeList rest)))))
  have five := Token.written_number 5
  have above := Token.written_number 18446744073709551616
  have list :
      (Datum.list [.number (some 5), .boolean false]).WrittenAs " [5,false]" :=
    Datum.writtenAs_of_row (.blank (c := ' ') rfl (.token .openList
      (.token five (.token .comma (.token .no (.token .closeList .nil))))))
      (by decide)
  have config := lists
    { quota := some 5, enforced := false, bypass := none, clearing := false }
    2 _ (by simp [Sized, Size.limit]) list
  refine ⟨?object, config.1, ?same, ?repeated, ?long, ?large, ?largeItem⟩
  case object =>
    exact objects [("x", .list [.number none, .object []]),
      ("clear_memory", .boolean true), ("enforced", .boolean false)]
      [.clearing true, .enforced false] _
      ⟨by decide, by simp [Setting.Sized], rfl⟩ (Datum.writtenAs_of_row (.token
        .openObject (.token (plain "x" (by decide)) (.token .colon (unknown
          (.blank (c := ' ') rfl (.token .comma (.blank (c := '\x0a') rfl
            (.token clearing (.token .colon
              (.token .yes (.token .comma (.token escaped (.token .colon
                (.token .no (.token .closeObject .nil)))))))))))))))
        (by decide))
  case same =>
    exact config.2 [("enforced", .boolean false),
      ("quota_bytes", .number (some 5))] [.enforced false, .quota (some 5)] _
      ⟨by decide, by simp [Setting.Sized, Size.limit], rfl⟩ (.swap _ _ _)
      (Datum.writtenAs_of_row (.token .openObject
        (.token enforced (.token .colon (.token .no (.token .comma (.token quota
          (.token .colon (.token five (.token .closeObject .nil)))))))))
        (by decide))
  case repeated =>
    exact repeated [("enforced", .boolean true), ("enforced", .boolean true)]
      _ "enforced" (Datum.writtenAs_of_row (.token .openObject (.token enforced
        (.token .colon (.token .yes (.token .comma (.token enforced
          (.token .colon (.token .yes (.token .closeObject .nil)))))))))
        (by decide)) rfl (by decide)
  case long =>
    exact long [.null, .boolean true, .null, .boolean true, .number (some 0)] _
      (Datum.writtenAs_of_row (.token .openList (.token .null
        (.token .comma (.token .yes (.token .comma (.token .null (.token .comma
          (.token .yes (.token .comma (.token (Token.written_number 0)
            (.token .closeList .nil))))))))))) (by decide)) (by decide)
  case large =>
    exact large [("bypass_bytes", .number (some 18446744073709551616))] _
      "bypass_bytes" _
      (Datum.writtenAs_of_row (.token .openObject (.token bypass
        (.token .colon (.token above (.token .closeObject .nil))))) (by decide))
      (by decide) (by decide) List.mem_cons_self
  case largeItem =>
    exact largeItem [.number (some 18446744073709551616)] _ 0 _
      (Datum.writtenAs_of_row
        (.token .openList (.token above (.token .closeList .nil))) (by decide))
      (by decide) (by decide) rfl

end Config

end BufferBudget
