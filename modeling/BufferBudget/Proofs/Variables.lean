import Mathlib.Data.List.DropRight
import Mathlib.Data.List.Forall2
import BufferBudget.Config.Environment
import BufferBudget.Proofs.RoundTrip

/-!
# What the variables of an environment say

Each field of a configuration has a variable to itself.  A variable says a size
by a numeral and a flag by one of its words, in capital or small letters, with
any blanks around them: these are the texts `SizeText` and `FlagText`.  A
variable that is not set, that is not text, or whose text is none of these says
nothing, and its field keeps the standard value.

There are many ways to say the same.  A number has zeros and a plus sign in
front of it or not, a flag has four words in any mixture of letters, and any
blanks may stand at both ends.  `Config.Renders` holds of every environment that
says a configuration in one of these ways, and all of them are read as the
configuration.

Neither numerals nor words have blanks in them.  So a text is trimmed to one of
them just where it is one of them with blanks around it, and nothing has to be
said about how trimming proceeds.
-/

namespace BufferBudget

namespace Blank

/-- A text is another one with blanks around it. -/
def Around (core chars : List Char) : Prop :=
  ∃ before after, (∀ c ∈ before, isBlank c = true) ∧
    (∀ c ∈ after, isBlank c = true) ∧
    chars = before ++ core ++ after

variable {core chars : List Char}

theorem trim_eq_rdropWhile (chars : List Char) :
    trim chars = (chars.dropWhile isBlank).rdropWhile isBlank :=
  rfl

/-- What is trimmed off are blanks. -/
theorem around_trim (chars : List Char) : Around (trim chars) chars := by
  refine ⟨chars.takeWhile isBlank, (chars.dropWhile isBlank).rtakeWhile isBlank,
    fun c member => List.mem_takeWhile_imp member,
    fun c member => List.mem_rtakeWhile_imp member, ?_⟩
  rw [trim_eq_rdropWhile, List.append_assoc, List.rdropWhile_append_rtakeWhile,
    List.takeWhile_append_dropWhile]

/-- Blanks around a text without blanks are trimmed off. -/
theorem trim_of_around
    (shown : ∀ c ∈ core, isBlank c = false)
    (around : Around core chars) :
    trim chars = core := by
  obtain ⟨before, after, leading, trailing, rfl⟩ := around
  rw [trim_eq_rdropWhile, List.append_assoc,
    List.dropWhile_append_of_pos leading]
  cases core with
  | nil =>
      -- With nothing between them, the blanks behind go with those in front.
      rw [List.nil_append, List.dropWhile_eq_nil_iff.mpr trailing,
        List.rdropWhile_nil]
  | cons c rest =>
      have first : isBlank c = false := shown c List.mem_cons_self
      have reversed : ∀ c ∈ after.reverse, isBlank c = true :=
        fun c member => trailing c (List.mem_reverse.mp member)
      have last : (c :: rest).rdropWhile isBlank = c :: rest := by
        apply List.rdropWhile_eq_self_iff.mpr
        intro nonempty
        simp [shown _ (List.getLast_mem nonempty)]
      rw [List.cons_append, List.dropWhile_cons_of_neg (by simp [first]),
        ← List.cons_append, List.rdropWhile, List.reverse_append,
        List.dropWhile_append_of_pos reversed]
      exact last

/-- The characters of code that are written are no blanks. -/
theorem isBlank_of_shown
    {c : Char}
    (above : 0x20 < c.toNat)
    (below : c.toNat < 0x7f) :
    isBlank c = false := by
  simp only [isBlank, ranges, List.any_cons, List.any_nil, Bool.or_false,
    Bool.or_eq_false_iff, Bool.and_eq_false_iff, decide_eq_false_iff_not]
  omega

end Blank

namespace Numeral

/-- The numerals of a size: an optional plus sign, and at least one digit. -/
inductive Literal : List Char → Nat → Prop where
  | digits
      {sign digits : List Char}
      (signs : sign = [] ∨ sign = ['+'])
      (nonempty : digits ≠ [])
      (all : ∀ c ∈ digits, c.isDigit = true)
      (within : value digits ≤ Size.limit) :
      Literal (sign ++ digits) (value digits)

variable {chars digits : List Char} {number : Nat}

theorem natural_eq_some_iff :
    natural? digits = some number ↔
      digits ≠ [] ∧ (∀ c ∈ digits, c.isDigit = true) ∧
        value digits = number := by
  simp [natural?, and_assoc]

theorem size_plus (digits : List Char) :
    size? ('+' :: digits) = (natural? digits).filter (· ≤ Size.limit) :=
  rfl

/-- Without a plus sign in front, the digits begin with the first character. -/
theorem size_of_head_ne_plus (unsigned : chars.head? ≠ some '+') :
    size? chars = (natural? chars).filter (· ≤ Size.limit) := by
  unfold size?
  split
  · exact absurd rfl unsigned
  · rfl

theorem head_ne_plus_of_digits (all : ∀ c ∈ digits, c.isDigit = true) :
    digits.head? ≠ some '+' := by
  intro plus
  have digit := all '+' (List.mem_of_head? plus)
  exact absurd digit (by decide)

theorem filter_natural_eq_some_iff :
    (natural? digits).filter (· ≤ Size.limit) = some number ↔
      digits ≠ [] ∧ (∀ c ∈ digits, c.isDigit = true) ∧ value digits = number ∧
        number ≤ Size.limit := by
  rw [Option.filter_eq_some_iff, natural_eq_some_iff, decide_eq_true_eq,
    and_assoc, and_assoc]

/-- The numerals of a size are what a size is read from. -/
theorem size_eq_some_iff :
    size? chars = some number ↔ Literal chars number := by
  constructor
  · intro read
    by_cases plus : chars.head? = some '+'
    · obtain ⟨digits, rfl⟩ := List.head?_eq_some_iff.mp plus
      rw [size_plus] at read
      obtain ⟨nonempty, all, rfl, within⟩ := filter_natural_eq_some_iff.mp read
      exact .digits (.inr rfl) nonempty all within
    · rw [size_of_head_ne_plus plus] at read
      obtain ⟨nonempty, all, rfl, within⟩ := filter_natural_eq_some_iff.mp read
      exact .digits (.inl rfl) nonempty all within
  · rintro ⟨rfl | rfl, nonempty, all, within⟩
    · rw [List.nil_append, size_of_head_ne_plus (head_ne_plus_of_digits all)]
      exact filter_natural_eq_some_iff.mpr ⟨nonempty, all, rfl, within⟩
    · rw [List.singleton_append, size_plus]
      exact filter_natural_eq_some_iff.mpr ⟨nonempty, all, rfl, within⟩

theorem value_zeros_append (zeros : Nat) (digits : List Char) :
    value (List.replicate zeros '0' ++ digits) = value digits := by
  rw [value, Nat.ofDigitChars_append,
    Nat.ofDigitChars_replicate_zero, Nat.mul_zero]
  rfl

/--
A size is written with any number of zeros and a plus sign in
front of it or not.
-/
theorem literal_write
    {sign : List Char}
    (signs : sign = [] ∨ sign = ['+'])
    (zeros : Nat)
    (within : number ≤ Size.limit) :
    Literal (sign ++ (List.replicate zeros '0' ++ write number)) number := by
  have nonempty : List.replicate zeros '0' ++ write number ≠ [] :=
    List.append_ne_nil_of_right_ne_nil _ (write_ne_nil number)
  have all : ∀ c ∈ List.replicate zeros '0' ++ write number,
      c.isDigit = true := by
    intro c member
    rcases List.mem_append.mp member with zero | digit
    · exact List.eq_of_mem_replicate zero ▸ rfl
    · exact isDigit_of_mem_write digit
  have same : value (List.replicate zeros '0' ++ write number) = number := by
    rw [value_zeros_append, value_write]
  have literal := Literal.digits signs nonempty all (same.symm ▸ within)
  rwa [same] at literal

/-- There are no blanks in a numeral. -/
theorem Literal.shown (literal : Literal chars number) :
    ∀ c ∈ chars, Blank.isBlank c = false := by
  cases literal with
  | digits signs nonempty all within =>
      intro c member
      rcases List.mem_append.mp member with sign | digit
      · rcases signs with rfl | rfl
        · cases sign
        · exact List.mem_singleton.mp sign ▸ rfl
      · obtain ⟨above, below⟩ := Char.isDigit_iff_toNat.mp (all c digit)
        apply Blank.isBlank_of_shown
        · exact Nat.lt_of_lt_of_le (by decide) above
        · exact Nat.lt_of_le_of_lt below (by decide)

end Numeral

namespace Flag

/-- The words that stand for a flag. -/
def words : Bool → List String
  | true => ["1", "true", "yes", "on"]
  | false => ["0", "false", "no", "off"]

/-- A word, each letter of it capital or small. -/
def Cased (word chars : List Char) : Prop :=
  List.Forall₂ (fun letter c => c = letter ∨ c = letter.toUpper) word chars

variable
    {c letter : Char}
    {chars core : List Char}
    {word : String}
    {value : Bool}

/--
What holds of some consecutive codes holds of the characters that have them.
-/
theorem of_codes
    (property : Char → Prop)
    (first count : Nat)
    (all : ∀ index < count, property (Char.ofNat (first + index)))
    (above : first ≤ c.toNat)
    (below : c.toNat < first + count) :
    property c := by
  have holds := all (c.toNat - first) (by omega)
  rwa [Nat.add_sub_cancel' above, Char.ofNat_toNat] at holds

theorem toUpper_toLower_of_capital
    (capital : 'A'.val ≤ c.val ∧ c.val ≤ 'Z'.val) :
    c.toLower.toUpper = c :=
  of_codes (fun c => c.toLower.toUpper = c) 65 26 (by decide) capital.1
    (Nat.lt_succ_of_le capital.2)

theorem toLower_toUpper_of_small (small : 'a'.val ≤ c.val ∧ c.val ≤ 'z'.val) :
    c.toUpper.toLower = c :=
  of_codes (fun c => c.toUpper.toLower = c) 97 26 (by decide) small.1
    (Nat.lt_succ_of_le small.2)

/-- A character becomes a small letter if it is the letter or its capital. -/
theorem toLower_eq_iff (small : letter.toLower = letter) :
    c.toLower = letter ↔ c = letter ∨ c = letter.toUpper := by
  constructor
  · rintro rfl
    by_cases capital : 'A'.val ≤ c.val ∧ c.val ≤ 'Z'.val
    · exact .inr (toUpper_toLower_of_capital capital).symm
    · have same : c.toLower = c := dif_neg capital
      exact .inl same.symm
  · rintro (rfl | rfl)
    · exact small
    · by_cases among : 'a'.val ≤ letter.val ∧ letter.val ≤ 'z'.val
      · exact toLower_toUpper_of_small among
      · have same : letter.toUpper = letter := dif_neg among
        rw [same, small]

theorem map_toLower_eq_iff
    {letters : List Char}
    (small : ∀ letter ∈ letters, letter.toLower = letter) :
    chars.map Char.toLower = letters ↔ Cased letters chars := by
  induction letters generalizing chars with
  | nil => simp [Cased]
  | cons letter rest ih =>
      have first := small letter List.mem_cons_self
      have others :=
        fun other member => small other (List.mem_cons_of_mem letter member)
      cases chars with
      | nil => simp [Cased]
      | cons c chars =>
          rw [List.map_cons, List.cons.injEq, toLower_eq_iff first, ih others,
            Cased, Cased, List.forall₂_cons]

/--
The letters of the words are small, and neither they nor their
capitals are blanks.
-/
theorem letters_of_words (listed : word ∈ words value) :
    ∀ letter ∈ word.toList, letter.toLower = letter ∧
      Blank.isBlank letter = false ∧
      Blank.isBlank letter.toUpper = false := by
  have all : ∀ value, (words value).all (fun word => word.toList.all
      fun letter => letter.toLower = letter ∧ Blank.isBlank letter = false ∧
        Blank.isBlank letter.toUpper = false) = true := by decide
  intro letter member
  exact of_decide_eq_true (List.all_eq_true.mp
    (List.all_eq_true.mp (all value) word listed) letter member)

/--
There are no blanks in a word if there are none in its letters and
their capitals.
-/
theorem Cased.shown
    {letters : List Char}
    (cased : Cased letters core)
    (shown : ∀ letter ∈ letters, Blank.isBlank letter = false ∧
      Blank.isBlank letter.toUpper = false) :
    ∀ c ∈ core, Blank.isBlank c = false := by
  induction cased with
  | nil => exact fun c member => nomatch member
  | @cons letter c letters core alike rest ih =>
      have first := shown letter List.mem_cons_self
      have others := ih fun other member =>
        shown other (List.mem_cons_of_mem letter member)
      rw [List.forall_mem_cons]
      rcases alike with rfl | rfl
      · exact ⟨first.1, others⟩
      · exact ⟨first.2, others⟩

end Flag

namespace Environment

variable
    {environment other : Environment}
    {name : String}
    {chars : List Char}
    {value : Bool}

theorem flagOf_eq_some_iff_mem :
    flagOf? chars = some value ↔
      String.ofList ((Blank.trim chars).map Char.toLower) ∈
        Flag.words value := by
  have apart : ∀ word ∈ Flag.words true, word ∉ Flag.words false := by decide
  show (if _ ∈ Flag.words true then some true
    else if _ ∈ Flag.words false then some false else none) = some value ↔ _
  split_ifs with yes no
  · have other := apart _ yes
    cases value <;> simp [yes, other]
  · cases value <;> simp [yes, no]
  · cases value <;> simp [yes, no]

/-- The texts that say a size: numerals with blanks around them. -/
inductive SizeText : String → Option Nat → Prop where
  | numeral
      {text : String}
      {core : List Char}
      {number : Nat}
      (literal : Numeral.Literal core number)
      (around : Blank.Around core text.toList) :
      SizeText text (some number)

/--
The texts that say a flag: its words in any letters, with blanks around them.
-/
inductive FlagText : String → Bool → Prop where
  | word
      {text word : String}
      {core : List Char}
      {value : Bool}
      (listed : word ∈ Flag.words value)
      (cased : Flag.Cased word.toList core)
      (around : Blank.Around core text.toList) :
      FlagText text value

theorem sizeOf_eq_some_iff {text : String} {number : Nat} :
    sizeOf? text.toList = some number ↔ SizeText text (some number) := by
  constructor
  · intro read
    exact .numeral (Numeral.size_eq_some_iff.mp read)
      (Blank.around_trim text.toList)
  · rintro ⟨literal, around⟩
    have trimmed := Blank.trim_of_around literal.shown around
    rw [sizeOf?, trimmed]
    exact Numeral.size_eq_some_iff.mpr literal

theorem flagOf_eq_some_iff {text : String} :
    flagOf? text.toList = some value ↔ FlagText text value := by
  rw [flagOf_eq_some_iff_mem]
  constructor
  · intro listed
    have small := fun letter member =>
      (Flag.letters_of_words listed letter member).1
    have cased := (Flag.map_toLower_eq_iff small).mp String.toList_ofList.symm
    exact .word listed cased (Blank.around_trim text.toList)
  · rintro ⟨listed, cased, around⟩
    have letters := Flag.letters_of_words listed
    have trimmed := Blank.trim_of_around
      (cased.shown fun letter member => (letters letter member).2) around
    have small := fun letter member => (letters letter member).1
    rw [trimmed, (Flag.map_toLower_eq_iff small).mpr cased,
      String.ofList_toList]
    exact listed

theorem fromUTF8_eq_some_iff {bytes : ByteArray} {text : String} :
    String.fromUTF8? bytes = some text ↔ bytes = text.toUTF8 := by
  unfold String.fromUTF8?
  constructor
  · intro read
    split at read
    · cases read
      rfl
    · cases read
  · rintro rfl
    exact dif_pos text.isValidUTF8

/-- A variable is text if its bytes are those of a text. -/
theorem chars_eq_some_iff :
    environment.chars? name = some chars ↔
      ∃ text : String, environment name = some text.toUTF8 ∧
        text.toList = chars := by
  simp [chars?, Option.bind_eq_some_iff, fromUTF8_eq_some_iff]

theorem chars_congr (same : environment name = other name) :
    environment.chars? name = other.chars? name := by
  rw [chars?, chars?, same]

/-- What is read from the text of a variable. -/
theorem bind_chars_eq_some_iff
    {α : Type}
    {read? : List Char → Option α}
    {value : α} :
    (environment.chars? name).bind read? = some value ↔
      ∃ text : String, environment name = some text.toUTF8 ∧
        read? text.toList = some value := by
  rw [Option.bind_eq_some_iff]
  constructor
  · rintro ⟨chars, found, read⟩
    obtain ⟨text, set, rfl⟩ := chars_eq_some_iff.mp found
    exact ⟨text, set, read⟩
  · rintro ⟨text, set, read⟩
    exact ⟨text.toList, chars_eq_some_iff.mpr ⟨text, set, rfl⟩, read⟩

/--
A variable says a size in one of the ways to write it, or is not set where
there is none.
-/
def RendersSize (environment : Environment) (name : String) : Option Nat → Prop
  | none => environment name = none
  | some number => ∃ (text : String) (sign : List Char) (zeros : Nat),
      environment name = some text.toUTF8 ∧ (sign = [] ∨ sign = ['+']) ∧
        Blank.Around (sign ++
          (List.replicate zeros '0' ++ Numeral.write number)) text.toList

/-- A variable says a flag in one of the ways to write it. -/
def RendersFlag (environment : Environment) (name : String) (value : Bool) :
    Prop :=
  ∃ text : String, environment name = some text.toUTF8 ∧ FlagText text value

end Environment

namespace Config

open Environment

/--
A field is decided by a variable: it depends on no other one, has the value that
the text of the variable says, and is standard where the variable is no text
that says a value.
-/
structure DecidedBy
    {α : Type}
    (field : Config → α)
    (name : String)
    (Means : String → α → Prop) : Prop where
  own : ∀ environment other : Environment, environment name = other name →
    field (ofEnvironment environment) = field (ofEnvironment other)
  said : ∀ (environment : Environment) (text : String) (value : α),
    environment name = some text.toUTF8 → Means text value →
      field (ofEnvironment environment) = value
  unsaid : ∀ environment : Environment, (∀ (text : String) (value : α),
      environment name = some text.toUTF8 → ¬Means text value) →
      field (ofEnvironment environment) = field standard

theorem decidedBy_of_read
    {α : Type}
    {field : Config → α}
    {name : String}
    {Means : String → α → Prop}
    (read? : List Char → Option α)
    (read : ∀ environment : Environment, field (ofEnvironment environment) =
      ((environment.chars? name).bind read?).getD (field standard))
    (meaning : ∀ text value, read? text.toList = some value ↔
      Means text value) :
    DecidedBy field name Means where
  own environment other same := by
    rw [read, read, chars_congr same]
  said environment text value set said := by
    have found :=
      bind_chars_eq_some_iff.mpr ⟨text, set, (meaning text value).mpr said⟩
    rw [read, found, Option.getD_some]
  unsaid environment silent := by
    have missed : (environment.chars? name).bind read? = none := by
      apply Option.eq_none_iff_forall_ne_some.mpr
      intro value found
      obtain ⟨text, set, also⟩ := bind_chars_eq_some_iff.mp found
      exact silent text value set ((meaning text value).mp also)
    rw [read, missed, Option.getD_none]

/--
An environment says a configuration: each field is written in its variable in
one of the ways to write it, and a size that is missing is not set.
-/
structure Renders (environment : Environment) (config : Config) : Prop where
  quota : environment.RendersSize quotaVariable config.quota
  enforced : environment.RendersFlag enforcedVariable config.enforced
  bypass : environment.RendersSize bypassVariable config.bypass
  clearing : environment.RendersFlag clearingVariable config.clearing

section Fields

variable {name : String}

theorem decidedBy_of_size
    {field : Config → Option Nat}
    (missing : field standard = none)
    (read : ∀ environment : Environment,
      field (ofEnvironment environment) = environment.size? name) :
    DecidedBy field name SizeText := by
  apply decidedBy_of_read fun chars => (sizeOf? chars).map some
  · intro environment
    rw [read, missing, Environment.size?]
    cases environment.chars? name with
    | none => rfl
    | some chars => cases found : sizeOf? chars <;> simp [found]
  · intro text value
    rw [Option.map_eq_some_iff]
    constructor
    · rintro ⟨number, found, rfl⟩
      exact sizeOf_eq_some_iff.mp found
    · rintro ⟨literal, around⟩
      exact ⟨_, sizeOf_eq_some_iff.mpr (.numeral literal around), rfl⟩

theorem decidedBy_of_flag
    {field : Config → Bool}
    (read : ∀ environment : Environment, field (ofEnvironment environment) =
      (environment.flag? name).getD (field standard)) :
    DecidedBy field name FlagText :=
  decidedBy_of_read flagOf? read fun _ _ => flagOf_eq_some_iff

/-- A size is read as it is written. -/
theorem DecidedBy.of_rendersSize
    {field : Config → Option Nat}
    (decided : DecidedBy field name SizeText)
    (missing : field standard = none)
    {environment : Environment}
    {value : Option Nat}
    (sized : ∀ number ∈ value, number ≤ Size.limit)
    (renders : environment.RendersSize name value) :
    field (ofEnvironment environment) = value := by
  cases value with
  | none =>
      have silent : ∀ (text : String) (value : Option Nat),
          environment name = some text.toUTF8 →
          ¬SizeText text value := by
        intro text value set
        cases renders.symm.trans set
      rw [decided.unsaid environment silent, missing]
  | some number =>
      obtain ⟨text, sign, zeros, set, signs, around⟩ := renders
      have literal := Numeral.literal_write signs zeros (sized number rfl)
      exact decided.said environment text
        (some number) set (.numeral literal around)

/-- A flag is read as it is written. -/
theorem DecidedBy.of_rendersFlag
    {field : Config → Bool}
    (decided : DecidedBy field name FlagText)
    {environment : Environment}
    {value : Bool}
    (renders : environment.RendersFlag name value) :
    field (ofEnvironment environment) = value := by
  obtain ⟨text, set, meant⟩ := renders
  exact decided.said environment text value set meant

end Fields

/--
The environment that says a configuration and nothing else, in the plainest way.
-/
def plainEnvironment (config : Config) : Environment := fun name =>
  if name = quotaVariable then config.quota.map fun number =>
    (toString number).toUTF8
  else if name = enforcedVariable then some (renderFlag config.enforced).toUTF8
  else if name = bypassVariable then config.bypass.map fun number =>
    (toString number).toUTF8
  else if name = clearingVariable then some (renderFlag config.clearing).toUTF8
  else none

theorem rendersSize_toString
    {environment : Environment}
    {name : String}
    {value : Option Nat}
    (set : environment name = value.map fun number =>
      (toString number).toUTF8) :
    environment.RendersSize name value := by
  cases value with
  | none => exact set
  | some number =>
      refine ⟨toString number, [], 0, set, .inl rfl, [], [], ?_⟩
      rw [Datum.toList_toString]
      simp

theorem rendersFlag_renderFlag
    {environment : Environment}
    {name : String}
    {value : Bool}
    (set : environment name = some (renderFlag value).toUTF8) :
    environment.RendersFlag name value := by
  have listed : renderFlag value ∈ Flag.words value := by
    cases value <;> decide
  have cased : Flag.Cased (renderFlag value).toList (renderFlag value).toList :=
    List.forall₂_same.mpr fun letter _ => .inl rfl
  refine ⟨renderFlag value, set, .word listed cased ⟨[], [], ?_⟩⟩
  simp

/-- Every configuration can be said. -/
theorem renders_plainEnvironment (config : Config) :
    Renders config.plainEnvironment config where
  quota := rendersSize_toString rfl
  enforced := rendersFlag_renderFlag rfl
  bypass := rendersSize_toString rfl
  clearing := rendersFlag_renderFlag rfl

theorem eq_of_fields
    {left right : Config}
    (quota : left.quota = right.quota)
    (enforced : left.enforced = right.enforced)
    (bypass : left.bypass = right.bypass)
    (clearing : left.clearing = right.clearing) :
    left = right := by
  rcases left with ⟨_, _, _, _⟩
  rcases right with ⟨_, _, _, _⟩
  simp only [Config.mk.injEq]
  exact ⟨quota, enforced, bypass, clearing⟩

/--
Each field of the configuration that an environment gives is decided by its
own variable: a size by a numeral up to the largest size, a flag by one of
its words in any letters, either with blanks around it.  Where the variable
is not set, is not text or is any other text, the field is standard.
Conversely each configuration is said by some environment, and is given by
every environment that says it.
-/
theorem each_variable_decides_its_field :
    DecidedBy Config.quota quotaVariable SizeText ∧
      DecidedBy Config.enforced enforcedVariable FlagText ∧
      DecidedBy Config.bypass bypassVariable SizeText ∧
      DecidedBy Config.clearing clearingVariable FlagText ∧
      ∀ config : Config, config.Sized →
        (∃ environment, Renders environment config) ∧
        ∀ environment, Renders environment config →
          ofEnvironment environment = config := by
  have quota : DecidedBy Config.quota quotaVariable SizeText :=
    decidedBy_of_size rfl fun _ => rfl
  have enforced : DecidedBy Config.enforced enforcedVariable FlagText :=
    decidedBy_of_flag fun _ => rfl
  have bypass : DecidedBy Config.bypass bypassVariable SizeText :=
    decidedBy_of_size rfl fun _ => rfl
  have clearing : DecidedBy Config.clearing clearingVariable FlagText :=
    decidedBy_of_flag fun _ => rfl
  refine ⟨quota, enforced, bypass, clearing, fun config sized => ?_⟩
  constructor
  · exact ⟨config.plainEnvironment, renders_plainEnvironment config⟩
  · intro environment renders
    apply eq_of_fields
    · exact quota.of_rendersSize rfl sized.1 renders.quota
    · exact enforced.of_rendersFlag renders.enforced
    · exact bypass.of_rendersSize rfl sized.2 renders.bypass
    · exact clearing.of_rendersFlag renders.clearing

/--
The largest size with blanks that are not of the first code page, a plus sign
and zeros, and flags in mixed letters; and the number after it, which leaves the
quota standard and the other fields as they are.
-/
theorem each_variable_decides_its_field_in_odd_spellings :
    let environment : Environment := fun name =>
      if name = quotaVariable then some "\u3000+0018446744073709551615\n".toUTF8
      else if name = enforcedVariable then some "\tfAlSe\u00a0".toUTF8
      else if name = clearingVariable then some " ON".toUTF8
      else none
    let above : Environment := fun name =>
      if name = quotaVariable then some "18446744073709551616".toUTF8
        else environment name
    ofEnvironment environment =
        { quota := some Size.limit, enforced := false, bypass := none,
          clearing := true } ∧
      (ofEnvironment above).quota = none ∧
        (ofEnvironment above).clearing = true := by
  intro environment above
  obtain ⟨quota, -, -, clearing, configs⟩ := each_variable_decides_its_field
  let config : Config :=
    { quota := some Size.limit, enforced := false, bypass := none,
      clearing := true }
  have no : "false" ∈ Flag.words false := by decide
  have yes : "on" ∈ Flag.words true := by decide
  have mixed : Flag.Cased "false".toList ['f', 'A', 'l', 'S', 'e'] :=
    (Flag.map_toLower_eq_iff fun letter member =>
      (Flag.letters_of_words no letter member).1).mp (by decide)
  have capital : Flag.Cased "on".toList ['O', 'N'] :=
    (Flag.map_toLower_eq_iff fun letter member =>
      (Flag.letters_of_words yes letter member).1).mp (by decide)
  have blanks : ∀ chars : List Char, chars.all Blank.isBlank = true →
      ∀ c ∈ chars, Blank.isBlank c = true := fun _ => List.all_eq_true.mp
  have renders : Renders environment config :=
    { quota := ⟨_, ['+'], 2, rfl, .inr rfl, ['\u3000'], ['\n'], blanks _ rfl,
        blanks _ rfl, by decide⟩
      enforced := ⟨_, rfl, .word no mixed
        ⟨['\t'], ['\u00a0'], blanks _ rfl, blanks _ rfl, by decide⟩⟩
      bypass := rfl
      clearing := ⟨_, rfl,
        .word yes capital ⟨[' '], [], blanks _ rfl, blanks _ rfl, by decide⟩⟩ }
  have given : ofEnvironment environment = config :=
    (configs config (by simp [config, Sized])).2 environment renders
  refine ⟨given, ?_, ?_⟩
  · apply quota.unsaid above
    rintro text value set ⟨literal, around⟩
    have same : "18446744073709551616" = text :=
      String.toByteArray_inj.mp (Option.some.inj set)
    have read := sizeOf_eq_some_iff.mpr (.numeral literal around)
    have missed : sizeOf? "18446744073709551616".toList = none := by decide
    rw [← same, missed] at read
    cases read
  · rw [clearing.own above environment rfl, given]

end Config

end BufferBudget
