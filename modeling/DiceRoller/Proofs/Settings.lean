import DiceRoller.Proofs.Text.Digits
import DiceRoller.Settings.Basic

/-!
Settings are read field by field. What a field holds is decided by its own variable alone, the
faults are those of the fields that are wrong, and what was read can be written down in an
environment and read again.
-/

namespace DiceRoller

theorem Level.of_name_eq_some_iff (text : String) (level : Level) :
    ofName? text = some level ↔ text = level.name := by
  constructor
  · intro found
    have named := List.find?_some found
    exact (beq_iff_eq.mp named).symm
  · rintro rfl
    exact of_name_name level

theorem Transport.of_name_eq_some_iff (text : String) (transport : Transport) :
    ofName? text = some transport ↔ text = transport.name := by
  constructor
  · intro found
    have named := List.find?_some found
    exact (beq_iff_eq.mp named).symm
  · rintro rfl
    exact of_name_name transport

namespace Settings

theorem numeral_decimal (number : Nat) (positive : 0 < number)
    (small : number < Numeral.tooLarge) :
    numeral (Nat.toDigits 10 number) = .ok (number : Int) := by
  obtain ⟨nonempty, all⟩ := Numeral.spelled_toDigits number
  have few := (Numeral.small_iff number).mp small
  have noZero : ((Nat.toDigits 10 number).head? == some '0') = false :=
    beq_eq_false_iff_ne.mpr (Numeral.toDigits_head number positive)
  have digits : (Nat.toDigits 10 number).takeWhile Char.isDigit = Nat.toDigits 10 number :=
    List.takeWhile_eq_self_iff.mpr all
  have unsigned : unsignedNumeral (Nat.toDigits 10 number) = .ok number := by
    simp [unsignedNumeral, digits, nonempty, noZero, Nat.not_lt.mpr few]
  unfold numeral
  split
  next rest given =>
    have minus := all '-' (by rw [given]; exact List.mem_cons_self)
    exact absurd minus (by decide)
  next => rw [unsigned]; rfl

theorem integer_decimal (number : Nat) (positive : 0 < number)
    (small : number < Numeral.tooLarge) :
    integer (toString number).toList = .ok (number : Int) := by
  rw [Nat.toString_eq_repr, Nat.toList_repr]
  unfold integer
  rw [numeral_decimal number positive small]

theorem unsigned_numeral_small (text : List Char) (value : Nat)
    (read : unsignedNumeral text = .ok value) : value < Numeral.tooLarge := by
  have all : ∀ c ∈ text.takeWhile Char.isDigit, c.isDigit = true := fun c member =>
    List.mem_takeWhile_imp member
  simp only [unsignedNumeral] at read
  split at read
  · cases read
  · split at read
    · cases read
    next few =>
      split at read
      · cases read
      · cases read
        exact Numeral.value_small _ all (Nat.not_lt.mp few)

theorem signed_numeral_small (text : List Char) (sign : Nat → Int)
    (keeps : ∀ size, (sign size).natAbs = size) (value : Int)
    (read : (unsignedNumeral text).map sign = .ok value) : value.natAbs < Numeral.tooLarge := by
  cases unsigned : unsignedNumeral text with
  | error problem => rw [unsigned] at read; cases read
  | ok size =>
      rw [unsigned] at read
      cases read
      rw [keeps]
      exact unsigned_numeral_small text size unsigned

theorem numeral_small (text : List Char) (value : Int) (read : numeral text = .ok value) :
    value.natAbs < Numeral.tooLarge := by
  unfold numeral at read
  split at read
  next rest => exact signed_numeral_small rest (fun size => -Int.ofNat size) (by simp) value read
  next => exact signed_numeral_small text Int.ofNat (by simp) value read

theorem integer_small (text : List Char) (value : Int) (read : integer text = .ok value) :
    value.natAbs < Numeral.tooLarge := by
  unfold integer at read
  split at read
  · split at read
    next tidy =>
      obtain ⟨body, -, again⟩ := Option.map_eq_some_iff.mp tidy
      cases read
      exact numeral_small body value again
    · cases read
  · exact numeral_small text value read

end Settings

namespace Field

abbrev Value : Field → Type
  | level => Level
  | transport => Transport
  | diceCount | dieSides | terms => Bound

def Reads (text : String) : (field : Field) → field.Value → Prop
  | level, value => Text.upper text.toList = value.name.toList
  | transport, value => text = value.name
  | diceCount, value | dieSides, value | terms, value =>
      Settings.integer text.toList = .ok (value.val : Int)

def Valid (field : Field) (text : String) : Prop :=
  ∃ value, field.Reads text value

def spelled : (field : Field) → field.Value → String
  | level, value => value.name
  | transport, value => value.name
  | diceCount, value | dieSides, value | terms, value => toString value.val

/-- A value that is not too long to be written down. -/
def Small : (field : Field) → field.Value → Prop
  | level, _ | transport, _ => True
  | diceCount, value | dieSides, value | terms, value => value.val < Numeral.tooLarge

def check : (field : Field) → Option Given → Except Problem field.Value
  | level => Settings.levelOf
  | transport => Settings.transportOf
  | diceCount => Settings.boundOf Settings.standard.diceCount
  | dieSides => Settings.boundOf Settings.standard.dieSides
  | terms => Settings.boundOf Settings.standard.terms

end Field

def Settings.value (settings : Settings) : (field : Field) → field.Value
  | .level => settings.level
  | .transport => settings.transport
  | .diceCount => settings.diceCount
  | .dieSides => settings.dieSides
  | .terms => settings.terms

namespace Field

theorem variable_name_all : all.map variableName =
    ["MCP_DICE_LOG_LEVEL", "MCP_DICE_TRANSPORT", "MCP_DICE_MAX_DICE_COUNT",
      "MCP_DICE_MAX_DIE_SIDES", "MCP_DICE_MAX_TERMS"] := by
  decide +kernel

theorem mem_all (field : Field) : field ∈ all := by
  cases field <;> decide

theorem check_absent (field : Field) : field.check none = .ok (Settings.standard.value field) := by
  cases field <;> rfl

theorem bound_ok_iff (default value : Bound) (text : String) :
    Settings.boundOf default (some (.text text)) = .ok value ↔
      Settings.integer text.toList = .ok (value.val : Int) := by
  have bound : Settings.boundOf default (some (.text text)) =
      (Settings.integer text.toList).bind fun number =>
        if positive : 0 < number then .ok ⟨number.toNat, by omega⟩ else .error .belowOne := rfl
  rw [bound]
  cases Settings.integer text.toList with
  | error problem => simp [Except.bind]
  | ok number =>
      obtain ⟨size, positive⟩ := value
      simp only [Except.bind, Except.ok.injEq]
      split
      next above =>
        rw [Except.ok.injEq, Subtype.mk.injEq]
        omega
      next below =>
        simp only [reduceCtorEq, false_iff]
        omega

theorem check_text_iff (field : Field) (text : String) (value : field.Value) :
    field.check (some (.text text)) = .ok value ↔ field.Reads text value := by
  cases field with
  | level =>
      show Settings.levelOf (some (.text text)) = .ok value ↔
        Text.upper text.toList = value.name.toList
      have named := Level.of_name_eq_some_iff (String.ofList (Text.upper text.toList)) value
      rw [← String.toList_inj, String.toList_ofList] at named
      rw [← named]
      simp only [Settings.levelOf]
      cases Level.ofName? (String.ofList (Text.upper text.toList)) <;> simp
  | transport =>
      show Settings.transportOf (some (.text text)) = .ok value ↔ text = value.name
      rw [← Transport.of_name_eq_some_iff]
      simp only [Settings.transportOf]
      cases Transport.ofName? text <;> simp
  | diceCount => exact bound_ok_iff Settings.standard.diceCount value text
  | dieSides => exact bound_ok_iff Settings.standard.dieSides value text
  | terms => exact bound_ok_iff Settings.standard.terms value text

instance (field : Field) (text : String) : Decidable (field.Valid text) :=
  match checked : field.check (some (.text text)) with
  | .ok value => isTrue ⟨value, (field.check_text_iff text value).mp checked⟩
  | .error _ => isFalse fun ⟨value, reads⟩ => by
      rw [(field.check_text_iff text value).mpr reads] at checked
      cases checked

/-- The variable of a field is set, but not to a text that stands for anything. -/
def Invalid (environment : Environment) (field : Field) : Prop :=
  ∃ text ∈ environment.lookup field.variableName, ¬ field.Valid text

instance (environment : Environment) (field : Field) : Decidable (field.Invalid environment) :=
  inferInstanceAs (Decidable (∃ text ∈ environment.lookup field.variableName, ¬ field.Valid text))

/-- A field holds what its own variable says, and what is standard where the variable is not set. -/
def Takes (environment : Environment) (field : Field) (value : field.Value) : Prop :=
  match environment.lookup field.variableName with
  | some text => field.Reads text value
  | none => value = Settings.standard.value field

theorem check_ok_iff (environment : Environment) (field : Field) (value : field.Value) :
    field.check ((environment.lookup field.variableName).map Given.text) = .ok value ↔
      field.Takes environment value := by
  unfold Takes
  cases environment.lookup field.variableName with
  | none =>
      show field.check none = .ok value ↔ _
      rw [check_absent, Except.ok.injEq, eq_comm]
  | some text => exact field.check_text_iff text value

theorem check_error_iff (environment : Environment) (field : Field) :
    (∃ problem, field.check ((environment.lookup field.variableName).map Given.text) =
      .error problem) ↔ field.Invalid environment := by
  unfold Invalid
  cases environment.lookup field.variableName with
  | none => simp [check_absent]
  | some text =>
      simp only [Option.map_some, Option.mem_some_iff, exists_eq_left', Valid, not_exists]
      constructor
      · rintro ⟨problem, refused⟩ value reads
        rw [(field.check_text_iff text value).mpr reads] at refused
        cases refused
      · intro unread
        cases checked : field.check (some (.text text)) with
        | error problem => exact ⟨problem, rfl⟩
        | ok value => exact absurd ((field.check_text_iff text value).mp checked) (unread value)

theorem small_standard (field : Field) : field.Small (Settings.standard.value field) := by
  cases field with
  | level | transport => trivial
  | diceCount | dieSides | terms => exact (Numeral.small_iff _).mpr (by decide)

theorem small_of_reads (field : Field) (text : String) (value : field.Value)
    (reads : field.Reads text value) : field.Small value := by
  cases field with
  | level | transport => trivial
  | diceCount | dieSides | terms => exact Settings.integer_small text.toList _ reads

theorem small_of_takes (environment : Environment) (field : Field) (value : field.Value)
    (takes : field.Takes environment value) : field.Small value := by
  unfold Takes at takes
  split at takes
  next text _ => exact field.small_of_reads text value takes
  next => exact takes ▸ field.small_standard

theorem reads_spelled (field : Field) (value : field.Value) (small : field.Small value) :
    field.Reads (field.spelled value) value := by
  cases field with
  | level =>
      show Text.upper (Level.name value).toList = (Level.name value).toList
      cases (show Level from value) <;> decide
  | transport => rfl
  | diceCount | dieSides | terms => exact Settings.integer_decimal value.val value.property small

end Field

namespace Settings

theorem of_given_ok_iff (given : Field → Option Given) (settings : Settings) :
    ofGiven given = .ok settings ↔
      ∀ field : Field, field.check (given field) = .ok (settings.value field) := by
  constructor
  · intro read field
    unfold ofGiven at read
    split at read
    next level transport diceCount dieSides terms =>
      cases read
      cases field <;> assumption
    next => cases read
  · intro checked
    have level : levelOf (given .level) = .ok settings.level := checked .level
    have transport : transportOf (given .transport) = .ok settings.transport := checked .transport
    have diceCount : boundOf standard.diceCount (given .diceCount) = .ok settings.diceCount :=
      checked .diceCount
    have dieSides : boundOf standard.dieSides (given .dieSides) = .ok settings.dieSides :=
      checked .dieSides
    have terms : boundOf standard.terms (given .terms) = .ok settings.terms := checked .terms
    simp only [ofGiven, level, transport, diceCount, dieSides, terms]

/-- The faults are those of the fields, in the order of the fields. -/
theorem of_given_error (given : Field → Option Given) (found : List FieldFault)
    (refused : ofGiven given = .error found) :
    found = Field.all.flatMap fun field => faults field (field.check (given field)) := by
  unfold ofGiven at refused
  split at refused
  · cases refused
  · cases refused
    simp [Field.all, Field.check]

theorem of_environment_ok_iff (environment : Environment) (settings : Settings) :
    ofEnvironment environment = .ok settings ↔
      ∀ field : Field, field.Takes environment (settings.value field) := by
  rw [ofEnvironment, of_given_ok_iff]
  exact forall_congr' fun field => field.check_ok_iff environment (settings.value field)

theorem exists_value (holds : (field : Field) → field.Value → Prop)
    (each : ∀ field, ∃ value, holds field value) :
    ∃ settings : Settings, ∀ field, holds field (settings.value field) := by
  obtain ⟨level, levelHolds⟩ := each .level
  obtain ⟨transport, transportHolds⟩ := each .transport
  obtain ⟨diceCount, diceCountHolds⟩ := each .diceCount
  obtain ⟨dieSides, dieSidesHolds⟩ := each .dieSides
  obtain ⟨terms, termsHolds⟩ := each .terms
  refine ⟨⟨level, transport, diceCount, dieSides, terms⟩, fun field => ?_⟩
  cases field <;> assumption

theorem faults_names (environment : Environment) (field : Field) :
    (faults field (field.check
      ((environment.lookup field.variableName).map Given.text))).map FieldFault.field =
      if field.Invalid environment then [field.name] else [] := by
  have invalid := field.check_error_iff environment
  cases checked : field.check ((environment.lookup field.variableName).map Given.text) with
  | ok value =>
      rw [if_neg fun wrong => ?_]
      · rfl
      · obtain ⟨problem, refused⟩ := invalid.mpr wrong
        rw [checked] at refused
        cases refused
  | error problem =>
      rw [if_pos (invalid.mp ⟨problem, checked⟩)]
      rfl

theorem of_environment_local (environment other : Environment)
    (same : ∀ field : Field,
      other.lookup field.variableName = environment.lookup field.variableName) :
    ofEnvironment other = ofEnvironment environment :=
  congrArg ofGiven (funext fun field => congrArg (Option.map Given.text) (same field))

theorem of_environment_valid (environment : Environment) :
    (∃ settings, ofEnvironment environment = .ok settings) ↔
      ∀ field : Field, ∀ text ∈ environment.lookup field.variableName, field.Valid text := by
  constructor
  · rintro ⟨settings, read⟩ field text given
    have takes := (of_environment_ok_iff environment settings).mp read field
    rw [Field.Takes, given] at takes
    exact ⟨settings.value field, takes⟩
  · intro valid
    have each : ∀ field : Field, ∃ value, field.Takes environment value := by
      intro field
      unfold Field.Takes
      cases given : environment.lookup field.variableName with
      | none => exact ⟨standard.value field, rfl⟩
      | some text => exact valid field text given
    obtain ⟨settings, takes⟩ := exists_value _ each
    exact ⟨settings, (of_environment_ok_iff environment settings).mpr takes⟩

theorem of_environment_faults (environment : Environment) (found : List FieldFault)
    (refused : ofEnvironment environment = .error found) :
    found.map FieldFault.field =
      (Field.all.filter fun field => field.Invalid environment).map Field.name := by
  rw [of_given_error _ found refused, List.map_flatMap]
  simp only [faults_names]
  induction Field.all with
  | nil => rfl
  | cons field rest ih =>
      rw [List.flatMap_cons, ih]
      by_cases wrong : field.Invalid environment <;> simp [wrong]

theorem of_environment_spelled (environment : Environment) (settings : Settings)
    (read : ofEnvironment environment = .ok settings) (spelling : Environment)
    (spells : ∀ field : Field, spelling.lookup field.variableName =
      some (field.spelled (settings.value field))) :
    ofEnvironment spelling = .ok settings := by
  apply (of_environment_ok_iff spelling settings).mpr
  intro field
  have takes := (of_environment_ok_iff environment settings).mp read field
  rw [Field.Takes, spells field]
  exact field.reads_spelled _ (field.small_of_takes environment _ takes)

theorem level_named (level : Level) :
    level.name ∈ ["DEBUG", "INFO", "WARNING", "ERROR", "CRITICAL"] := by
  cases level <;> decide

/-- Settings are read from five variables, each on its own. They are read just when every variable
that is set holds something valid, and each field is then what its variable says, or else standard;
otherwise the faults name the fields that are not valid, in their order. Settings that were read are
written down in any environment that spells their fields. -/
theorem of_environment_by_field (environment : Environment) :
    (∀ other : Environment,
      (∀ name ∈ ["MCP_DICE_LOG_LEVEL", "MCP_DICE_TRANSPORT", "MCP_DICE_MAX_DICE_COUNT",
        "MCP_DICE_MAX_DIE_SIDES", "MCP_DICE_MAX_TERMS"],
        other.lookup name = environment.lookup name) →
      ofEnvironment other = ofEnvironment environment) ∧
    ((∃ settings, ofEnvironment environment = .ok settings) ↔
      ∀ field : Field, ∀ text ∈ environment.lookup field.variableName, field.Valid text) ∧
    (∀ found, ofEnvironment environment = .error found →
      found.map FieldFault.field =
        (Field.all.filter fun field => field.Invalid environment).map Field.name) ∧
    ∀ settings, ofEnvironment environment = .ok settings →
      (∀ field : Field, field.Takes environment (settings.value field)) ∧
      settings.level.name ∈ ["DEBUG", "INFO", "WARNING", "ERROR", "CRITICAL"] ∧
      (∀ bound ∈ [settings.diceCount, settings.dieSides, settings.terms],
        1 ≤ bound.val ∧ (toString bound.val).length ≤ Numeral.mostDigits) ∧
      ∀ spelling : Environment,
        (∀ field : Field, spelling.lookup field.variableName =
          some (field.spelled (settings.value field))) →
        ofEnvironment spelling = .ok settings := by
  refine ⟨fun other same => of_environment_local environment other fun field => ?_,
    of_environment_valid environment, of_environment_faults environment, fun settings read => ?_⟩
  · rw [← Field.variable_name_all] at same
    exact same _ (List.mem_map_of_mem field.mem_all)
  · have takes := (of_environment_ok_iff environment settings).mp read
    refine ⟨takes, level_named settings.level, ?_, of_environment_spelled environment settings read⟩
    have written : ∀ bound : Bound, bound.val < Numeral.tooLarge →
        1 ≤ bound.val ∧ (toString bound.val).length ≤ Numeral.mostDigits := by
      intro bound small
      refine ⟨bound.property, ?_⟩
      rw [← String.length_toList, Nat.toString_eq_repr, Nat.toList_repr]
      exact (Numeral.small_iff bound.val).mp small
    have small := fun field : Field => field.small_of_takes environment _ (takes field)
    simp only [List.forall_mem_cons, List.not_mem_nil, false_imp_iff, implies_true, and_true]
    exact ⟨written _ (small .diceCount), written _ (small .dieSides), written _ (small .terms)⟩

/-- A level in another case, a bound with a sign, zeros and blanks, a variable that is not read. -/
theorem of_environment_by_field_odd :
    ∃ settings : Settings,
      ofEnvironment [("PATH", "/"), ("MCP_DICE_MAX_TERMS", " +0_7.0\n"),
        ("MCP_DICE_LOG_LEVEL", "cr\u0131tical")] = .ok settings ∧
      settings.terms.val = 7 ∧
      ofEnvironment [("MCP_DICE_MAX_TERMS", "7"), ("MCP_DICE_LOG_LEVEL", "CRITICAL"),
        ("MCP_DICE_MAX_DIE_SIDES", "10000"), ("MCP_DICE_MAX_DICE_COUNT", "1000"),
        ("MCP_DICE_TRANSPORT", "stdio")] = .ok settings := by
  have read : ofEnvironment [("PATH", "/"), ("MCP_DICE_MAX_TERMS", " +0_7.0\n"),
      ("MCP_DICE_LOG_LEVEL", "cr\u0131tical")] =
      .ok ⟨.critical, .stdio, ⟨1000, by decide⟩, ⟨10000, by decide⟩, ⟨7, by decide⟩⟩ := by
    decide +kernel
  obtain ⟨-, -, -, again⟩ := of_environment_by_field _
  obtain ⟨-, -, -, spelled⟩ := again _ read
  refine ⟨_, read, rfl, spelled _ fun field => ?_⟩
  cases field <;> decide +kernel

end Settings

end DiceRoller
