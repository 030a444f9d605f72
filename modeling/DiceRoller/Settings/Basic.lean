import DiceRoller.Expression.Limits
import DiceRoller.Journal.Level
import DiceRoller.Settings.Environment
import DiceRoller.Settings.Fault
import DiceRoller.Settings.Integer
import DiceRoller.Text.Case

/-!
Settings of the server. Every field is checked on its own and all that is wrong
is reported, in the order of the fields; an absent field takes its default. An
environment gives a field through the variable that carries its name.
-/

namespace DiceRoller

inductive Transport where
  | stdio
  | events
  | stream
  deriving DecidableEq, Repr

namespace Transport

def name : Transport → String
  | stdio => "stdio"
  | events => "sse"
  | stream => "streamable-http"

def all : List Transport :=
  [stdio, events, stream]

def ofName? (text : String) : Option Transport :=
  all.find? fun transport => transport.name == text

@[simp] theorem of_name_name (transport : Transport) :
    ofName? transport.name = some transport := by
  cases transport <;> rfl

end Transport

/-- A limit of the server is never absent and at least one. -/
abbrev Bound := { value : Nat // 0 < value }

structure Settings where
  level : Level
  transport : Transport
  diceCount : Bound
  dieSides : Bound
  terms : Bound
  deriving DecidableEq, Repr

inductive Field where
  | level
  | transport
  | diceCount
  | dieSides
  | terms
  deriving DecidableEq, Repr

namespace Field

def name : Field → String
  | level => "log_level"
  | transport => "transport"
  | diceCount => "max_dice_count"
  | dieSides => "max_die_sides"
  | terms => "max_terms"

def all : List Field :=
  [level, transport, diceCount, dieSides, terms]

/-- The environment variable that carries a field. -/
def variableName (field : Field) : String :=
  "MCP_DICE_" ++ String.ofList (field.name.toList.map Char.toUpper)

end Field

namespace Settings

def standard : Settings :=
  ⟨.info, .stdio, ⟨1000, by decide⟩, ⟨10000, by decide⟩, ⟨50, by decide⟩⟩

def limits (settings : Settings) : Limits :=
  ⟨some settings.diceCount.val, some settings.dieSides.val, some settings.terms.val⟩

-- The name of a level may be written in any case.
def levelOf : Option Given → Except Problem Level
  | none => .ok standard.level
  | some (.text value) =>
      let name := String.ofList (Text.upper value.toList)
      match Level.ofName? name with
      | some level => .ok level
      | none => .error (.unknownLevel name)
  | some _ => .error .notText

def transportOf : Option Given → Except Problem Transport
  | none => .ok standard.transport
  | some (.text value) =>
      match Transport.ofName? value with
      | some transport => .ok transport
      | none => .error .unknownTransport
  | some _ => .error .unknownTransport

def integerOf : Given → Except Problem Int
  | .text value => integer value.toList
  | .number value => .ok value
  | .flag value => .ok (if value then 1 else 0)
  | .other => .error .notInteger

def boundOf (default : Bound) : Option Given → Except Problem Bound
  | none => .ok default
  | some given => do
      let number ← integerOf given
      if positive : 0 < number then return ⟨number.toNat, by omega⟩
      else throw .belowOne

def faults {Value : Type} (field : Field) : Except Problem Value → List FieldFault
  | .ok _ => []
  | .error problem => [⟨field.name, problem⟩]

def ofGiven (given : Field → Option Given) : Except (List FieldFault) Settings :=
  match levelOf (given .level), transportOf (given .transport),
      boundOf standard.diceCount (given .diceCount),
      boundOf standard.dieSides (given .dieSides),
      boundOf standard.terms (given .terms) with
  | .ok level, .ok transport, .ok diceCount, .ok dieSides, .ok terms =>
      .ok ⟨level, transport, diceCount, dieSides, terms⟩
  | level, transport, diceCount, dieSides, terms =>
      .error (faults .level level ++ faults .transport transport ++
        faults .diceCount diceCount ++ faults .dieSides dieSides ++ faults .terms terms)

def ofEnvironment (environment : Environment) : Except (List FieldFault) Settings :=
  ofGiven fun field => (environment.lookup field.variableName).map Given.text

end Settings

end DiceRoller
