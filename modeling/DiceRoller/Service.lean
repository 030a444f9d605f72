import DiceRoller.Expression.Reader
import DiceRoller.Journal.Entry
import DiceRoller.Resolution

/-!
One request: read a text under limits, roll it, and keep an audit record. A
request that cannot be read draws nothing. The journal holds every record that
was made, also those of a roll that ran dry halfway. A roll whose numbers are too
long to be explained has drawn its dice and fails all the same.
-/

namespace DiceRoller

structure Record where
  text : String
  expression : Expression
  /-- The name of the source that the dice came from. -/
  sourceLabel : String
  details : List Detail

namespace Record

def total (record : Record) : Int :=
  Detail.total record.details

def explanation (record : Record) : String :=
  Detail.report record.details

def summary (record : Record) : String :=
  s!"Expression: {record.text}\nTotal: {record.total}"

/-- All dice of the record, in draw order. -/
def recorded (record : Record) : List Int :=
  record.details.flatMap Detail.recorded

end Record

inductive RollFault where
  | unread (error : ReadError)
  | ranDry
  | unwritable
  deriving DecidableEq, Repr

def RollFault.message : RollFault → String
  | unread error => error.message
  | ranDry => "no value left"
  | unwritable => Numeral.unwritable

/-- What a request leaves: its outcome, its journal and the source after it. -/
structure Served where
  outcome : Except RollFault Record
  entries : List Entry
  source : Source

namespace Service

-- A numeral that could not be converted is a fault, but the notation was not rejected.
def refusal (text : String) (error : ReadError) : List Entry :=
  if error.rejection = .unreadableNumber then [] else [.rejected text error]

/-- What keeps a resolution from being explained. -/
def fault? (resolution : Resolution) : Option RollFault :=
  if !resolution.complete then some .ranDry
  else if resolution.isWritable then none
  else some .unwritable

def roll (text : String) (expression : Expression) (source : Source) : Served :=
  let resolution := expression.resolve source
  let begun := Entry.parsed text expression :: resolution.details.map Entry.resolved
  match fault? resolution with
  | some fault => ⟨.error fault, begun, resolution.source⟩
  | none => ⟨.ok ⟨text, expression, source.label, resolution.details⟩,
      begun ++ [Entry.rolled text resolution.total], resolution.source⟩

def serve (limits : Limits) (text : String) (source : Source) : Served :=
  match Expression.read limits text with
  | .error error => ⟨.error (.unread error), refusal text error, source⟩
  | .ok expression => roll text expression source

end Service

end DiceRoller
