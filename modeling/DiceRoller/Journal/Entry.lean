import DiceRoller.Expression.ReadError
import DiceRoller.Journal.Level
import DiceRoller.Journal.Shown

/-!
Entries of the journal: what was read, each record as it is made, and how the
request ended. Each kind of entry has its own level and channel.
-/

namespace DiceRoller

inductive Entry where
  | parsed (text : String) (expression : Expression)
  | resolved (detail : Detail)
  | rolled (text : String) (total : Int)
  | rejected (text : String) (error : ReadError)
  deriving DecidableEq, Repr

namespace Entry

def level : Entry → Level
  | parsed .. | resolved _ => .debug
  | rolled .. => .info
  | rejected .. => .warning

def channel : Entry → String
  | parsed .. => "mcp_dice.parser"
  | resolved _ => "mcp_dice.resolver"
  | rolled .. | rejected .. => "mcp_dice.dice"

def message : Entry → String
  | parsed text expression =>
      let advantage := Shown.flag (expression.mode == some .advantage)
      let disadvantage := Shown.flag (expression.mode == some .disadvantage)
      s!"parsed {Text.quoted text} into {expression.terms.length} term(s), " ++
        s!"advantage={advantage}, disadvantage={disadvantage}"
  | resolved detail => s!"resolved {Shown.detail detail}"
  | rolled text total => s!"rolled {Text.quoted text} => {total}"
  | rejected text error => s!"rejected {Text.quoted text}: {error.message}"

def isWritable : Entry → Bool
  | parsed .. | rejected .. => true
  | resolved detail => detail.isWritable
  | rolled _ total => Numeral.isWritable total

def line (entry : Entry) : String :=
  s!"[{entry.level.name}] [{entry.channel}] - {entry.message}"

end Entry

end DiceRoller
