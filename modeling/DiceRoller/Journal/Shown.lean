import DiceRoller.Detail
import DiceRoller.Text.Quoted

/-!
Records as they are shown in the journal: the name of a record and its fields in
round brackets, nested records in full.
-/

namespace DiceRoller.Shown

def flag (value : Bool) : String :=
  if value then "True" else "False"

/-- A single member keeps a comma behind it. -/
def tuple : List String → String
  | [] => "()"
  | [single] => s!"({single},)"
  | several => "(" ++ ", ".intercalate several ++ ")"

def roll (value : Int) : String :=
  s!"DieRoll(value={value})"

def selector : Option Selector → String
  | none => "None"
  | some given => s!"Selector(kind={Text.quoted given.kind.code}, n={given.size})"

def pool (dice : Pool) : String :=
  s!"DiceTerm(count={dice.count}, sides={dice.sides}, " ++
    s!"keep={selector dice.keep?}, drop={selector dice.drop?})"

def detail : Detail → String
  | .modifier value => s!"ModifierDetail(value={value})"
  | .d20 mode base first second final =>
      s!"AdvantageResult(mode={Text.quoted mode.name}, base={roll base}, " ++
        s!"pair={tuple [roll first, roll second]}, final={final})"
  | .dice dice rolls used subtotal =>
      s!"TermResult(term={pool dice}, rolls={tuple (rolls.map roll)}, " ++
        s!"used_indices={tuple (used.map toString)}, subtotal={subtotal})"

end DiceRoller.Shown
