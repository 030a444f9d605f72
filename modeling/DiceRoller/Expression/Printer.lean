import DiceRoller.Expression.Basic

/-!
The canonical spelling of an expression. A pool of one die omits its count,
every term after the first stands behind its sign, and the mode comes last.
-/

namespace DiceRoller

def Selector.text (selector : Selector) : String :=
  selector.kind.code ++ toString selector.size

def Pool.text (pool : Pool) : String :=
  (if pool.count = 1 then "" else toString pool.count) ++ "d" ++ toString pool.sides ++
    (match pool.selector with
      | some selector => selector.text
      | none => "")

namespace Term

def leading : Term → String
  | .pool dice => dice.text
  | .modifier value => (if value < 0 then "-" else "") ++ toString value.natAbs

def following : Term → String
  | .pool dice => "+ " ++ dice.text
  | .modifier value => (if value < 0 then "- " else "+ ") ++ toString value.natAbs

/-- One piece of text per term, the first one without a plus. -/
def chunks : List Term → List String
  | [] => []
  | first :: rest => first.leading :: rest.map following

end Term

def Expression.text (expression : Expression) : String :=
  " ".intercalate (Term.chunks expression.terms ++ expression.mode.toList.map Mode.short)

end DiceRoller
