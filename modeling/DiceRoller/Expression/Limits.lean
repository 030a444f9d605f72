/-!
Limits on what one expression may ask for. A limit that is absent allows
everything; one that is present may be any integer.
-/

namespace DiceRoller

structure Limits where
  diceCount : Option Int
  dieSides : Option Int
  terms : Option Int
  deriving DecidableEq, Repr

namespace Limits

def unlimited : Limits :=
  ⟨none, none, none⟩

/-- The limit itself, when the value is above it. -/
def exceeded? (limit : Option Int) (value : Nat) : Option Int :=
  limit.filter fun bound => bound < value

end Limits

end DiceRoller
