/-!
Sets of characters given as ranges of code points, both ends included. The
tables of character properties are written in this form, in ascending order.
-/

namespace DiceRoller.Text

abbrev Ranges := List (Nat × Nat)

def Ranges.has (ranges : Ranges) (c : Char) : Bool :=
  ranges.any fun range => range.1 ≤ c.toNat && c.toNat ≤ range.2

end DiceRoller.Text
