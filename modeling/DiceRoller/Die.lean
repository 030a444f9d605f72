import DiceRoller.Expression.Basic

/-!
Dice on the table and which of them count. The dice are ranked from the highest
value down, equal values in draw order, and every selector takes a piece off
one end of the ranking. Only keeping the highest reports its dice as ranked;
everything else is reported in draw order. A selector larger than the pool
takes all of it.
-/

namespace DiceRoller

/-- A value with its place in the order of the draws. -/
structure Die where
  value : Int
  place : Nat
  deriving DecidableEq, Repr

namespace Die

def ofRolls (rolls : List Int) : List Die :=
  rolls.zipIdx.map fun roll => ⟨roll.1, roll.2⟩

-- The sort is stable, so equal values stay in draw order.
def ranked (rolls : List Int) : List Die :=
  (ofRolls rolls).mergeSort fun first second => second.value ≤ first.value

def inDrawOrder (dice : List Die) : List Die :=
  dice.mergeSort fun first second => first.place ≤ second.place

end Die

/-- The dice that a selector lets count. -/
def Selector.chosen (selector : Selector) (rolls : List Int) : List Die :=
  let ranked := Die.ranked rolls
  match selector.kind with
  | .keepHigh => ranked.take selector.size
  | .keepLow => Die.inDrawOrder (ranked.drop (rolls.length - selector.size))
  | .dropHigh => Die.inDrawOrder (ranked.drop selector.size)
  | .dropLow => Die.inDrawOrder (ranked.take (rolls.length - selector.size))

namespace Pool

/-- The dice that count toward the subtotal. The pool's own count is of no matter. -/
def chosen (pool : Pool) (rolls : List Int) : List Die :=
  match pool.selector with
  | some selector => selector.chosen rolls
  | none => Die.ofRolls rolls

def places (pool : Pool) (rolls : List Int) : List Nat :=
  (pool.chosen rolls).map Die.place

def subtotal (pool : Pool) (rolls : List Int) : Int :=
  (pool.chosen rolls).foldr (fun die sum => die.value + sum) 0

end Pool

end DiceRoller
