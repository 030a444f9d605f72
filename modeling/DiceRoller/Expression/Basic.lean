/-!
Dice expressions: a list of terms, each a pool of equal dice or a flat
modifier, read with or without an edge on the d20. A pool may carry a selector,
which says which of its dice count; a selector has a kind, written with two
letters, and a size that is never zero.
-/

namespace DiceRoller

inductive SelectorKind where
  | keepHigh
  | keepLow
  | dropHigh
  | dropLow
  deriving DecidableEq, Repr

namespace SelectorKind

def letters : SelectorKind → List Char
  | keepHigh => ['k', 'h']
  | keepLow => ['k', 'l']
  | dropHigh => ['d', 'h']
  | dropLow => ['d', 'l']

def ofLetters? : List Char → Option SelectorKind
  | ['k', 'h'] => some keepHigh
  | ['k', 'l'] => some keepLow
  | ['d', 'h'] => some dropHigh
  | ['d', 'l'] => some dropLow
  | _ => none

def code (kind : SelectorKind) : String :=
  String.ofList kind.letters

/-- A kind either keeps the dice it takes, or it drops them. -/
def keeps : SelectorKind → Bool
  | keepHigh | keepLow => true
  | dropHigh | dropLow => false

@[simp] theorem of_letters_letters (kind : SelectorKind) :
    ofLetters? kind.letters = some kind := by
  cases kind <;> rfl

end SelectorKind

structure Selector where
  kind : SelectorKind
  size : Nat
  size_pos : 0 < size := by omega
  deriving DecidableEq, Repr

/-- Dice of one size that are rolled together. -/
structure Pool where
  count : Nat
  sides : Nat
  selector : Option Selector
  count_pos : 0 < count := by omega
  sides_pos : 0 < sides := by omega
  deriving DecidableEq, Repr

namespace Pool

/-- A single d20 without a selector, the only pool that a mode changes. -/
def isPlainD20 (pool : Pool) : Bool :=
  pool.count == 1 && pool.sides == 20 && pool.selector.isNone

def keep? (pool : Pool) : Option Selector :=
  pool.selector.filter fun selector => selector.kind.keeps

def drop? (pool : Pool) : Option Selector :=
  pool.selector.filter fun selector => !selector.kind.keeps

end Pool

inductive Term where
  | pool (pool : Pool)
  | modifier (value : Int)
  deriving DecidableEq, Repr

inductive Mode where
  | advantage
  | disadvantage
  deriving DecidableEq, Repr

namespace Mode

def name : Mode → String
  | advantage => "advantage"
  | disadvantage => "disadvantage"

def short : Mode → String
  | advantage => "adv"
  | disadvantage => "dis"

end Mode

structure Expression where
  terms : List Term
  mode : Option Mode
  deriving DecidableEq, Repr

end DiceRoller
