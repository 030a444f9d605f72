import DiceRoller.Expression.Basic

/-!
Items: the spelling of one run behind its sign, still as digits. An item is
digits alone, or `d` with digits behind it, perhaps digits before it, and
perhaps the letters of a selector and its digits at the end.
-/

namespace DiceRoller

structure SelectorSpelling where
  kind : SelectorKind
  size : List Char
  deriving DecidableEq, Repr

inductive Item where
  | flat (digits : List Char)
  | dice (count sides : List Char) (selector : Option SelectorSpelling)
  deriving DecidableEq, Repr

def SelectorSpelling.ofChars? : List Char → Option SelectorSpelling
  | first :: second :: size =>
      if !size.isEmpty && size.all Char.isDigit then
        (SelectorKind.ofLetters? [first, second]).map fun kind => ⟨kind, size⟩
      else none
  | _ => none

namespace Item

/-- Dice whose count is read already, from what follows the `d`. -/
def diceOfChars? (count rest : List Char) : Option Item :=
  let sides := rest.takeWhile Char.isDigit
  if sides.isEmpty then none
  else match rest.dropWhile Char.isDigit with
    | [] => some (dice count sides none)
    | tail => (SelectorSpelling.ofChars? tail).map fun selector => dice count sides (some selector)

def ofChars? (body : List Char) : Option Item :=
  let digits := body.takeWhile Char.isDigit
  match body.dropWhile Char.isDigit with
  | [] => if digits.isEmpty then none else some (flat digits)
  | 'd' :: rest => diceOfChars? digits rest
  | _ => none

end Item

end DiceRoller
