import DiceRoller.Expression.Printer
import DiceRoller.Text.Numeral

/-!
The record of one rolled term, and its line for a reader. A record is only read
back here, never checked: its places need not match its rolls, and its numbers
need not add up.
-/

namespace DiceRoller

inductive Detail where
  | modifier (value : Int)
  | d20 (mode : Mode) (base first second final : Int)
  | dice (pool : Pool) (rolls : List Int) (used : List Int) (subtotal : Int)
  deriving DecidableEq, Repr

namespace Detail

def subtotal : Detail → Int
  | modifier value => value
  | d20 _ _ _ _ final => final
  | dice _ _ _ subtotal => subtotal

/-- The dice of a record in draw order; the base of a d20 comes before its pair. -/
def recorded : Detail → List Int
  | modifier _ => []
  | d20 _ base first second _ => [base, first, second]
  | dice _ rolls _ _ => rolls

/-- The places of the dice that did not count. -/
def dropped (rolls used : List Int) : List Nat :=
  (List.range rolls.length).filter fun place => !used.contains place

def pairText (mode : Mode) (first second : Int) : String :=
  s!"{mode.short}({first}, {second})"

/-- A die that did not count stands in parentheses. -/
def rollText (used : List Int) (value : Int) (place : Nat) : String :=
  if used.contains place then toString value else s!"({value})"

def rollsText (rolls used : List Int) : String :=
  ", ".intercalate (rolls.zipIdx.map fun roll => rollText used roll.1 roll.2)

def explanation : Detail → String
  | modifier value => (if value < 0 then "" else "+") ++ toString value
  | d20 mode base first second final =>
      s!"d20({mode.short}): base {base}, rolls [{first}, {second}] -> keep {final}"
  | dice pool rolls used subtotal =>
      s!"{pool.text}: rolls [{rollsText rolls used}] => {subtotal}"

/-- The dice of a record and what was made of them, as a reader is shown them. -/
def shown : Detail → List Int
  | modifier value => [value]
  | d20 _ base first second final => [base, first, second, final]
  | dice _ rolls _ subtotal => subtotal :: rolls

def isWritable (detail : Detail) : Bool :=
  detail.shown.all Numeral.isWritable

/-- The total of a whole roll. -/
def total (details : List Detail) : Int :=
  details.foldr (fun detail sum => detail.subtotal + sum) 0

/-- The line of a whole roll: its records, and then its total. -/
def report (details : List Detail) : String :=
  "; ".intercalate (details.map explanation) ++ s!" => {total details}"

end Detail

end DiceRoller
