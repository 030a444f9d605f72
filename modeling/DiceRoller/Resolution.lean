import DiceRoller.Detail
import DiceRoller.Die
import DiceRoller.Source

/-!
Rolling an expression. Terms draw one after the other; when the source runs dry
the records made so far are kept, and the roll is not complete. Under a mode a
plain d20 draws a base, which is only recorded, and then a pair, of which the
better or the worse die counts.
-/

namespace DiceRoller

def Mode.pick : Mode → Int → Int → Int
  | advantage, first, second => max first second
  | disadvantage, first, second => min first second

def Mode.roll (mode : Mode) (source : Source) : Option Detail × Source :=
  match source.drawMany 3 20 with
  | (some [base, first, second], next) =>
      (some (.d20 mode base first second (mode.pick first second)), next)
  | (_, next) => (none, next)

def Pool.detail (pool : Pool) (rolls : List Int) : Detail :=
  .dice pool rolls ((pool.places rolls).map Int.ofNat) (pool.subtotal rolls)

def Pool.roll (pool : Pool) (source : Source) : Option Detail × Source :=
  match source.drawMany pool.count pool.sides with
  | (some rolls, next) => (some (pool.detail rolls), next)
  | (none, next) => (none, next)

/-- The mode under which a pool is rolled, if it changes the pool. -/
def Pool.edge? (pool : Pool) (mode : Option Mode) : Option Mode :=
  if pool.isPlainD20 then mode else none

def Term.roll (mode : Option Mode) (source : Source) : Term → Option Detail × Source
  | modifier value => (some (.modifier value), source)
  | pool dice =>
      match dice.edge? mode with
      | some edge => edge.roll source
      | none => dice.roll source

structure Resolution where
  details : List Detail
  complete : Bool
  source : Source

namespace Resolution

def total (resolution : Resolution) : Int :=
  Detail.total resolution.details

def isWritable (resolution : Resolution) : Bool :=
  resolution.details.all Detail.isWritable && Numeral.isWritable resolution.total

def ofTerms (mode : Option Mode) : List Term → Source → Resolution
  | [], source => ⟨[], true, source⟩
  | term :: rest, source =>
      match term.roll mode source with
      | (none, next) => ⟨[], false, next⟩
      | (some detail, next) =>
          let later := ofTerms mode rest next
          { later with details := detail :: later.details }

end Resolution

def Expression.resolve (expression : Expression) (source : Source) : Resolution :=
  Resolution.ofTerms expression.mode expression.terms source

end DiceRoller
