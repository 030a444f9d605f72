import DiceRoller.Random.Twister

/-!
Uniform draws. A draw below a number takes as many random bits as that number
has, again and again until they are below it. The wait has no bound of its own;
`patience` stands for one that no generator in use comes near.
-/

namespace DiceRoller

inductive DrawFault where
  | noSides (sides : Int)
  | undecided
  deriving DecidableEq, Repr

def DrawFault.message : DrawFault → String
  | noSides sides => s!"empty range for randrange() (1, {sides + 1}, {sides})"
  | undecided => "no value left"

namespace Twister.Generator

def patience : Nat := 0x4000000000000000

/-- A number of `count` random bits. Whole words are filled from the least
significant one up; the last one gives its top bits. -/
def bits (count : Nat) (generator : Generator) : Nat × Generator :=
  let (word, next) := generator.next
  if count ≤ 32 then (word.toNat >>> (32 - count), next)
  else
    let (high, last) := bits (count - 32) next
    (word.toNat + 0x100000000 * high, last)
termination_by count

def below (bound : Nat) : (attempts : Nat) → Generator → Option Nat × Generator
  | 0, generator => (none, generator)
  | attempts + 1, generator =>
      let (value, next) := generator.bits (bound.log2 + 1)
      if value < bound then (some value, next) else below bound attempts next

/-- A die with at least one side. -/
def roll (sides : Nat) (generator : Generator) : Option Nat × Generator :=
  let (value, next) := below sides patience generator
  (value.map (· + 1), next)

/-- A die of any size that is asked for; a size below one draws nothing. -/
def rollSize (sides : Int) (generator : Generator) : Except DrawFault Nat × Generator :=
  if sides < 1 then (.error (.noSides sides), generator)
  else match generator.roll sides.toNat with
    | (some value, next) => (.ok value, next)
    | (none, next) => (.error .undecided, next)

def rollSizes : List Int → Generator → List (Except DrawFault Nat)
  | [], _ => []
  | sides :: rest, generator =>
      let (answer, next) := generator.rollSize sides
      answer :: rollSizes rest next

end Twister.Generator

end DiceRoller
