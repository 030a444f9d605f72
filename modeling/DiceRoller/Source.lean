import DiceRoller.Random.Draw
import DiceRoller.Random.Seed

/-!
Sources of dice. A script answers its values in order and then runs dry, a
cycle starts over at its end, a generator draws. Scripted values are answered
as they stand, whatever the size of the die. A source remembers every size it
was asked for, also the one that found it dry.
-/

namespace DiceRoller

inductive Feed where
  | script (left : List Int)
  | cycle (all left : List Int)
  | generator (state : Twister.Generator)

namespace Feed

-- A cycle without values has nothing to start over with.
def draw (sides : Nat) : Feed → Option Int × Feed
  | script [] => (none, script [])
  | script (value :: rest) => (some value, script rest)
  | cycle all (value :: rest) => (some value, cycle all rest)
  | cycle [] [] => (none, cycle [] [])
  | cycle (value :: rest) [] => (some value, cycle (value :: rest) rest)
  | generator state =>
      let (value, next) := state.roll sides
      (value.map Int.ofNat, generator next)

def isScripted : Feed → Bool
  | script _ | cycle _ _ => true
  | generator _ => false

end Feed

structure Source where
  label : String
  feed : Feed
  /-- The sizes asked for, the latest first. -/
  asked : List Nat

namespace Source

/-- What a scripted source is called when it is given no name. -/
def scriptedLabel : String := "ScriptedRoller"

def script (label : Option String) (values : List Int) : Source :=
  ⟨label.getD scriptedLabel, .script values, []⟩

def cycle (label : Option String) (values : List Int) : Source :=
  ⟨label.getD scriptedLabel, .cycle values values, []⟩

def seeded (seed : Seed) : Source :=
  ⟨"random.Random", .generator seed.generator, []⟩

/-- The source used when none is chosen; its entropy comes from the system. -/
def system (entropy : Nat) : Source :=
  ⟨"random.SystemRandom", .generator (Seed.number entropy).generator, []⟩

def isScripted (source : Source) : Bool :=
  source.feed.isScripted

/-- The sizes asked for, in order. -/
def sizes (source : Source) : List Nat :=
  source.asked.reverse

def drawn (source : Source) : Nat :=
  source.asked.length

def draw (sides : Nat) (source : Source) : Option Int × Source :=
  let (value, feed) := source.feed.draw sides
  (value, { source with feed := feed, asked := sides :: source.asked })

/-- `before` holds the values drawn so far, the latest first. -/
def drawOnto (sides : Nat) : (count : Nat) → (before : List Int) → Source →
    Option (List Int) × Source
  | 0, before, source => (some before.reverse, source)
  | count + 1, before, source =>
      match source.draw sides with
      | (some value, next) => drawOnto sides count (value :: before) next
      | (none, next) => (none, next)

/-- `count` dice of one size, in draw order, or nothing when the source runs dry. -/
def drawMany (count sides : Nat) (source : Source) : Option (List Int) × Source :=
  drawOnto sides count [] source

end Source

end DiceRoller
