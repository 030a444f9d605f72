import DiceRoller.Expression.Basic
import DiceRoller.Text.Blank
import DiceRoller.Text.Case

/-!
Phrases: the words of a notation, the longest tail of mode words taken off. A
mode word that stands before any other word is no mode word.
-/

namespace DiceRoller

def Mode.words : Mode → List (List Char)
  | advantage => [['a', 'd', 'v'], ['a', 'd', 'v', 'a', 'n', 't', 'a', 'g', 'e']]
  | disadvantage =>
      [['d', 'i', 's'], ['d', 'i', 's', 'a', 'd', 'v', 'a', 'n', 't', 'a', 'g', 'e']]

def Mode.ofWord? (word : List Char) : Option Mode :=
  [advantage, disadvantage].find? fun mode => mode.words.contains word

structure Phrase where
  body : List (List Char)
  modes : List Mode
  deriving DecidableEq, Repr

namespace Phrase

def isModeWord (word : List Char) : Bool :=
  (Mode.ofWord? word).isSome

def ofWords (words : List (List Char)) : Phrase :=
  let backwards := words.reverse
  ⟨(backwards.dropWhile isModeWord).reverse,
    (backwards.takeWhile isModeWord).filterMap Mode.ofWord?⟩

/-- The case of letters is of no matter. -/
def ofText (text : List Char) : Phrase :=
  ofWords (Text.words (Text.lower text))

def joined (phrase : Phrase) : List Char :=
  phrase.body.flatten

def conflicting (phrase : Phrase) : Bool :=
  phrase.modes.contains .advantage && phrase.modes.contains .disadvantage

end Phrase

end DiceRoller
