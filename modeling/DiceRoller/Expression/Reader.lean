import DiceRoller.Expression.Item
import DiceRoller.Expression.Limits
import DiceRoller.Expression.Phrase
import DiceRoller.Expression.ReadError
import DiceRoller.Expression.Run

/-!
Reading a notation: its phrase is cut into runs, and the runs are read from
left to right until one is refused. The limits are checked on the way, so which
of two faults is reported depends only on where they stand.
-/

namespace DiceRoller

namespace Reader

def significant (digits : List Char) : List Char :=
  digits.dropWhile fun c => c == '0'

/-- No digits at all are read as zero. -/
def number (run : String) (digits : List Char) : Except ReadError Nat :=
  if ReadError.mostSignificantDigits < (significant digits).length then .error (.longNumber run)
  else if Numeral.mostDigits < digits.length then .error (.unreadableNumber digits.length)
  else .ok (Nat.ofDigitChars 10 digits 0)

def withinLimit (measure : Measure) (value : Nat) (limit : Option Int) (run : String) :
    Except ReadError Unit :=
  match Limits.exceeded? limit value with
  | some bound => .error (.beyond bound fun limit => .aboveLimit measure value limit run)
  | none => .ok ()

/-- A selector of size zero is no selector. -/
def selector (run : String) : Option SelectorSpelling → Except ReadError (Option Selector)
  | none => .ok none
  | some spelling => do
      let size ← number run spelling.size
      if positive : 0 < size then return some ⟨spelling.kind, size, positive⟩
      else return none

/-- A count of zero, like an absent one, rolls a single die. -/
def pool (limits : Limits) (run : String) (count sides : List Char)
    (spelling : Option SelectorSpelling) : Except ReadError Pool := do
  let given ← number run count
  let faces ← number run sides
  if positive : 0 < faces then
    withinLimit .diceCount (max given 1) limits.diceCount run
    withinLimit .dieSides faces limits.dieSides run
    let chosen ← selector run spelling
    return ⟨max given 1, faces, chosen, by omega, positive⟩
  else
    throw (.noSides run)

def item (limits : Limits) (run : String) (negative : Bool) : Item → Except ReadError Term
  | .flat digits => do
      let value ← number run digits
      return .modifier (if negative then -(value : Int) else value)
  | .dice count sides spelling => do
      if negative then throw (.subtractedPool run)
      return .pool (← pool limits run count sides spelling)

def run (limits : Limits) (chars : List Char) : Except ReadError Term :=
  match Item.ofChars? chars.tail with
  | some spelling => item limits (String.ofList chars) (chars.head? == some '-') spelling
  | none => .error (.malformed (String.ofList chars))

def terms (limits : Limits) (joined : List Char) : Except ReadError (List Term) :=
  if joined.isEmpty then .error .noTerms
  else
    let runs := Run.split joined
    match Limits.exceeded? limits.terms runs.length with
    | some bound => .error (.beyond bound (.tooManyTerms runs.length))
    | none => runs.mapM (run limits)

def phrase (limits : Limits) (spoken : Phrase) : Except ReadError Expression := do
  if spoken.conflicting then throw .conflictingModes
  let found ← terms limits spoken.joined
  return ⟨found, spoken.modes.head?⟩

end Reader

def Expression.read (limits : Limits) (text : String) : Except ReadError Expression :=
  if text.toList.all Text.isBlank then .error .blank
  else Reader.phrase limits (Phrase.ofText text.toList)

end DiceRoller
