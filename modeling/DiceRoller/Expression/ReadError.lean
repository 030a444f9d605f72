import DiceRoller.Text.Numeral

/-!
Why a text is not an expression. Every reason has one message, and the reasons
that blame one run carry the text of it. A message opens with a stable code in
brackets, save for two: a numeral with too many digits to be converted, and a
limit with too many digits to be told, are no rejections of the notation and
carry no code.
-/

namespace DiceRoller

inductive Measure where
  | diceCount
  | dieSides
  deriving DecidableEq, Repr

inductive ReadError where
  | blank
  | conflictingModes
  | noTerms
  | tooManyTerms (found : Nat) (limit : Numeral.Writable)
  | malformed (run : String)
  | subtractedPool (run : String)
  | longNumber (run : String)
  | unreadableNumber (digits : Nat)
  | noSides (run : String)
  | aboveLimit (measure : Measure) (value : Nat) (limit : Numeral.Writable) (run : String)
  | unwritableLimit
  deriving DecidableEq, Repr

/-- The last kind is that of a number that is too long to be converted, from its text or into
one. -/
inductive Rejection where
  | malformedNotation
  | aboveLimit
  | unreadableNumber
  deriving DecidableEq, Repr

def Measure.name : Measure → String
  | diceCount => "Dice count"
  | dieSides => "Die size"

namespace ReadError

/-- Most digits of a number, its leading zeros not counted. -/
def mostSignificantDigits : Nat := 9

def rejection : ReadError → Rejection
  | blank | conflictingModes | noTerms | malformed _ | subtractedPool _ | noSides _ =>
      .malformedNotation
  | tooManyTerms .. | longNumber _ | aboveLimit .. => .aboveLimit
  | unreadableNumber _ | unwritableLimit => .unreadableNumber

/-- The run at fault, in lower case, without blanks and with its sign. -/
def fragment? : ReadError → Option String
  | blank | conflictingModes | noTerms | tooManyTerms .. | unreadableNumber _
  | unwritableLimit => none
  | malformed run | subtractedPool run | longNumber run | noSides run | aboveLimit _ _ _ run =>
      some run

def samples : String :=
  "Example: '1d20+5 adv', '4d6kh3' or '2d6+1d4+3'."

/-- The start of a run, as far as it is shown beside a long number. -/
def excerpt (run : String) : String :=
  String.ofList (run.toList.take 40)

def message : ReadError → String
  | blank => "[EMPTY_EXPRESSION] Empty input. " ++ samples
  | conflictingModes =>
      "[CONFLICTING_MODE] Found both advantage and disadvantage. Use only one. " ++
        "Example: '1d20+5 adv'."
  | noTerms => "[EMPTY_EXPRESSION] No dice or modifiers found. " ++ samples
  | tooManyTerms found limit =>
      s!"[LIMIT_EXCEEDED] {found} terms is above the limit of {limit.val}. " ++ samples
  | malformed run => s!"[INVALID_TERM] Could not understand '{run}'. " ++ samples
  | subtractedPool run =>
      s!"[NEGATIVE_DICE_POOL] Dice terms cannot be subtracted: '{run}'. " ++
        "Only modifiers may be negative, e.g. '1d20-1'."
  | longNumber run =>
      s!"[LIMIT_EXCEEDED] Numbers may have at most {mostSignificantDigits} digits in " ++
        s!"'{excerpt run}'. " ++ samples
  | unreadableNumber digits => Numeral.unreadable digits
  | noSides run => s!"[INVALID_TERM] Dice must have at least 1 side in '{run}'. " ++ samples
  | aboveLimit measure value limit run =>
      s!"[LIMIT_EXCEEDED] {measure.name} {value} in '{run}' is above the limit of {limit.val}. " ++
        samples
  | unwritableLimit => Numeral.unwritable

/-- The refusal for a limit tells it. Whoever goes beyond a limit that is too long to be told gets
no further than that. -/
def beyond (bound : Int) (tell : Numeral.Writable → ReadError) : ReadError :=
  if writable : Numeral.isWritable bound then tell ⟨bound, writable⟩ else .unwritableLimit

end ReadError

end DiceRoller
