import DiceRoller.Settings.Fault
import DiceRoller.Text.Blank
import DiceRoller.Text.Numeral

/-!
Whole numbers as they stand in a configuration. A plain numeral, digits without
a needless zero in front and perhaps a minus, is read at once. Any other text is
tidied first, from the outside in: white space and a sign, leading zeros, a
fraction of zeros, the underscores between digits. What is left has to be a
plain numeral. Only a text that opens as a plain numeral is called oversized.
-/

namespace DiceRoller.Settings

/-- Too many digits are noticed before what stands behind them. -/
def unsignedNumeral (text : List Char) : Except Problem Nat :=
  let digits := text.takeWhile Char.isDigit
  if digits.isEmpty || (digits.head? == some '0' && 1 < digits.length) then
    .error .unreadableInteger
  else if Numeral.mostDigits < digits.length then .error .oversizedInteger
  else if digits.length < text.length then .error .unreadableInteger
  else .ok (Nat.ofDigitChars 10 digits 0)

def numeral : List Char → Except Problem Int
  | '-' :: rest => (unsignedNumeral rest).map fun value => -Int.ofNat value
  | text => (unsignedNumeral text).map Int.ofNat

/-- What follows a leading zero; underscores among the zeros go with them. The
last of them stays where no other digit follows, and a minus behind them stands
as a sign. -/
def afterZeros? (last : Char) : List Char → Option (List Char)
  | [] => some [last]
  | c :: rest =>
      if c = '0' || c = '_' then afterZeros? c rest
      else if c.isDigit || c = '-' then some (c :: rest)
      else if c = '.' then some (last :: c :: rest)
      else none

def withoutZeros? : List Char → Option (List Char)
  | [] => none
  | c :: rest =>
      if c = '0' then afterZeros? c rest
      else if c.isDigit then some (c :: rest)
      else none

/-- Nothing, or a point and then one or more zeros. -/
def isZeroFraction : List Char → Bool
  | [] => true
  | _ :: zeros => !zeros.isEmpty && zeros.all fun c => c == '0'

def withoutFraction (text : List Char) : List Char :=
  if isZeroFraction (text.dropWhile fun c => c != '.') then text.takeWhile fun c => c != '.'
  else text

/-- An underscore has to stand alone, and between two other characters. -/
def ungrouped? (text : List Char) : Option (List Char) :=
  let groups := text.splitOnP fun c => c == '_'
  if groups.all fun group => !group.isEmpty then some groups.flatten else none

def tidiedBody? (body : List Char) : Option (List Char) :=
  (withoutZeros? body).bind fun rest => ungrouped? (withoutFraction rest)

def tidied? (text : List Char) : Option (List Char) :=
  match Text.trimmed text with
  | '+' :: body => tidiedBody? body
  | '-' :: body => (tidiedBody? body).map fun rest => '-' :: rest
  | body => tidiedBody? body

def integer (text : List Char) : Except Problem Int :=
  match numeral text with
  | .error .unreadableInteger =>
      match (tidied? text).map numeral with
      | some (.ok value) => .ok value
      | _ => .error .unreadableInteger
  | read => read

end DiceRoller.Settings
