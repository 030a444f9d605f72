/-!
How many digits a number may have when it is converted from a text or into one.
A longer number can be computed with, but it can be neither read nor shown.
-/

namespace DiceRoller.Numeral

/-- Leading zeros count as digits, a sign does not. -/
def mostDigits : Nat := 4300

/-- The smallest number with too many digits. -/
@[irreducible]
def tooLarge : Nat := Nat.pow 10 mostDigits

def isWritable (value : Int) : Bool :=
  value.natAbs < tooLarge

abbrev Writable := { value : Int // isWritable value = true }

def unwritable : String :=
  s!"Exceeds the limit ({mostDigits} digits) for integer string conversion; " ++
    "use sys.set_int_max_str_digits() to increase the limit"

def unreadable (digits : Nat) : String :=
  s!"Exceeds the limit ({mostDigits} digits) for integer string conversion: " ++
    s!"value has {digits} digits; use sys.set_int_max_str_digits() to increase the limit"

end DiceRoller.Numeral
