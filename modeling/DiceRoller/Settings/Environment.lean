/-!
Environments: variables by name, each name at most once.
-/

namespace DiceRoller

abbrev Environment := List (String × String)

namespace Environment

def erase (name : String) (environment : Environment) : Environment :=
  environment.filter fun entry => entry.1 != name

def assign (name value : String) (environment : Environment) : Environment :=
  (name, value) :: environment.erase name

end Environment

end DiceRoller
