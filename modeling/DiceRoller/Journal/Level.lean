/-!
Levels of a journal. A logger knows them by name, two of them by a second name,
and it also knows the name of having no level.
-/

namespace DiceRoller

inductive Level where
  | debug
  | info
  | warning
  | error
  | critical
  deriving DecidableEq, Repr

namespace Level

def name : Level → String
  | debug => "DEBUG"
  | info => "INFO"
  | warning => "WARNING"
  | error => "ERROR"
  | critical => "CRITICAL"

def rank : Level → Int
  | debug => 10
  | info => 20
  | warning => 30
  | error => 40
  | critical => 50

def all : List Level :=
  [debug, info, warning, error, critical]

def ofName? (text : String) : Option Level :=
  all.find? fun level => level.name == text

@[simp] theorem of_name_name (level : Level) : ofName? level.name = some level := by
  cases level <;> rfl

/-- The rank that a logger takes for a name. -/
def rankOfName? (text : String) : Option Int :=
  if text = "WARN" then some warning.rank
  else if text = "FATAL" then some critical.rank
  else if text = "NOTSET" then some 0
  else (ofName? text).map rank

end Level

end DiceRoller
