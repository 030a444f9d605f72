import DiceRoller.Journal.Entry

/-!
Loggers. A logger hands the entries from its level up to its handlers, and every
handler writes them. While it has no level of its own, the level above it rules.
An entry with a number that is too long to be written leaves no line.
-/

namespace DiceRoller

structure Logger where
  /-- The rank from which entries are written; zero is no level. -/
  level : Int
  handlers : Nat
  deriving DecidableEq, Repr

namespace Logger

def quiet : Logger :=
  ⟨0, 0⟩

def inheritedLevel : Int :=
  Level.info.rank

def threshold (logger : Logger) : Int :=
  if logger.level = 0 then inheritedLevel else logger.level

/-- A handler is added once and then kept. -/
def setUp (level : Int) (logger : Logger) : Logger :=
  ⟨level, max logger.handlers 1⟩

def accepts (logger : Logger) (entry : Entry) : Bool :=
  logger.threshold ≤ entry.level.rank

/-- One line for each handler and each entry that it can write. -/
def lines (logger : Logger) (entries : List Entry) : List String :=
  (entries.filter fun entry => logger.accepts entry && entry.isWritable).flatMap fun entry =>
    List.replicate logger.handlers entry.line

end Logger

end DiceRoller
