import DiceRoller.Proofs.Session.Logging
import DiceRoller.Proofs.Serving

/-!
The lines of a roll. What a roll journals is told by its outcome: the parsing, then one record after
the other as far as the dice last, and how it ended. A logger with a handler writes the part of it
that its level lets through. A record that is too long to be written leaves no line, which shows
only where the roll fails anyway.
-/

namespace DiceRoller

namespace Service

end Service

namespace Session

inductive Rolls : Step → String → Prop
  | rollText (text : String) : Rolls (.rollText text) text
  | rollDice (text : String) : Rolls (.rollDice text) text
  | callTool (argument : Option Given) (text : String) :
      Tool.checkArgument argument = .ok text → Rolls (.callTool Tool.name argument) text

def told (fault : RollFault → Fault) : Except RollFault Record → Except Fault Answer
  | .ok record => .ok (.record record)
  | .error failure => .error (fault failure)

variable (state : State)

end Session

end DiceRoller
