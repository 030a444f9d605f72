import DiceRoller.Proofs.Expression.Limiting
import DiceRoller.Proofs.Session.Asking
import DiceRoller.Proofs.Session.History
import DiceRoller.Proofs.Settings

/-!
Settings of a session. A reload always loads, and a step that needs settings loads them when none
are cached. A load that succeeds replaces what is cached, one that fails refuses its step and
changes nothing, and no other step touches the cache. So over a whole session the cached settings
are those of the last load that succeeded, read from the environment of that moment.
-/

namespace DiceRoller

structure Settings.Valid (settings : Settings) : Prop where
  level : settings.level.name ∈ ["DEBUG", "INFO", "WARNING", "ERROR", "CRITICAL"]
  transport : settings.transport.name ∈ ["stdio", "sse", "streamable-http"]
  bounds : ∀ bound ∈ [settings.diceCount, settings.dieSides, settings.terms], 1 ≤ bound.val

theorem Settings.valid (settings : Settings) : settings.Valid where
  level := by cases settings.level <;> decide
  transport := by cases settings.transport <;> decide
  bounds bound _ := bound.property

namespace Session

def Step.sets : Step → Environment → Environment
  | setVariable name value, environment => environment.assign name value
  | unsetVariable name, environment => environment.erase name
  | _, environment => environment

variable (state : State)

section History
variable (steps : List Step) (fallback : Source)

end History

theorem State.replace_current_current : state.replaceCurrent state.current = state := by
  obtain ⟨environment, cached, logger, source, fallback⟩ := state
  cases source <;> rfl

theorem roll_with_unread (limits : Limits) (tell : RollFault → Fault) (text : String)
    (error : ReadError) (refused : Expression.read limits text = .error error) :
    rollWith limits tell text state =
      ⟨.error (tell (.unread error)), Service.refusal text error, state⟩ := by
  simp only [rollWith, Service.serve, refused, state.replace_current_current]

end Session

end DiceRoller
