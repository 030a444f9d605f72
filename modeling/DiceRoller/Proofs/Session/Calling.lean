import DiceRoller.Proofs.Session.Asking

/-!
The three ways to roll a notation: a plain roll under the limits of the settings, the function of
the tool, and a call of the tool by its name. With settings cached they serve one request alike and
differ only in how they tell a fault. A call that names no tool, or does not give the notation,
is refused before anything else happens.
-/

namespace DiceRoller.Session

def Effect.outcome (effect : Effect) : Reply × State :=
  (⟨effect.answer, effect.state.logger.lines effect.entries, effect.state.drawn⟩, effect.state)

def rollUnder (settings : Settings) (text : String) (state : State) : Effect :=
  rollWith settings.limits plainFault text state

inductive SameAnswer :
    Except Fault Answer → Except Fault Answer → Except Fault Answer → Prop
  | record (record : Record) :
      SameAnswer (.ok (.record record)) (.ok (.record record)) (.ok (.record record))
  | unread (error : ReadError) : SameAnswer (.error (.unread error))
      (.error (.refused error.message)) (.error (.tool (.failed error.message)))
  | ranDry : SameAnswer (.error .ranDry) (.error .ranDry)
      (.error (.tool (.failed RollFault.ranDry.message)))
  | unwritable : SameAnswer (.error (.refused RollFault.unwritable.message))
      (.error (.refused RollFault.unwritable.message))
      (.error (.tool (.failed RollFault.unwritable.message)))

theorem SameAnswer.messages {plain dice call : Except Fault Answer}
    (same : SameAnswer plain dice call) (fault : Fault) (failed : plain = .error fault) :
    (∃ told, dice = .error told ∧ told.messages = fault.messages) ∧
      ∃ told, call = .error told ∧
        told.messages = fault.messages.map ("Error executing tool roll_dice: " ++ ·) := by
  cases same with
  | record record => cases failed
  | unread error | ranDry | unwritable =>
      cases failed
      exact ⟨⟨_, rfl, rfl⟩, _, rfl, rfl⟩

structure Agree (plain dice call : Reply × State) : Prop where
  answers : SameAnswer plain.1.answer dice.1.answer call.1.answer
  messages : ∀ fault, plain.1.answer = .error fault →
    (∃ told, dice.1.answer = .error told ∧ told.messages = fault.messages) ∧
      ∃ told, call.1.answer = .error told ∧
        told.messages = fault.messages.map ("Error executing tool roll_dice: " ++ ·)
  lines : dice.1.lines = plain.1.lines ∧ call.1.lines = plain.1.lines
  drawn : dice.1.drawn = plain.1.drawn ∧ call.1.drawn = plain.1.drawn
  state : dice.2 = plain.2 ∧ call.2 = plain.2

theorem roll_with_same_answer (limits : Limits) (text : String) (state : State) :
    SameAnswer (rollWith limits plainFault text state).answer
      (rollWith limits toolFault text state).answer
      (rollWith limits callFault text state).answer := by
  simp only [rollWith]
  cases (Service.serve limits text state.current).outcome with
  | ok record => exact .record record
  | error failure =>
      cases failure with
      | unread error => exact .unread error
      | ranDry => exact .ranDry
      | unwritable => exact .unwritable

theorem roll_with_agree (limits : Limits) (text : String) (state : State) :
    Agree (rollWith limits plainFault text state).outcome
      (rollWith limits toolFault text state).outcome
      (rollWith limits callFault text state).outcome where
  answers := roll_with_same_answer limits text state
  messages := (roll_with_same_answer limits text state).messages
  lines := ⟨rfl, rfl⟩
  drawn := ⟨rfl, rfl⟩
  state := ⟨rfl, rfl⟩

/-- With settings cached the three ways to roll a notation agree, whatever further arguments a call
brings. A call that is misused fails at once, with or without cached settings: it draws nothing,
writes no line and leaves the session as it was. -/
theorem ways_to_roll_agree :
    (∀ (state : State) (settings : Settings) (text : String) (arguments : Tool.Arguments),
      state.cached = some settings → text ≠ "" →
      Tool.argumentOf arguments = some (.text text) →
      Agree (rollUnder settings text state).outcome (step (.rollDice text) state)
        (step (.call Tool.name arguments) state)) ∧
    ∀ (state : State) (tool : String) (arguments : Tool.Arguments) (fault : Tool.Fault),
      Tool.Misused tool (Tool.argumentOf arguments) fault →
      step (.call tool arguments) state = (⟨.error (.tool fault), [], state.drawn⟩, state) := by
  constructor
  · intro state settings text arguments cached filled given
    have checked : Tool.checkArgument (Tool.argumentOf arguments) = .ok text := by
      rw [given, Tool.check_argument_text text filled]
    have dice := perform_cached state (.rollDice text) settings cached
    have call := perform_cached state (.callTool _ text checked) settings cached
    simp only [step, Step.call, dice, call]
    exact roll_with_agree settings.limits text state
  · intro state tool arguments fault misused
    simp only [step, Step.call, perform_misused state misused]
    rfl

/-- The first of two dice is answered, the second is not. -/
theorem ways_to_roll_agree_halfway :
    Agree
      (rollUnder .standard "2d6"
        { initial (.script none [4]) with cached := some .standard }).outcome
      (step (.rollDice "2d6") { initial (.script none [4]) with cached := some .standard })
      (step (.call Tool.name [("style", .flag true), ("notation", .text "2d6")])
        { initial (.script none [4]) with cached := some .standard }) ∧
    step (.call Tool.name [("style", .flag true)]) (initial (.script none [4])) =
      (⟨.error (.tool (.invalid [⟨Tool.argumentForm.argument, .missing⟩])), [], none⟩,
        initial (.script none [4])) :=
  ⟨ways_to_roll_agree.1 _ .standard "2d6" _ rfl (by decide) (by decide),
    ways_to_roll_agree.2 (initial (.script none [4])) Tool.name [("style", .flag true)] _ .missing⟩

end DiceRoller.Session
