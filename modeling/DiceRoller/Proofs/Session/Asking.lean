import DiceRoller.Session

/-!
Steps that need settings. They take the cached settings, or load some from the environment and
cache them, and then go on with what they have. Where none are cached and none can be loaded the
step is refused and the session stays as it was. A call of the tool is such a step, unless it is
misused: then it is refused before settings are asked for.
-/

namespace DiceRoller

namespace Tool

inductive Misused : String → Option Given → Fault → Prop
  | unknownTool (other : String) (argument : Option Given) : other ≠ name →
      Misused other argument (.unknownTool other)
  | missing : Misused name none (.invalid [⟨argumentForm.argument, .missing⟩])
  | notText (given : Given) : (∀ text, given ≠ .text text) →
      Misused name (some given) (.invalid [⟨argumentForm.argument, .notText⟩])
  | emptyText : Misused name (some (.text "")) (.invalid [⟨argumentForm.argument, .emptyText⟩])

theorem check_argument_text (text : String) (filled : text ≠ "") :
    checkArgument (some (.text text)) = .ok text := by
  have long : ¬ text.length < argumentForm.minLength := by
    rw [show argumentForm.minLength = 1 from rfl, Nat.lt_one_iff, String.length_eq_zero_iff]
    exact filled
  simp only [checkArgument, if_neg long]

theorem checked_or_misused (tool : String) (argument : Option Given) :
    (tool = name ∧ ∃ text, checkArgument argument = .ok text) ∨
      ∃ fault, Misused tool argument fault := by
  by_cases known : tool = name
  · subst known
    cases argument with
    | none => exact Or.inr ⟨_, .missing⟩
    | some given =>
        cases given with
        | text text =>
            by_cases empty : text = ""
            · subst empty
              exact Or.inr ⟨_, .emptyText⟩
            · exact Or.inl ⟨rfl, text, check_argument_text text empty⟩
        | number value | flag value | other => exact Or.inr ⟨_, .notText _ nofun⟩
  · exact Or.inr ⟨_, .unknownTool tool argument known⟩

end Tool

namespace Session

def callFault (failure : RollFault) : Fault :=
  .tool (wrapped (toolFault failure))

/-- The steps that need settings: what they do with them, and how they tell that none can be
loaded. -/
inductive Asks : Step → (Settings → State → Effect) → (List FieldFault → Fault) → Prop
  | getSettings : Asks .getSettings (fun settings state => ⟨.ok (.settings settings), [], state⟩)
      .invalid
  | run : Asks .run (fun settings state =>
      ⟨.ok (.running settings.transport (state.setUpLogging settings.level.rank).logger), [],
        state.setUpLogging settings.level.rank⟩) .invalid
  | rollDice (text : String) : Asks (.rollDice text)
      (fun settings state => rollWith settings.limits toolFault text state) .invalid
  | callTool (argument : Option Given) (text : String) :
      Tool.checkArgument argument = .ok text → Asks (.callTool Tool.name argument)
        (fun settings state => rollWith settings.limits callFault text state)
        (fun faults => .tool (.invalid faults))

variable (state : State)

namespace State

theorem reload_cases :
    (∃ settings, Settings.ofEnvironment state.environment = .ok settings ∧
      state.reload = (.ok settings, { state with cached := some settings })) ∨
    ∃ faults, Settings.ofEnvironment state.environment = .error faults ∧
      state.reload = (.error faults, state) := by
  unfold reload
  cases Settings.ofEnvironment state.environment with
  | ok settings => exact Or.inl ⟨settings, rfl, rfl⟩
  | error faults => exact Or.inr ⟨faults, rfl, rfl⟩

theorem load_cases :
    (∃ settings, (state.cached = some settings ∨
        state.cached = none ∧ Settings.ofEnvironment state.environment = .ok settings) ∧
      state.load = (.ok settings, { state with cached := some settings })) ∨
    ∃ faults, state.cached = none ∧ Settings.ofEnvironment state.environment = .error faults ∧
      state.load = (.error faults, state) := by
  obtain ⟨environment, cached, logger, source, fallback⟩ := state
  cases cached with
  | some settings => exact Or.inl ⟨settings, Or.inl rfl, rfl⟩
  | none =>
      rcases reload_cases ⟨environment, none, logger, source, fallback⟩ with
        ⟨settings, accepted, loaded⟩ | ⟨faults, refused, kept⟩
      · exact Or.inl ⟨settings, Or.inr ⟨rfl, accepted⟩, loaded⟩
      · exact Or.inr ⟨faults, rfl, refused, kept⟩

end State

theorem call_tool_loaded (argument : Option Given) (text : String) (state loaded : State)
    (settings : Settings) (checked : Tool.checkArgument argument = .ok text)
    (load : state.load = (.ok settings, loaded)) :
    callTool Tool.name argument state =
      rollWith settings.limits callFault text loaded := by
  simp only [callTool, if_true, checked, rollDice, load, rollWith]
  cases (Service.serve settings.limits text loaded.current).outcome <;> rfl

theorem call_tool_unloaded (argument : Option Given) (text : String) (state loaded : State)
    (faults : List FieldFault) (checked : Tool.checkArgument argument = .ok text)
    (load : state.load = (.error faults, loaded)) :
    callTool Tool.name argument state = ⟨.error (.tool (.invalid faults)), [], loaded⟩ := by
  simp only [callTool, if_true, checked, rollDice, load, wrapped]

section Asks
variable {step : Step} {proceed : Settings → State → Effect} {refuse : List FieldFault → Fault}
  (asks : Asks step proceed refuse)
include asks

theorem perform_loaded (settings : Settings) (loaded : State)
    (load : state.load = (.ok settings, loaded)) :
    perform step state = proceed settings loaded := by
  cases asks with
  | getSettings => simp only [perform, settingsAnswer, load]
  | run => simp only [perform, run, load]
  | rollDice text => simp only [perform, rollDice, load]
  | callTool argument text checked =>
      exact call_tool_loaded argument text state loaded _ checked load

theorem perform_unloaded (faults : List FieldFault) (next : State)
    (load : state.load = (.error faults, next)) :
    perform step state = ⟨.error (refuse faults), [], next⟩ := by
  cases asks with
  | getSettings => simp only [perform, settingsAnswer, load]
  | run => simp only [perform, run, load]
  | rollDice text => simp only [perform, rollDice, load]
  | callTool argument text checked =>
      exact call_tool_unloaded argument text state next _ checked load

theorem perform_cached (settings : Settings) (cached : state.cached = some settings) :
    perform step state = proceed settings state :=
  perform_loaded state asks settings state (by simp only [State.load, cached])

/-- A step that needs settings goes on with them once they are cached, or it is refused. -/
theorem asked_cases :
    (∃ settings, (state.cached = some settings ∨
        state.cached = none ∧ Settings.ofEnvironment state.environment = .ok settings) ∧
      perform step state = proceed settings { state with cached := some settings }) ∨
    ∃ faults, state.cached = none ∧ Settings.ofEnvironment state.environment = .error faults ∧
      perform step state = ⟨.error (refuse faults), [], state⟩ := by
  rcases state.load_cases with ⟨settings, known, load⟩ | ⟨faults, empty, refused, load⟩
  · exact Or.inl ⟨settings, known, perform_loaded state asks settings _ load⟩
  · exact Or.inr ⟨faults, empty, refused, perform_unloaded state asks faults state load⟩

end Asks

section Misused
variable {tool : String} {argument : Option Given} {fault : Tool.Fault}
  (misused : Tool.Misused tool argument fault)
include misused

theorem perform_misused :
    perform (.callTool tool argument) state = ⟨.error (.tool fault), [], state⟩ := by
  cases misused with
  | unknownTool _ _ other => simp only [perform, callTool, if_neg other]
  | missing => rfl
  | emptyText => rfl
  | notText given other =>
      cases given with
      | text text => exact absurd rfl (other text)
      | number value | flag value | other => rfl

end Misused

theorem call_tool_cases (tool : String) (argument : Option Given) :
    (∃ proceed refuse, Asks (.callTool tool argument) proceed refuse) ∨
      ∃ fault, Tool.Misused tool argument fault := by
  rcases Tool.checked_or_misused tool argument with ⟨rfl, text, checked⟩ | misused
  · exact Or.inl ⟨_, _, .callTool argument text checked⟩
  · exact Or.inr misused

end Session

end DiceRoller
