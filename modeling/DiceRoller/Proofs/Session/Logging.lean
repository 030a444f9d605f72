import DiceRoller.Proofs.Session.Asking
import DiceRoller.Proofs.Session.History

/-!
The logger of a session. Two steps set it up, and each of them sets it up as a whole or leaves the
session as it was. However often it was set up, the logger has the level of the last setup and one
handler, so what a step journals is written once at most. An invalid environment keeps a run from
its setup only while no settings are cached.
-/

namespace DiceRoller

namespace Logger

/-- A logger that was set up with this level, or one that never was. -/
def configured : Option Int → Logger
  | none => quiet
  | some level => ⟨level, 1⟩

theorem set_up_configured (last : Option Int) (level : Int) :
    (configured last).setUp level = configured (some level) := by
  cases last <;> rfl

/-- Such a logger writes some of the entries, each of them once. -/
theorem lines_configured (last : Option Int) (entries : List Entry) :
    ∃ written, List.Sublist written entries ∧
      (configured last).lines entries = written.map Entry.line := by
  cases last with
  | none => exact ⟨[], entries.nil_sublist, by simp [lines, configured, quiet]⟩
  | some level =>
      refine ⟨entries.filter fun entry => accepts ⟨level, 1⟩ entry && entry.isWritable,
        List.filter_sublist, ?_⟩
      simp only [lines, configured, List.replicate_one]
      exact List.flatMap_pure_eq_map Entry.line _

end Logger

namespace Session

def Step.configures : Step → Bool
  | setUpLogging _ | run => true
  | _ => false

/-- The settings of a step that needs some: the cached ones, or else those of the environment. -/
def State.Uses (state : State) (settings : Settings) : Prop :=
  state.cached = some settings ∨
    state.cached = none ∧ Settings.ofEnvironment state.environment = .ok settings

inductive SetsUp (state : State) : Step → Int → Prop
  | chosen (level : Option LevelChoice) (rank : Int) : levelRank level = .ok rank →
      SetsUp state (.setUpLogging level) rank
  | run (settings : Settings) : state.Uses settings → SetsUp state .run settings.level.rank

inductive Adjusts (state : State) (step : Step) : Prop
  | done (level : Int) : SetsUp state step level →
      (∃ answer, (perform step state).answer = .ok answer) →
      (perform step state).state.logger = state.logger.setUp level → Adjusts state step
  | failed (fault : Fault) : step.configures = true → (∀ level, ¬ SetsUp state step level) →
      (perform step state).answer = .error fault → (perform step state).state = state →
      Adjusts state step
  | kept : step.configures = false → (∀ level, ¬ SetsUp state step level) →
      (perform step state).state.logger = state.logger → Adjusts state step

variable (state : State)

theorem sets_up_configures (step : Step) (level : Int) (sets : SetsUp state step level) :
    step.configures = true := by
  cases sets <;> rfl

theorem State.uses_unique (settings other : Settings) (uses : state.Uses settings)
    (usesOther : state.Uses other) : settings = other := by
  rcases uses with cached | ⟨empty, accepted⟩ <;>
    rcases usesOther with cachedOther | ⟨emptyOther, acceptedOther⟩
  · exact Option.some.inj (cached.symm.trans cachedOther)
  · cases emptyOther.symm.trans cached
  · cases empty.symm.trans cachedOther
  · exact Except.ok.inj (accepted.symm.trans acceptedOther)

theorem sets_up_unique (step : Step) (level other : Int) (sets : SetsUp state step level)
    (setsOther : SetsUp state step other) : level = other := by
  cases sets with
  | chosen _ _ ranked =>
      cases setsOther with
      | chosen _ _ rankedOther => exact Except.ok.inj (ranked.symm.trans rankedOther)
  | run settings uses =>
      cases setsOther with
      | run found usesFound => rw [state.uses_unique settings found uses usesFound]

theorem State.replace_current_logger (source : Source) :
    (state.replaceCurrent source).logger = state.logger := by
  unfold replaceCurrent
  split <;> rfl

theorem settings_answer_logger (loaded : Except (List FieldFault) Settings × State) :
    (settingsAnswer loaded).state.logger = loaded.2.logger := by
  obtain ⟨settings | faults, next⟩ := loaded <;> rfl

theorem asked_logger (step : Step) (proceed : Settings → State → Effect)
    (refuse : List FieldFault → Fault) (asks : Asks step proceed refuse)
    (other : step.configures = false) : (perform step state).state.logger = state.logger := by
  rcases asked_cases state asks with ⟨settings, -, done⟩ | ⟨faults, -, -, done⟩
  · rw [done]
    cases asks with
    | getSettings => rfl
    | run => cases other
    | rollDice text => exact State.replace_current_logger _ _
    | callTool argument text checked => exact State.replace_current_logger _ _
  · rw [done]

theorem other_logger (step : Step) (other : step.configures = false) :
    (perform step state).state.logger = state.logger := by
  cases step with
  | setVariable name value | unsetVariable name | chooseSource source => rfl
  | setUpLogging level | run => cases other
  | getSettings => exact asked_logger state _ _ _ .getSettings rfl
  | rollDice text => exact asked_logger state _ _ _ (.rollDice text) rfl
  | rollText text => exact state.replace_current_logger _
  | parse limits text =>
      simp only [perform, parse]
      cases Expression.read limits text <;> rfl
  | reloadSettings =>
      simp only [perform, settings_answer_logger]
      rcases state.reload_cases with ⟨settings, -, loaded⟩ | ⟨faults, -, kept⟩
      · rw [loaded]
      · rw [kept]
  | callTool name argument =>
      rcases call_tool_cases name argument with ⟨proceed, refuse, asks⟩ | ⟨fault, misused⟩
      · exact asked_logger state _ _ _ asks rfl
      · rw [perform_misused state misused]

theorem set_up_logging_adjusts (level : Option LevelChoice) :
    Adjusts state (.setUpLogging level) := by
  cases ranked : levelRank level with
  | ok rank =>
      have done : perform (.setUpLogging level) state =
          ⟨.ok (.logger (state.setUpLogging rank).logger), [], state.setUpLogging rank⟩ := by
        simp only [perform, setUpLogging, ranked]
      refine .done rank (.chosen level rank ranked) ⟨_, congrArg Effect.answer done⟩ ?_
      rw [done]
      rfl
  | error fault =>
      have failed : perform (.setUpLogging level) state = ⟨.error fault, [], state⟩ := by
        simp only [perform, setUpLogging, ranked]
      refine .failed fault rfl (fun rank sets => ?_) (by rw [failed]) (by rw [failed])
      cases sets with
      | chosen _ _ found => cases ranked.symm.trans found

theorem run_adjusts : Adjusts state .run := by
  rcases asked_cases state .run with ⟨settings, uses, done⟩ | ⟨faults, empty, refused, failed⟩
  · refine .done settings.level.rank (.run settings uses) ⟨_, congrArg Effect.answer done⟩ ?_
    rw [done]
    rfl
  · refine .failed (.invalid faults) rfl (fun level sets => ?_) (by rw [failed]) (by rw [failed])
    cases sets with
    | run settings uses =>
        rcases uses with cached | ⟨-, accepted⟩
        · cases empty.symm.trans cached
        · cases refused.symm.trans accepted

theorem perform_adjusts (step : Step) : Adjusts state step := by
  cases configures : step.configures with
  | false =>
      refine .kept configures (fun level sets => ?_) (other_logger state step configures)
      cases configures.symm.trans (sets_up_configures state step level sets)
  | true =>
      cases step with
      | setUpLogging level => exact set_up_logging_adjusts state level
      | run => exact run_adjusts state
      | _ => cases configures

theorem tracks_setups : Tracks SetsUp fun state last => state.logger = .configured last where
  done state step last level shown sets := by
    cases perform_adjusts state step with
    | done found again _ logger =>
        rw [logger, shown, sets_up_unique state step found level again sets,
          Logger.set_up_configured]
    | failed _ _ nothing _ _ => exact absurd sets (nothing level)
    | kept _ nothing _ => exact absurd sets (nothing level)
  kept state step last shown nothing := by
    cases perform_adjusts state step with
    | done level sets _ _ => exact absurd sets (nothing level)
    | failed _ _ _ _ same => rw [same]; exact shown
    | kept _ _ logger => rw [logger]; exact shown

/-- A logger that is set up as a whole or not at all, and what it writes. -/
structure Logs : Prop where
  succeeds : ∀ step, step.configures = true →
    ((∃ answer, (perform step state).answer = .ok answer) ↔ ∃ level, SetsUp state step level)
  sets : ∀ step level, SetsUp state step level →
    (perform step state).state.logger = .configured (some level)
  fails : ∀ step fault, step.configures = true → (perform step state).answer = .error fault →
    (perform step state).state = state
  keeps : ∀ step, step.configures = false → (perform step state).state.logger = state.logger
  unknown : ∀ name, Level.rankOfName? name = none →
    (perform (.setUpLogging (some (.named name))) state).answer =
        .error (.refused ("Unknown level: " ++ Text.quoted name)) ∧
      (perform (.setUpLogging (some (.named name))) state).state = state
  invalid : ∀ faults, state.cached = none →
    Settings.ofEnvironment state.environment = .error faults →
    (perform .run state).answer = .error (.invalid faults) ∧ (perform .run state).state = state
  writes : ∀ other, ∃ written, List.Sublist written (perform other state).entries ∧
    (step other state).1.lines = written.map Entry.line

theorem logs (last : Option Int) (shown : state.logger = .configured last) : Logs state where
  succeeds step configures := by
    cases perform_adjusts state step with
    | done level sets answered _ => exact iff_of_true answered ⟨level, sets⟩
    | failed fault _ nothing refused _ =>
        refine iff_of_false (fun answered => ?_) (not_exists.mpr nothing)
        obtain ⟨answer, answered⟩ := answered
        cases refused.symm.trans answered
    | kept other _ _ => cases configures.symm.trans other
  sets step level sets := tracks_setups.done state step last level shown sets
  fails step fault configures refused := by
    cases perform_adjusts state step with
    | done _ _ answered _ =>
        obtain ⟨answer, answered⟩ := answered
        cases refused.symm.trans answered
    | failed _ _ _ _ same => exact same
    | kept other _ _ => cases configures.symm.trans other
  keeps step other := other_logger state step other
  unknown name nameless := by
    simp only [perform, setUpLogging, levelRank, nameless, and_self]
  invalid faults empty refused := by
    have load : state.load = (.error faults, state) := by
      simp only [State.load, empty, State.reload, refused]
    rw [perform_unloaded state .run faults state load]
    exact ⟨rfl, rfl⟩
  writes other := by
    have next : ∃ last, (perform other state).state.logger = .configured last := by
      by_cases sets : ∃ level, SetsUp state other level
      · obtain ⟨level, sets⟩ := sets
        exact ⟨some level, tracks_setups.done state other last level shown sets⟩
      · exact ⟨last, tracks_setups.kept state other last shown (not_exists.mp sets)⟩
    obtain ⟨now, logger⟩ := next
    simp only [step, logger]
    exact Logger.lines_configured now _

/-- At every point of a session the logger is that of the last setup, whichever steps came before it
and behind it, and no step sets it up by halves or writes an entry twice. -/
theorem session_logger (steps : List Step) (fallback : Source) :
    (∃ last, LastDone SetsUp (initial fallback) steps last ∧
      (after steps (initial fallback)).logger = .configured last) ∧
    Logs (after steps (initial fallback)) := by
  obtain ⟨last, done, shown⟩ := after_last_done SetsUp (initial fallback) steps tracks_setups rfl
  exact ⟨⟨last, done, shown⟩, logs _ last shown⟩

/-- A run with cached settings sets up the logger although the environment has become invalid. -/
theorem cached_run_sets_up :
    (∃ faults, Settings.ofEnvironment
      (after [.getSettings, .setVariable "MCP_DICE_LOG_LEVEL" "LOUD"]
        (initial (.cycle none [1]))).environment = .error faults) ∧
    (after [.getSettings, .setVariable "MCP_DICE_LOG_LEVEL" "LOUD"]
      (initial (.cycle none [1]))).logger = ⟨0, 0⟩ ∧
    (after [.getSettings, .setVariable "MCP_DICE_LOG_LEVEL" "LOUD", .run]
      (initial (.cycle none [1]))).logger = ⟨20, 1⟩ := by
  refine ⟨⟨[⟨"log_level", .unknownLevel "LOUD"⟩], ?_⟩, ?_, ?_⟩
  all_goals decide +kernel

end Session

end DiceRoller
