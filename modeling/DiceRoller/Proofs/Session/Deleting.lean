import DiceRoller.Proofs.Session.Loading

/-!
Steps that leave no trace. Parsing, setting up the logger and rolls whose notation is rejected touch
at most the logger, and no answer depends on what the logger was. So they can be deleted from a
session without a difference in any other answer. A rejected roll of the tool is one of them only
while settings are cached: without them it may be the step that loads them.
-/

namespace DiceRoller

theorem Logger.set_up_set_up (logger : Logger) (first second : Int) :
    (logger.setUp first).setUp second = logger.setUp second := by
  simp only [setUp, max_assoc, max_self]

namespace Session

/-- Two states differ at most in their loggers, and a setup makes those the same. -/
structure SameButLogger (one other : State) : Prop where
  environment : other.environment = one.environment
  cached : other.cached = one.cached
  source : other.source = one.source
  fallback : other.fallback = one.fallback
  setUp : ∀ level, other.logger.setUp level = one.logger.setUp level

structure Alike (one other : Effect) : Prop where
  answer : other.answer = one.answer
  state : SameButLogger one.state other.state

/-- The steps that can be deleted from a session where they meet this state. -/
inductive Harmless (state : State) : Step → Prop
  | parse (limits : Limits) (text : String) : Harmless state (.parse limits text)
  | setUpLogging (level : Option LevelChoice) : Harmless state (.setUpLogging level)
  | rollText (text : String) (error : ReadError) :
      Expression.read .unlimited text = .error error → Harmless state (.rollText text)
  | rollDice (settings : Settings) (text : String) (error : ReadError) :
      state.cached = some settings → Expression.read settings.limits text = .error error →
      Harmless state (.rollDice text)
  | callTool (settings : Settings) (argument : Option Given) (text : String) (error : ReadError) :
      state.cached = some settings → Tool.checkArgument argument = .ok text →
      Expression.read settings.limits text = .error error →
      Harmless state (.callTool Tool.name argument)

def Reply.content (reply : Reply) : Except Fault Answer × Option Nat :=
  (reply.answer, reply.drawn)

namespace SameButLogger
variable {one other third : State}

theorem refl (state : State) : SameButLogger state state :=
  ⟨rfl, rfl, rfl, rfl, fun _ => rfl⟩

theorem symm (same : SameButLogger one other) : SameButLogger other one where
  environment := same.environment.symm
  cached := same.cached.symm
  source := same.source.symm
  fallback := same.fallback.symm
  setUp level := (same.setUp level).symm

theorem trans (same : SameButLogger one other) (next : SameButLogger other third) :
    SameButLogger one third where
  environment := next.environment.trans same.environment
  cached := next.cached.trans same.cached
  source := next.source.trans same.source
  fallback := next.fallback.trans same.fallback
  setUp level := (next.setUp level).trans (same.setUp level)

theorem set_up_logging (same : SameButLogger one other) (level : Int) :
    SameButLogger (one.setUpLogging level) (other.setUpLogging level) where
  environment := same.environment
  cached := same.cached
  source := same.source
  fallback := same.fallback
  setUp next := by simp only [State.setUpLogging, same.setUp]

theorem with_cached (same : SameButLogger one other) (cached : Option Settings) :
    SameButLogger { one with cached := cached } { other with cached := cached } :=
  ⟨same.environment, rfl, same.source, same.fallback, same.setUp⟩

theorem current (same : SameButLogger one other) : other.current = one.current := by
  simp only [State.current, same.source, same.fallback]

theorem drawn (same : SameButLogger one other) : other.drawn = one.drawn := by
  simp only [State.drawn, same.source]

theorem replace_current (same : SameButLogger one other) (source : Source) :
    SameButLogger (one.replaceCurrent source) (other.replaceCurrent source) := by
  simp only [State.replaceCurrent, same.source]
  cases one.source with
  | some _ => exact ⟨same.environment, same.cached, rfl, same.fallback, same.setUp⟩
  | none => exact ⟨same.environment, same.cached, rfl, rfl, same.setUp⟩

theorem reload (same : SameButLogger one other) :
    (∃ settings loaded loadedOther, one.reload = (.ok settings, loaded) ∧
      other.reload = (.ok settings, loadedOther) ∧ SameButLogger loaded loadedOther) ∨
    ∃ faults, one.reload = (.error faults, one) ∧ other.reload = (.error faults, other) := by
  rcases one.reload_cases with ⟨settings, accepted, loaded⟩ | ⟨faults, refused, kept⟩
  · refine Or.inl ⟨settings, _, _, loaded, ?_, same.with_cached (some settings)⟩
    simp only [State.reload, same.environment, accepted]
  · refine Or.inr ⟨faults, kept, ?_⟩
    simp only [State.reload, same.environment, refused]

theorem load (same : SameButLogger one other) :
    (∃ settings loaded loadedOther, one.load = (.ok settings, loaded) ∧
      other.load = (.ok settings, loadedOther) ∧ SameButLogger loaded loadedOther) ∨
    ∃ faults, one.load = (.error faults, one) ∧ other.load = (.error faults, other) := by
  simp only [State.load, same.cached]
  cases one.cached with
  | some settings => exact Or.inl ⟨settings, one, other, rfl, rfl, same⟩
  | none => exact same.reload

end SameButLogger

variable {one other : State}

theorem roll_with_alike (same : SameButLogger one other) (limits : Limits)
    (tell : RollFault → Fault) (text : String) :
    Alike (rollWith limits tell text one) (rollWith limits tell text other) := by
  simp only [rollWith, same.current]
  exact ⟨rfl, same.replace_current _⟩

theorem proceed_alike (same : SameButLogger one other) {step : Step}
    {proceed : Settings → State → Effect} {refuse : List FieldFault → Fault}
    (asks : Asks step proceed refuse) (settings : Settings) :
    Alike (proceed settings one) (proceed settings other) := by
  cases asks with
  | getSettings => exact ⟨rfl, same⟩
  | run =>
      refine ⟨?_, same.set_up_logging _⟩
      simp only [State.setUpLogging, same.setUp]
  | rollDice text => exact roll_with_alike same settings.limits toolFault text
  | callTool argument text checked => exact roll_with_alike same settings.limits callFault text

theorem asked_alike (same : SameButLogger one other) {step : Step}
    {proceed : Settings → State → Effect} {refuse : List FieldFault → Fault}
    (asks : Asks step proceed refuse) : Alike (perform step one) (perform step other) := by
  rcases same.load with ⟨settings, loaded, loadedOther, load, loadOther, sameLoaded⟩ |
    ⟨faults, load, loadOther⟩
  · rw [perform_loaded one asks settings loaded load,
      perform_loaded other asks settings loadedOther loadOther]
    exact proceed_alike sameLoaded asks settings
  · rw [perform_unloaded one asks faults one load,
      perform_unloaded other asks faults other loadOther]
    exact ⟨rfl, same⟩

theorem perform_alike (same : SameButLogger one other) (step : Step) :
    Alike (perform step one) (perform step other) := by
  cases step with
  | getSettings => exact asked_alike same .getSettings
  | run => exact asked_alike same .run
  | rollDice text => exact asked_alike same (.rollDice text)
  | rollText text => exact roll_with_alike same .unlimited plainFault text
  | setVariable name value =>
      refine ⟨rfl, ?_, same.cached, same.source, same.fallback, same.setUp⟩
      simp only [perform, same.environment]
  | unsetVariable name =>
      refine ⟨rfl, ?_, same.cached, same.source, same.fallback, same.setUp⟩
      simp only [perform, same.environment]
  | chooseSource source =>
      exact ⟨rfl, same.environment, same.cached, rfl, same.fallback, same.setUp⟩
  | reloadSettings =>
      rcases same.reload with ⟨settings, loaded, loadedOther, load, loadOther, sameLoaded⟩ |
        ⟨faults, load, loadOther⟩
      · simp only [perform, settingsAnswer, load, loadOther]
        exact ⟨rfl, sameLoaded⟩
      · simp only [perform, settingsAnswer, load, loadOther]
        exact ⟨rfl, same⟩
  | setUpLogging level =>
      simp only [perform, setUpLogging]
      cases levelRank level with
      | ok rank =>
          refine ⟨?_, same.set_up_logging rank⟩
          simp only [State.setUpLogging, same.setUp]
      | error fault => exact ⟨rfl, same⟩
  | parse limits text =>
      simp only [perform, parse]
      cases Expression.read limits text with
      | ok expression => exact ⟨rfl, same⟩
      | error error => exact ⟨rfl, same⟩
  | callTool name argument =>
      rcases call_tool_cases name argument with ⟨proceed, refuse, asks⟩ | ⟨fault, misused⟩
      · exact asked_alike same asks
      · rw [perform_misused one misused, perform_misused other misused]
        exact ⟨rfl, same⟩

theorem roll_with_rejected (state : State) (limits : Limits) (tell : RollFault → Fault)
    (text : String) (error : ReadError) (refused : Expression.read limits text = .error error) :
    SameButLogger state (rollWith limits tell text state).state := by
  rw [roll_with_unread state limits tell text error refused]
  exact .refl state

theorem harmless_same (state : State) (step : Step) (harmless : Harmless state step) :
    SameButLogger state (perform step state).state := by
  cases harmless with
  | parse limits text =>
      simp only [perform, parse]
      cases Expression.read limits text with
      | ok expression => exact .refl state
      | error error => exact .refl state
  | setUpLogging level =>
      simp only [perform, setUpLogging]
      cases levelRank level with
      | ok rank => exact ⟨rfl, rfl, rfl, rfl, state.logger.set_up_set_up rank⟩
      | error fault => exact .refl state
  | rollText text error refused =>
      exact roll_with_rejected state .unlimited plainFault text error refused
  | rollDice settings text error cached refused =>
      rw [perform_cached state (.rollDice text) settings cached]
      exact roll_with_rejected state settings.limits toolFault text error refused
  | callTool settings argument text error cached checked refused =>
      rw [perform_cached state (.callTool argument text checked) settings cached]
      exact roll_with_rejected state settings.limits callFault text error refused

def select {A : Type} : (Nat → Bool) → List A → List A
  | _, [] => []
  | keep, first :: rest =>
      let kept := select (fun place => keep (place + 1)) rest
      if keep 0 then first :: kept else kept

/-- Two runs, one of them without some harmless steps, from states that differ at most in their
loggers. -/
theorem replies_alike (steps : List Step) (keep : Nat → Bool) (same : SameButLogger one other)
    (harmless : ∀ place step, steps[place]? = some step → keep place = false →
      Harmless (after (steps.take place) one) step) :
    (select keep (replies steps one)).map Reply.content =
      (replies (select keep steps) other).map Reply.content := by
  induction steps generalizing keep one other with
  | nil => rfl
  | cons first rest ih =>
      have later := fun place step found => harmless (place + 1) step found
      by_cases kept : keep 0 = true
      · have alike := perform_alike same first
        have content : (step first other).1.content = (step first one).1.content := by
          simp only [Reply.content, step, alike.answer, alike.state.drawn]
        simp only [replies, select, if_pos kept, List.map_cons, content]
        exact congrArg _ (ih (fun place => keep (place + 1)) alike.state later)
      · have deleted := harmless 0 first rfl (eq_false_of_ne_true kept)
        have aside := (harmless_same one first deleted).symm.trans same
        simp only [replies, select, if_neg kept]
        exact ih (fun place => keep (place + 1)) aside later

/-- Harmless steps can be deleted from a session, any number of them at any places: every other step
answers as before, and as many values are drawn. -/
theorem harmless_steps_deleted (state : State) (steps : List Step) (keep : Nat → Bool)
    (harmless : ∀ place step, steps[place]? = some step → keep place = false →
      Harmless (after (steps.take place) state) step) :
    (select keep (replies steps state)).map Reply.content =
      (replies (select keep steps) state).map Reply.content :=
  replies_alike steps keep (.refl state) harmless

theorem harmless_steps_deleted_three :
    (select (fun place => place == 1 || 3 < place) (replies
        [.setUpLogging none, .getSettings, .parse .unlimited "2d", .rollDice "1d6-d4", .run,
          .rollText "d6"] (initial (.cycle none [5])))).map Reply.content =
      (replies [.getSettings, .run, .rollText "d6"] (initial (.cycle none [5]))).map
        Reply.content := by
  refine harmless_steps_deleted (initial (.cycle none [5]))
    [.setUpLogging none, .getSettings, .parse .unlimited "2d", .rollDice "1d6-d4", .run,
      .rollText "d6"] (fun place => place == 1 || 3 < place) fun place step found deleted => ?_
  match place with
  | 0 =>
      obtain rfl := Option.some.inj found
      exact .setUpLogging none
  | 2 =>
      obtain rfl := Option.some.inj found
      exact .parse .unlimited "2d"
  | 3 =>
      obtain rfl := Option.some.inj found
      exact .rollDice .standard "1d6-d4" (.subtractedPool "-d4") (by decide +kernel)
        (by decide +kernel)
  | 1 => cases deleted
  | beyond + 4 => simp at deleted

/-- A rejected roll of the tool that is the first step to need settings leaves them cached. -/
example :
    (replies [.rollDice "2d", .setVariable "MCP_DICE_MAX_TERMS" "0", .getSettings]
      (initial (.cycle none [5]))).map (·.answer.isOk) = [false, true, true] ∧
    (replies [.setVariable "MCP_DICE_MAX_TERMS" "0", .getSettings]
      (initial (.cycle none [5]))).map (·.answer.isOk) = [true, false] := by
  decide +kernel

end Session

end DiceRoller
