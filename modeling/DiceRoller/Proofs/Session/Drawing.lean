import DiceRoller.Proofs.Codes
import DiceRoller.Proofs.Script

/-!
What one step of a session takes from the chosen source. A step that does not roll leaves the source
alone, and so does one that is refused before it rolls. A roll takes the dice that it records, or
what is left when it runs dry; and a roll that is too long to be written has drawn its dice and
records none.
-/

namespace DiceRoller

theorem ReadError.message_ne_ran_dry (error : ReadError) :
    error.message ≠ RollFault.ranDry.message := by
  intro same
  cases known : error.code? with
  | some code =>
      have coded : Coded RollFault.ranDry.message := by
        rw [← same, coded_iff]
        cases error <;> cases known <;> simp [rejection]
      exact absurd coded (by unfold Coded; decide)
  | none =>
      cases error with
      | unreadableNumber digits =>
          have opens := unreadable_opens digits
          have told : Numeral.unreadable digits = RollFault.ranDry.message := same
          rw [told] at opens
          exact absurd opens (by decide)
      | unwritableLimit =>
          have opens := unwritable_opens
          have told : Numeral.unwritable = RollFault.ranDry.message := same
          rw [told] at opens
          exact absurd opens (by decide)
      | _ => cases known

namespace Session

deriving instance DecidableEq for Fault

namespace Fault

/-- The source ran dry, also as the tool tells it. -/
def RanDry (fault : Fault) : Prop :=
  fault = .ranDry ∨ fault = .tool (.failed RollFault.ranDry.message)

def Unwritable (fault : Fault) : Prop :=
  fault = .refused RollFault.unwritable.message ∨
    fault = .tool (.failed RollFault.unwritable.message)

instance : DecidablePred RanDry := fun _ => inferInstanceAs (Decidable (_ ∨ _))

instance : DecidablePred Unwritable := fun _ => inferInstanceAs (Decidable (_ ∨ _))

end Fault

namespace Reply

def dice (reply : Reply) : List Int :=
  match reply.answer with
  | .ok (.record record) => record.recorded
  | _ => []

def Failed (kind : Fault → Prop) (reply : Reply) : Prop :=
  ∃ fault, reply.answer = .error fault ∧ kind fault

instance (kind : Fault → Prop) [DecidablePred kind] : DecidablePred (Failed kind) := fun reply =>
  match reply with
  | ⟨.ok _, _, _⟩ => isFalse (by simp [Failed])
  | ⟨.error fault, _, _⟩ => decidable_of_iff (kind fault) (by simp [Failed])

def RanDry : Reply → Prop :=
  Failed Fault.RanDry

def Unwritable : Reply → Prop :=
  Failed Fault.Unwritable

instance : DecidablePred RanDry := inferInstanceAs (DecidablePred (Failed Fault.RanDry))

instance : DecidablePred Unwritable := inferInstanceAs (DecidablePred (Failed Fault.Unwritable))

/-- The dice that a step drew. A roll that could not be written tells only how many they were. -/
def Drew (reply : Reply) (block : List Int) : Prop :=
  reply.Unwritable ∨ block = reply.dice

end Reply

def Step.choosesSource : Step → Bool
  | chooseSource _ => true
  | _ => false

inductive Draws (source : Source) : Except Fault Answer → Source → Prop
  | idle (answer : Except Fault Answer) : (∀ record, answer ≠ .ok (.record record)) →
      (∀ fault, answer = .error fault → ¬ fault.RanDry) → Draws source answer source
  | ranDry (fault : Fault) (sizes : List Nat) (next : Source) : fault.RanDry →
      source.drawAll sizes = (none, next) → Draws source (.error fault) next
  | unwritable (fault : Fault) (sizes : List Nat) (values : List Int) (next : Source) :
      fault.Unwritable → ¬ fault.RanDry → source.drawAll sizes = (some values, next) →
      Draws source (.error fault) next
  | recorded (record : Record) (sizes : List Nat) (next : Source) :
      source.drawAll sizes = (some record.recorded, next) →
      Draws source (.ok (.record record)) next

namespace State

variable (state : State) (source : Source)

theorem drawn_of_scripted (chosen : state.source = some source)
    (scripted : source.isScripted = true) : state.drawn = some source.drawn := by
  simp only [drawn, chosen, scripted, if_true]

end State

structure Telling (tell : RollFault → Fault) : Prop where
  unread : ∀ error, ¬ (tell (.unread error)).RanDry
  ranDry : (tell .ranDry).RanDry
  unwritable : (tell .unwritable).Unwritable ∧ ¬ (tell .unwritable).RanDry

theorem plain_fault_telling : Telling plainFault where
  unread := by simp [plainFault, Fault.RanDry]
  ranDry := Or.inl rfl
  unwritable := ⟨Or.inl rfl, by simp [plainFault, Fault.RanDry]⟩

theorem tool_fault_telling : Telling toolFault where
  unread := by simp [toolFault, Fault.RanDry]
  ranDry := Or.inl rfl
  unwritable := ⟨Or.inl rfl, by simp [toolFault, Fault.RanDry]⟩

theorem call_fault_telling : Telling callFault where
  unread error := by simp [callFault, toolFault, wrapped, Fault.RanDry, error.message_ne_ran_dry]
  ranDry := Or.inr rfl
  unwritable := ⟨Or.inr rfl, by simp [callFault, toolFault, wrapped, Fault.RanDry]; decide⟩

theorem roll_with_draws (limits : Limits) (tell : RollFault → Fault) (telling : Telling tell)
    (text : String) (state : State) (source : Source) (chosen : state.source = some source) :
    ∃ next, (rollWith limits tell text state).state.source = some next ∧
      Draws source (rollWith limits tell text state).answer next := by
  have current : state.current = source := by simp [State.current, chosen]
  have draws := Service.serve_draws limits text source
  simp only [rollWith, current]
  refine ⟨(Service.serve limits text source).source, by simp [State.replaceCurrent, chosen], ?_⟩
  generalize (Service.serve limits text source).outcome = outcome at draws
  generalize (Service.serve limits text source).source = next at draws
  cases draws with
  | unread error =>
      exact .idle _ (by simp) fun fault same => by
        rw [← Except.error.inj same]
        exact telling.unread error
  | ranDry sizes next drawn => exact .ranDry _ sizes next telling.ranDry drawn
  | unwritable sizes values next drawn =>
      exact .unwritable _ sizes values next telling.unwritable.1 telling.unwritable.2 drawn
  | recorded sizes record next drawn => exact .recorded record sizes next drawn

theorem level_rank_refused (level : Option LevelChoice) (fault : Fault)
    (unknown : levelRank level = .error fault) : ∃ message, fault = .refused message := by
  unfold levelRank at unknown
  split at unknown
  · cases unknown
  · cases unknown
  · split at unknown
    · cases unknown
    · exact ⟨_, (Except.error.inj unknown).symm⟩

theorem draws_idle (answer : Except Fault Answer) (state : State) (source : Source)
    (same : state.source = some source) (unrecorded : ∀ record, answer ≠ .ok (.record record))
    (answered : ∀ fault, answer = .error fault → ¬ fault.RanDry) :
    ∃ next, state.source = some next ∧ Draws source answer next :=
  ⟨source, same, .idle _ unrecorded answered⟩

theorem proceed_draws {step : Step} {proceed : Settings → State → Effect}
    {refuse : List FieldFault → Fault} (asks : Asks step proceed refuse) (settings : Settings)
    (state : State) (source : Source) (chosen : state.source = some source) :
    ∃ next, (proceed settings state).state.source = some next ∧
      Draws source (proceed settings state).answer next := by
  cases asks with
  | getSettings => exact draws_idle _ _ source chosen (by simp) (by simp)
  | run => exact draws_idle _ _ source chosen (by simp) (by simp)
  | rollDice text =>
      exact roll_with_draws settings.limits _ tool_fault_telling text state source chosen
  | callTool argument text checked =>
      exact roll_with_draws settings.limits _ call_fault_telling text state source chosen

theorem asked_draws {step : Step} {proceed : Settings → State → Effect}
    {refuse : List FieldFault → Fault} (asks : Asks step proceed refuse)
    (state : State) (source : Source) (chosen : state.source = some source) :
    ∃ next, (perform step state).state.source = some next ∧
      Draws source (perform step state).answer next := by
  rcases asked_cases state asks with ⟨settings, -, done⟩ | ⟨faults, -, -, done⟩
  · rw [done]
    exact proceed_draws asks settings _ source chosen
  · rw [done]
    refine draws_idle _ _ source chosen (by simp) fun fault same => ?_
    obtain rfl := Except.error.inj same
    cases asks <;> simp [Fault.RanDry]

/-- What one step takes from the chosen source. -/
theorem perform_draws (step : Step) (kept : step.choosesSource = false) (state : State)
    (source : Source) (chosen : state.source = some source) :
    ∃ next, (perform step state).state.source = some next ∧
      Draws source (perform step state).answer next := by
  cases step with
  | getSettings => exact asked_draws .getSettings state source chosen
  | run => exact asked_draws .run state source chosen
  | rollDice text => exact asked_draws (.rollDice text) state source chosen
  | rollText text =>
      exact roll_with_draws .unlimited plainFault plain_fault_telling text state source chosen
  | chooseSource other => cases kept
  | setVariable name value | unsetVariable name =>
      exact draws_idle _ _ source chosen (by simp [perform]) (by simp [perform])
  | reloadSettings =>
      simp only [perform]
      rcases state.reload_cases with ⟨settings, -, loaded⟩ | ⟨faults, -, kept⟩
      · rw [loaded]
        exact draws_idle _ _ source chosen (by simp [settingsAnswer]) (by simp [settingsAnswer])
      · rw [kept]
        exact draws_idle _ _ source chosen (by simp [settingsAnswer])
          (by simp [settingsAnswer, Fault.RanDry])
  | setUpLogging level =>
      simp only [perform, setUpLogging]
      cases ranked : levelRank level with
      | ok rank => exact draws_idle _ _ source chosen (by simp) (by simp)
      | error fault =>
          refine draws_idle _ _ source chosen (by simp) fun found same => ?_
          obtain ⟨message, rfl⟩ := level_rank_refused level fault ranked
          rw [← Except.error.inj same]
          simp [Fault.RanDry]
  | parse limits text =>
      simp only [perform, parse]
      cases Expression.read limits text with
      | ok expression => exact draws_idle _ _ source chosen (by simp) (by simp)
      | error error => exact draws_idle _ _ source chosen (by simp) (by simp [Fault.RanDry])
  | callTool tool argument =>
      rcases call_tool_cases tool argument with ⟨proceed, refuse, asks⟩ | ⟨fault, misused⟩
      · exact asked_draws asks state source chosen
      · rw [perform_misused state misused]
        refine draws_idle _ _ source chosen (by simp) fun found same => ?_
        obtain rfl := Except.error.inj same
        cases misused <;> simp [Fault.RanDry]

theorem draws_takes (reply : Reply) (source next : Source)
    (draws : Draws source reply.answer next) (scripted : source.isScripted = true)
    (answered : ¬ reply.RanDry) : ∃ block, reply.Drew block ∧ source.Takes block next := by
  obtain ⟨answer, lines, drawn⟩ := reply
  cases draws with
  | idle answer unrecorded _ =>
      refine ⟨[], Or.inr ?_, source.takes_nothing scripted⟩
      unfold Reply.dice
      split
      next record found => exact absurd found (unrecorded record)
      next => rfl
  | ranDry fault sizes next ranDry _ => exact absurd ⟨fault, rfl, ranDry⟩ answered
  | unwritable fault sizes values next unwritable _ drawn =>
      exact ⟨values, Or.inl ⟨fault, rfl, unwritable⟩,
        source.draw_all_takes sizes next values scripted drawn⟩
  | recorded record sizes next drawn =>
      exact ⟨record.recorded, Or.inr rfl, source.draw_all_takes sizes next _ scripted drawn⟩

theorem draws_ran_dry (reply : Reply) (source next : Source)
    (draws : Draws source reply.answer next) (scripted : source.isScripted = true)
    (ranDry : reply.RanDry) : next.feed.Dry := by
  obtain ⟨answer, lines, drawn⟩ := reply
  obtain ⟨found, same, dry⟩ := ranDry
  obtain rfl : answer = .error found := same
  cases draws with
  | idle _ _ answered => exact absurd dry (answered found rfl)
  | ranDry _ sizes next _ drawn => exact source.draw_all_dry sizes next scripted drawn
  | unwritable _ _ _ _ _ other _ => exact absurd dry other

theorem draws_of_dry (reply : Reply) (source next : Source)
    (draws : Draws source reply.answer next) (dry : source.feed.Dry) :
    next.feed.Dry ∧ (next.drawn ≠ source.drawn → reply.RanDry) := by
  obtain ⟨answer, lines, drawn⟩ := reply
  -- A roll that was answered all of its dice cannot have asked for any.
  have asked : ∀ sizes values, source.drawAll sizes = (some values, next) →
      next.feed.Dry ∧ ¬ next.drawn ≠ source.drawn := by
    intro sizes values drawn
    have kept := source.draw_all_of_dry sizes dry
    rw [drawn] at kept
    exact ⟨kept.1, fun more => absurd (kept.2 more) (by simp)⟩
  cases draws with
  | idle => exact ⟨dry, fun more => absurd rfl more⟩
  | ranDry fault sizes next ranDry drawn =>
      have kept := source.draw_all_of_dry sizes dry
      rw [drawn] at kept
      exact ⟨kept.1, fun _ => ⟨fault, rfl, ranDry⟩⟩
  | unwritable fault sizes values next _ _ drawn =>
      exact ⟨(asked sizes values drawn).1, fun more => absurd more (asked sizes values drawn).2⟩
  | recorded record sizes next drawn =>
      exact ⟨(asked sizes _ drawn).1, fun more => absurd more (asked sizes _ drawn).2⟩

end Session

end DiceRoller
