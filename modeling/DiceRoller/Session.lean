import DiceRoller.Journal.Logger
import DiceRoller.Service
import DiceRoller.Settings.Basic
import DiceRoller.Tool

/-!
A session with the server: an environment, settings that are loaded once and
kept, a logger, and the source that rolls draw from. Each step gives a reply,
with the lines that the logger wrote for it, and the next state; a step that
fails leaves the session open.
-/

namespace DiceRoller.Session

structure State where
  environment : Environment
  cached : Option Settings
  logger : Logger
  /-- The chosen source, if one is chosen. -/
  source : Option Source
  /-- The source that stands in while none is chosen. -/
  fallback : Source

def initial (fallback : Source) : State :=
  ⟨[], none, .quiet, none, fallback⟩

inductive LevelChoice where
  | named (name : String)
  | numbered (level : Int)
  deriving DecidableEq, Repr

inductive Step where
  | setVariable (name value : String)
  | unsetVariable (name : String)
  | getSettings
  | reloadSettings
  | setUpLogging (level : Option LevelChoice)
  | run
  | chooseSource (source : Option Source)
  | parse (limits : Limits) (text : String)
  | rollText (text : String)
  | rollDice (text : String)
  | callTool (name : String) (argument : Option Given)

/-- A call of a tool as it comes in. -/
def Step.call (name : String) (arguments : Tool.Arguments) : Step :=
  .callTool name (Tool.argumentOf arguments)

inductive Answer where
  | done
  | settings (settings : Settings)
  | logger (logger : Logger)
  | running (transport : Transport) (logger : Logger)
  | expression (expression : Expression)
  | record (record : Record)

inductive Fault where
  | unread (error : ReadError)
  | refused (message : String)
  | ranDry
  | invalid (faults : List FieldFault)
  | tool (fault : Tool.Fault)

/-- One message for each thing that is wrong. -/
def Fault.messages : Fault → List String
  | unread error => [error.message]
  | refused message => [message]
  | ranDry => [RollFault.ranDry.message]
  | invalid faults => faults.map FieldFault.text
  | tool (.invalid faults) => faults.map FieldFault.text
  | tool fault => fault.message?.toList

structure Reply where
  answer : Except Fault Answer
  lines : List String
  /-- How often a scripted source was asked since it was chosen. -/
  drawn : Option Nat

/-- What a step does: its answer, what it journals, and the state after it. -/
structure Effect where
  answer : Except Fault Answer
  entries : List Entry
  state : State

namespace State

def current (state : State) : Source :=
  state.source.getD state.fallback

def replaceCurrent (state : State) (source : Source) : State :=
  match state.source with
  | some _ => { state with source := some source }
  | none => { state with fallback := source }

/-- A load that fails keeps what was cached. -/
def reload (state : State) : Except (List FieldFault) Settings × State :=
  match Settings.ofEnvironment state.environment with
  | .ok settings => (.ok settings, { state with cached := some settings })
  | .error faults => (.error faults, state)

def load (state : State) : Except (List FieldFault) Settings × State :=
  match state.cached with
  | some settings => (.ok settings, state)
  | none => state.reload

def setUpLogging (state : State) (level : Int) : State :=
  { state with logger := state.logger.setUp level }

def drawn (state : State) : Option Nat :=
  match state.source with
  | some source => if source.isScripted then some source.drawn else none
  | none => none

end State

def levelRank : Option LevelChoice → Except Fault Int
  | none => .ok Level.info.rank
  | some (.numbered level) => .ok level
  | some (.named name) =>
      match Level.rankOfName? name with
      | some rank => .ok rank
      | none => .error (.refused ("Unknown level: " ++ Text.quoted name))

def settingsAnswer : Except (List FieldFault) Settings × State → Effect
  | (.ok settings, state) => ⟨.ok (.settings settings), [], state⟩
  | (.error faults, state) => ⟨.error (.invalid faults), [], state⟩

def setUpLogging (level : Option LevelChoice) (state : State) : Effect :=
  match levelRank level with
  | .ok rank =>
      let next := state.setUpLogging rank
      ⟨.ok (.logger next.logger), [], next⟩
  | .error fault => ⟨.error fault, [], state⟩

def run (state : State) : Effect :=
  match state.load with
  | (.ok settings, loaded) =>
      let next := loaded.setUpLogging settings.level.rank
      ⟨.ok (.running settings.transport next.logger), [], next⟩
  | (.error faults, next) => ⟨.error (.invalid faults), [], next⟩

def parse (limits : Limits) (text : String) (state : State) : Effect :=
  match Expression.read limits text with
  | .ok expression => ⟨.ok (.expression expression), [.parsed text expression], state⟩
  | .error error => ⟨.error (.unread error), [], state⟩

/-- A roll from the current source, its faults told by `fault`. -/
def rollWith (limits : Limits) (fault : RollFault → Fault) (text : String) (state : State) :
    Effect :=
  let served := Service.serve limits text state.current
  let answer := match served.outcome with
    | .ok record => .ok (.record record)
    | .error failure => .error (fault failure)
  ⟨answer, served.entries, state.replaceCurrent served.source⟩

def plainFault : RollFault → Fault
  | .unread error => .unread error
  | .ranDry => .ranDry
  | .unwritable => .refused RollFault.unwritable.message

/-- The tool hides the kind of a reading fault and keeps its text. -/
def toolFault : RollFault → Fault
  | .unread error => .refused error.message
  | .ranDry => .ranDry
  | .unwritable => .refused RollFault.unwritable.message

def rollText (text : String) (state : State) : Effect :=
  rollWith .unlimited plainFault text state

def rollDice (text : String) (state : State) : Effect :=
  match state.load with
  | (.ok settings, loaded) => rollWith settings.limits toolFault text loaded
  | (.error faults, next) => ⟨.error (.invalid faults), [], next⟩

def wrapped : Fault → Tool.Fault
  | .unread error => .failed error.message
  | .refused message => .failed message
  | .ranDry => .failed RollFault.ranDry.message
  | .invalid faults => .invalid faults
  | .tool fault => fault

def callTool (name : String) (argument : Option Given) (state : State) : Effect :=
  if name = Tool.name then
    match Tool.checkArgument argument with
    | .error faults => ⟨.error (.tool (.invalid faults)), [], state⟩
    | .ok text =>
        let effect := rollDice text state
        match effect.answer with
        | .ok _ => effect
        | .error fault => { effect with answer := .error (.tool (wrapped fault)) }
  else ⟨.error (.tool (.unknownTool name)), [], state⟩

def perform : Step → State → Effect
  | .setVariable name value, state =>
      ⟨.ok .done, [], { state with environment := state.environment.assign name value }⟩
  | .unsetVariable name, state =>
      ⟨.ok .done, [], { state with environment := state.environment.erase name }⟩
  | .getSettings, state => settingsAnswer state.load
  | .reloadSettings, state => settingsAnswer state.reload
  | .setUpLogging level, state => setUpLogging level state
  | .run, state => run state
  | .chooseSource source, state => ⟨.ok .done, [], { state with source := source }⟩
  | .parse limits text, state => parse limits text state
  | .rollText text, state => rollText text state
  | .rollDice text, state => rollDice text state
  | .callTool name argument, state => callTool name argument state

-- No step both journals and changes the logger, so the logger after it may write.
def step (step : Step) (state : State) : Reply × State :=
  let effect := perform step state
  (⟨effect.answer, effect.state.logger.lines effect.entries, effect.state.drawn⟩, effect.state)

def replies : List Step → State → List Reply
  | [], _ => []
  | first :: rest, state =>
      let (reply, next) := step first state
      reply :: replies rest next

end DiceRoller.Session
