import DiceRoller.Proofs.Session.Drawing

/-!
The dice of a session. From the step on that chooses a scripted source, the values that the session
has drawn are the dice of its records, in the order of the steps: none is lost, none is taken twice
and none changes its place. The dice of a roll that could not be written stand among them, and once
the source has run dry no roll is answered a die.
-/

namespace DiceRoller.Session

def after (steps : List Step) (state : State) : State :=
  steps.foldl (fun now next => (step next now).2) state

def reported (steps : List Step) (state : State) : Option Nat :=
  (replies steps state).getLast?.bind Reply.drawn

theorem reported_cons (first : Step) (rest : List Step) (state : State) :
    reported (first :: rest) state = (after (first :: rest) state).drawn := by
  induction rest generalizing first state with
  | nil => rfl
  | cons second rest ih =>
      have later := ih second (step first state).2
      unfold reported at later ⊢
      simp only [replies] at later ⊢
      rw [List.getLast?_cons_cons, later]
      rfl

/-- Each answer reports what was drawn before and all dice of the blocks up to its own. -/
def Counts (before : Nat) (answers : List Reply) (blocks : List (List Int)) : Prop :=
  ∀ place reply, answers[place]? = some reply →
    reply.drawn = some (before + (blocks.take (place + 1)).flatten.length)

theorem counts_cons (before : Nat) (reply : Reply) (answers : List Reply) (block : List Int)
    (blocks : List (List Int)) (here : reply.drawn = some (before + block.length))
    (behind : Counts (before + block.length) answers blocks) :
    Counts before (reply :: answers) (block :: blocks) := by
  intro place found located
  cases place with
  | zero =>
      obtain rfl : reply = found := by simpa using located
      simpa using here
  | succ place =>
      rw [behind place found (by simpa using located)]
      simp [Nat.add_assoc]

/-- As long as the source does not run dry, a session takes block after block from it. -/
theorem replies_take (steps : List Step) (kept : ∀ step ∈ steps, step.choosesSource = false)
    (state : State) (source : Source) (chosen : state.source = some source)
    (scripted : source.isScripted = true)
    (answered : ∀ reply ∈ replies steps state, ¬ reply.RanDry) :
    ∃ blocks next, List.Forall₂ Reply.Drew (replies steps state) blocks ∧
      Counts source.drawn (replies steps state) blocks ∧
      source.Takes blocks.flatten next ∧ (after steps state).source = some next := by
  induction steps generalizing state source with
  | nil =>
      exact ⟨[], source, .nil, fun place reply found => absurd found (by simp [replies]),
        source.takes_nothing scripted, chosen⟩
  | cons first rest ih =>
      obtain ⟨keptFirst, keptRest⟩ := List.forall_mem_cons.mp kept
      obtain ⟨answeredFirst, answeredRest⟩ := List.forall_mem_cons.mp answered
      obtain ⟨middle, chosenNext, draws⟩ := perform_draws first keptFirst state source chosen
      obtain ⟨block, drew, takes⟩ :=
        draws_takes (step first state).1 source middle draws scripted answeredFirst
      obtain ⟨blocks, next, drewRest, counts, takesRest, chosenLast⟩ :=
        ih keptRest (step first state).2 middle chosenNext takes.scripted answeredRest
      have drawn : (step first state).1.drawn = some (source.drawn + block.length) := by
        rw [← takes.drawn]
        exact State.drawn_of_scripted _ middle chosenNext takes.scripted
      rw [takes.drawn] at counts
      exact ⟨block :: blocks, next, .cons drew drewRest, counts_cons _ _ _ _ _ drawn counts,
        source.takes_append middle next block blocks.flatten takes takesRest, chosenLast⟩

theorem after_of_dry (steps : List Step) (kept : ∀ step ∈ steps, step.choosesSource = false)
    (state : State) (source : Source) (chosen : state.source = some source)
    (dry : source.feed.Dry) :
    ∃ next, (after steps state).source = some next ∧ next.feed.Dry := by
  induction steps generalizing state source with
  | nil => exact ⟨source, chosen, dry⟩
  | cons first rest ih =>
      obtain ⟨keptFirst, keptRest⟩ := List.forall_mem_cons.mp kept
      obtain ⟨middle, chosenNext, draws⟩ := perform_draws first keptFirst state source chosen
      have left := (draws_of_dry (step first state).1 source middle draws dry).1
      exact ih keptRest (step first state).2 middle chosenNext left

theorem after_ran_dry (steps : List Step) (kept : ∀ step ∈ steps, step.choosesSource = false)
    (state : State) (source : Source) (chosen : state.source = some source)
    (scripted : source.isScripted = true)
    (found : ∃ reply ∈ replies steps state, reply.RanDry) :
    ∃ next, (after steps state).source = some next ∧ next.feed.Dry := by
  induction steps generalizing state source with
  | nil => simp [replies] at found
  | cons first rest ih =>
      obtain ⟨keptFirst, keptRest⟩ := List.forall_mem_cons.mp kept
      obtain ⟨middle, chosenNext, draws⟩ := perform_draws first keptFirst state source chosen
      by_cases here : (step first state).1.RanDry
      · have dry := draws_ran_dry (step first state).1 source middle draws scripted here
        exact after_of_dry rest keptRest (step first state).2 middle chosenNext dry
      · obtain ⟨block, -, takes⟩ :=
          draws_takes (step first state).1 source middle draws scripted here
        have later : ∃ reply ∈ replies rest (step first state).2, reply.RanDry := by
          obtain ⟨reply, member, ranDry⟩ := found
          rcases List.mem_cons.mp member with rfl | behind
          · exact absurd ranDry here
          · exact ⟨reply, behind, ranDry⟩
        exact ih keptRest (step first state).2 middle chosenNext takes.scripted later

def withSource (source : Source) (steps : List Step) : List Step :=
  .chooseSource (some source) :: steps

theorem drew_exactly (answers : List Reply) (blocks : List (List Int))
    (drew : List.Forall₂ Reply.Drew answers blocks)
    (written : ∀ reply ∈ answers, ¬ reply.Unwritable) :
    answers.flatMap Reply.dice = blocks.flatten := by
  induction drew with
  | nil => rfl
  | cons here _ ih =>
      obtain ⟨writtenHere, writtenBehind⟩ := List.forall_mem_cons.mp written
      have same := here.resolve_left writtenHere
      rw [List.flatMap_cons, List.flatten_cons, same, ih writtenBehind]

/-- As long as a scripted source does not run dry, the values that it has answered are the dice of
the records of the session in order, save for the dice of rolls that could not be written; of those
the counts that the steps report tell how many they are. A step that finds the source dry reports no
dice, and so does every later step that asks it. -/
theorem session_dice (state : State) (source : Source) (scripted : source.isScripted = true)
    (fresh : source.asked = []) (steps : List Step)
    (kept : ∀ step ∈ steps, step.choosesSource = false) :
    ((∀ reply ∈ replies (withSource source steps) state, ¬ reply.RanDry) →
      ∃ blocks, List.Forall₂ Reply.Drew (replies (withSource source steps) state) blocks ∧
        Counts 0 (replies (withSource source steps) state) blocks ∧
        reported (withSource source steps) state = some blocks.flatten.length ∧
        source.feed.first blocks.flatten.length = blocks.flatten ∧
        ((∀ reply ∈ replies (withSource source steps) state, ¬ reply.Unwritable) →
          (replies (withSource source steps) state).flatMap Reply.dice = blocks.flatten)) ∧
    (∀ reply ∈ replies (withSource source steps) state, reply.RanDry → reply.dice = []) ∧
    ∀ last : Step, last.choosesSource = false →
      (∃ reply ∈ replies (withSource source steps) state, reply.RanDry) →
      (step last (after (withSource source steps) state)).1.drawn ≠
        reported (withSource source steps) state →
      (step last (after (withSource source steps) state)).1.RanDry := by
  have opened : ((step (.chooseSource (some source)) state).2).source = some source := rfl
  refine ⟨fun answered => ?_, ?_, fun last keptLast found asked => ?_⟩
  · obtain ⟨-, answeredSteps⟩ := List.forall_mem_cons.mp answered
    obtain ⟨blocks, next, drew, counts, takes, chosen⟩ :=
      replies_take steps kept _ source opened scripted answeredSteps
    have none : source.drawn = 0 := by
      rw [Source.drawn, fresh, List.length_nil]
    have opening : (step (.chooseSource (some source)) state).1.drawn = some 0 := by
      rw [← none]
      exact State.drawn_of_scripted _ source opened scripted
    rw [none] at counts
    have drewAll : List.Forall₂ Reply.Drew (replies (withSource source steps) state)
        ([] :: blocks) := .cons (Or.inr rfl) drew
    refine ⟨[] :: blocks, drewAll, counts_cons 0 _ _ [] blocks opening counts, ?_, ?_,
      drew_exactly _ _ drewAll⟩
    · have count : next.drawn = blocks.flatten.length := by
        rw [takes.drawn, none, Nat.zero_add]
      rw [withSource, reported_cons, List.flatten_cons, List.nil_append, ← count]
      exact State.drawn_of_scripted _ next chosen takes.scripted
    · have whole := takes.follows 0
      rw [next.feed.first_zero, Nat.add_zero, List.append_nil] at whole
      exact whole
  · rintro reply - ⟨fault, failed, -⟩
    simp only [Reply.dice, failed]
  · have foundLater : ∃ reply ∈ replies steps (step (.chooseSource (some source)) state).2,
        reply.RanDry := by
      obtain ⟨reply, member, ranDry⟩ := found
      rcases List.mem_cons.mp member with rfl | behind
      · obtain ⟨fault, failed, -⟩ := ranDry
        cases failed
      · exact ⟨reply, behind, ranDry⟩
    obtain ⟨now, chosen, dry⟩ := after_ran_dry steps kept _ source opened scripted foundLater
    obtain ⟨next, chosenNext, draws⟩ := perform_draws last keptLast _ now chosen
    obtain ⟨dryNext, answered⟩ := draws_of_dry
      (step last (after (withSource source steps) state)).1 now next draws dry
    refine answered fun same => asked ?_
    rw [withSource, reported_cons]
    -- Both counts are those of the source, before the last step and behind it.
    have before := State.drawn_of_scripted _ now chosen dry.1
    have behind := State.drawn_of_scripted _ next chosenNext dryNext.1
    exact (behind.trans (congrArg some same)).trans before.symm

theorem session_dice_three_ways :
    (reported (withSource (.script none [4, 9, 17, 3])
        [.rollText "d6", .rollDice "1d6-d4", .callTool Tool.name (some (.text "d20+1 adv"))])
        (initial (.cycle none [1])) = some 4 ∧
      (replies (withSource (.script none [4, 9, 17, 3])
        [.rollText "d6", .rollDice "1d6-d4", .callTool Tool.name (some (.text "d20+1 adv"))])
        (initial (.cycle none [1]))).flatMap Reply.dice = [4, 9, 17, 3]) ∧
    (step (.rollText "d4") (after (withSource (.script none [4]) [.rollDice "2d6"])
      (initial (.cycle none [1])))).1.RanDry := by
  constructor
  · have count : reported (withSource (.script none [4, 9, 17, 3])
        [.rollText "d6", .rollDice "1d6-d4", .callTool Tool.name (some (.text "d20+1 adv"))])
        (initial (.cycle none [1])) = some 4 := by
      decide +kernel
    obtain ⟨blocks, -, -, drawn, whole, recorded⟩ := (session_dice (initial (.cycle none [1]))
      (.script none [4, 9, 17, 3]) rfl rfl
      [.rollText "d6", .rollDice "1d6-d4", .callTool Tool.name (some (.text "d20+1 adv"))]
      (by decide)).1 (by decide +kernel)
    rw [count] at drawn
    rw [← Option.some.inj drawn] at whole
    exact ⟨count, (recorded (by decide +kernel)).trans whole.symm⟩
  · exact (session_dice (initial (.cycle none [1])) (.script none [4]) rfl rfl [.rollDice "2d6"]
      (by decide)).2.2 (.rollText "d4") rfl (by decide +kernel) (by decide +kernel)

theorem two_dice_unwritten (first second : Int)
    (long : Numeral.isWritable (first + second) = false) :
    replies (withSource (.script none [first, second]) [.rollText "2d6"])
        (initial (.cycle none [1])) =
      [⟨.ok .done, [], some 0⟩,
        ⟨.error (.refused RollFault.unwritable.message), [], some 2⟩] := by
  let pool : Term := .pool ⟨2, 6, none, by decide, by decide⟩
  have read : Expression.read .unlimited "2d6" = .ok ⟨[pool], none⟩ := by decide +kernel
  have resolved : Expression.resolve ⟨[pool], none⟩ (.script none [first, second]) =
      ⟨[.dice ⟨2, 6, none, by decide, by decide⟩ [first, second] [0, 1] (first + (second + 0))],
        true, ⟨Source.scriptedLabel, .script [], [6, 6]⟩⟩ := rfl
  have unwritable : Service.fault?
      (Expression.resolve ⟨[pool], none⟩ (.script none [first, second])) = some .unwritable := by
    rw [resolved, Int.add_zero]
    simp only [Service.fault?, Resolution.isWritable, Detail.isWritable, Detail.shown,
      List.all_cons, long, Bool.false_and, Bool.not_true, Bool.false_eq_true, if_false]
  have outcome := Service.serve_outcome .unlimited "2d6" (.script none [first, second]) _ read
  have source := Service.serve_source .unlimited "2d6" (.script none [first, second]) _ read
  rw [unwritable, Option.elim_some] at outcome
  rw [resolved] at source
  have rolled : rollText "2d6"
      { initial (.cycle none [1]) with source := some (.script none [first, second]) } =
      ⟨.error (.refused RollFault.unwritable.message),
        (Service.serve .unlimited "2d6" (.script none [first, second])).entries,
        { initial (.cycle none [1]) with
          source := some ⟨Source.scriptedLabel, .script [], [6, 6]⟩ }⟩ := by
    simp only [rollText, rollWith, State.current, Option.getD_some, outcome, source]
    rfl
  simp only [withSource, replies, step, perform, rolled]
  simp [State.drawn, Logger.lines, Logger.accepts, Logger.quiet, initial, Source.script,
    Source.isScripted, Feed.isScripted, Source.drawn]

/-- The sum of the dice is the smallest number that is too long. -/
theorem unwritten_dice_unrecorded :
    (∀ reply ∈ replies (withSource (.script none [10 ^ 4300 - 1, 1]) [.rollText "2d6"])
      (initial (.cycle none [1])), ¬ reply.RanDry) ∧
    reported (withSource (.script none [10 ^ 4300 - 1, 1]) [.rollText "2d6"])
      (initial (.cycle none [1])) = some 2 ∧
    (replies (withSource (.script none [10 ^ 4300 - 1, 1]) [.rollText "2d6"])
      (initial (.cycle none [1]))).flatMap Reply.dice ≠
        (Source.script none [10 ^ 4300 - 1, 1]).feed.first 2 := by
  have long : Numeral.isWritable (10 ^ 4300 - 1 + 1) = false := by decide +kernel
  rw [reported, two_dice_unwritten _ _ long]
  refine ⟨by simp [Reply.RanDry, Reply.Failed, Fault.RanDry], rfl, ?_⟩
  exact fun same => absurd (congrArg List.length same) (by decide)

end DiceRoller.Session
