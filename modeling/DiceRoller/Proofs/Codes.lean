import DiceRoller.Proofs.Expression.Conversion
import DiceRoller.Proofs.Serving
import DiceRoller.Proofs.Session.Asking

/-!
Codes of rejections. Every message of a rejected notation opens with a code in brackets, save for
those about a number that cannot be converted: an overlong one of the notation, or a limit with too
many digits to be told. A request to the tool is answered with a record or with a code, unless that
is its fault or the numbers of the roll are too long to be written.
-/

namespace DiceRoller

namespace ReadError

def codes : List String :=
  ["[EMPTY_EXPRESSION]", "[CONFLICTING_MODE]", "[INVALID_TERM]", "[NEGATIVE_DICE_POOL]",
    "[LIMIT_EXCEEDED]"]

def Coded (message : String) : Prop :=
  ∃ code ∈ codes, code.toList <+: message.toList

def code? : ReadError → Option String
  | blank | noTerms => some "[EMPTY_EXPRESSION]"
  | conflictingModes => some "[CONFLICTING_MODE]"
  | malformed _ | noSides _ => some "[INVALID_TERM]"
  | subtractedPool _ => some "[NEGATIVE_DICE_POOL]"
  | tooManyTerms .. | longNumber _ | aboveLimit .. => some "[LIMIT_EXCEEDED]"
  | unreadableNumber _ | unwritableLimit => none

theorem message_opens (error : ReadError) (code : String) (known : error.code? = some code) :
    code.toList <+: error.message.toList := by
  cases error
  case unreadableNumber | unwritableLimit => cases known
  -- Every message is a fixed opening, the code in front, and then what the fault names.
  all_goals
    obtain rfl := Option.some.inj known
    unfold message
    simp only [String.toList_append, List.append_assoc]
    exact List.IsPrefix.trans (by decide) (List.prefix_append _ _)

theorem not_coded_of_exceeds (text : String)
    (exceeds : "Exceeds the limit (".toList <+: text.toList) : ¬ Coded text := by
  have brackets : ∀ code ∈ codes, code.toList.head? = some '[' := by
    decide
  have opening : "Exceeds the limit (".toList.head? = some 'E' := by
    decide
  obtain ⟨rest, whole⟩ := exceeds
  rintro ⟨code, member, tail, same⟩
  -- Two openings of one text would have the same first character.
  have heads := congrArg List.head? (whole.trans same.symm)
  rw [List.head?_append, List.head?_append, brackets code member, opening] at heads
  exact absurd (Option.some.inj heads) (by decide)

theorem unreadable_opens (digits : Nat) :
    "Exceeds the limit (".toList <+: (Numeral.unreadable digits).toList := by
  unfold Numeral.unreadable
  simp only [String.toList_append, List.append_assoc]
  exact List.prefix_append _ _

theorem unwritable_opens : "Exceeds the limit (".toList <+: Numeral.unwritable.toList := by
  unfold Numeral.unwritable
  simp only [String.toList_append, List.append_assoc]
  exact List.prefix_append _ _

theorem unreadable_not_coded (digits : Nat) : ¬ Coded (Numeral.unreadable digits) :=
  not_coded_of_exceeds _ (unreadable_opens digits)

theorem unwritable_not_coded : ¬ Coded Numeral.unwritable :=
  not_coded_of_exceeds _ unwritable_opens

theorem coded_iff (error : ReadError) :
    Coded error.message ↔ error.rejection ≠ .unreadableNumber := by
  cases coded : error.code? with
  | none =>
      cases error with
      | unreadableNumber digits =>
          exact iff_of_false (unreadable_not_coded digits) (not_not_intro rfl)
      | unwritableLimit => exact iff_of_false unwritable_not_coded (not_not_intro rfl)
      | _ => cases coded
  | some code =>
      have opens := message_opens error code coded
      have known : code ∈ codes ∧ error.rejection ≠ .unreadableNumber := by
        cases error <;> cases coded <;> exact ⟨by decide, by intro same; cases same⟩
      exact iff_of_true ⟨code, known.1, opens⟩ known.2

end ReadError

namespace Session

def Effect.Coded (effect : Effect) : Prop :=
  (∃ record, effect.answer = .ok (.record record)) ∨
    ∃ message, effect.answer = .error (.refused message) ∧ ReadError.Coded message

theorem roll_dice_loaded (state : State) (settings : Settings) (text : String)
    (cached : state.cached = some settings) :
    rollDice text state = rollWith settings.limits toolFault text state :=
  perform_cached state (.rollDice text) settings cached

theorem roll_dice_of_error (state : State) (settings : Settings) (text : String) (error : ReadError)
    (cached : state.cached = some settings)
    (refused : Expression.read settings.limits text = .error error) :
    (rollDice text state).Coded ↔ error.rejection ≠ .unreadableNumber := by
  rw [roll_dice_loaded state settings text cached, ← error.coded_iff]
  simp [Effect.Coded, rollWith, Service.serve_unread _ _ _ _ refused, toolFault]

theorem roll_dice_of_expression (state : State) (settings : Settings) (text : String)
    (expression : Expression) (cached : state.cached = some settings)
    (endless : state.current.feed.Endless)
    (read : Expression.read settings.limits text = .ok expression) :
    (rollDice text state).Coded ↔ (expression.resolve state.current).isWritable = true := by
  rw [roll_dice_loaded state settings text cached]
  simp only [Effect.Coded, rollWith, Service.serve_outcome _ _ _ _ read,
    Service.fault_of_endless expression _ endless]
  cases (expression.resolve state.current).isWritable with
  | true => simp
  | false => simp [toolFault, RollFault.message, ReadError.unwritable_not_coded]

end Session

namespace Expression

/-- The first fault of a notation is a number that cannot be converted. -/
def Unconverted (limits : Limits) (text : String) : Prop :=
  Overlong limits text ∨ Untold limits text

theorem rejection_iff (limits : Limits) (text : String) (error : ReadError)
    (refused : Expression.read limits text = .error error) :
    error.rejection = .unreadableNumber ↔ Unconverted limits text := by
  rw [Unconverted, ← read_unreadable_iff, ← read_untold_iff, refused]
  cases error <;> simp [ReadError.rejection]

theorem not_unconverted_of_read (limits : Limits) (text : String) (expression : Expression)
    (read : Expression.read limits text = .ok expression) : ¬ Unconverted limits text := by
  rw [Unconverted, ← read_unreadable_iff, ← read_untold_iff, read]
  simp

theorem refused_of_unconverted (limits : Limits) (text : String)
    (unconverted : Unconverted limits text) : ∃ error,
      Expression.read limits text = .error error ∧ error.rejection = .unreadableNumber := by
  rcases unconverted with overlong | untold
  · obtain ⟨length, refused⟩ := (read_unreadable_iff limits text).mpr overlong
    exact ⟨_, refused, rfl⟩
  · exact ⟨_, (read_untold_iff limits text).mpr untold, rfl⟩

end Expression

/-- Every rejection carries a code, save for those with a number that cannot be converted as their
first fault: an overlong one of the notation, or a limit that cannot be told. And from a source
that always answers the tool gives a record or a code, unless that is the fault of the notation or
some number of the roll is too long to be written. -/
theorem rejections_coded_iff (text : String) :
    (∀ limits,
      (∀ error, Expression.read limits text = .error error →
        error.rejection ≠ .unreadableNumber ∧ ReadError.Coded error.message) ↔
      ¬ Expression.Unconverted limits text) ∧
    ∀ (state : Session.State) (settings : Settings), state.cached = some settings →
      state.current.feed.Endless →
      ((Session.rollDice text state).Coded ↔
        ¬ Expression.Unconverted settings.limits text ∧
          ∀ expression, Expression.read settings.limits text = .ok expression →
            (expression.resolve state.current).isWritable = true) := by
  constructor
  · intro limits
    constructor
    · intro coded unconverted
      obtain ⟨error, refused, unreadable⟩ :=
        Expression.refused_of_unconverted limits text unconverted
      exact (coded error refused).1 unreadable
    · intro ordinary error refused
      have other := mt (Expression.rejection_iff limits text error refused).mp ordinary
      exact ⟨other, error.coded_iff.mpr other⟩
  · intro state settings cached endless
    cases read : Expression.read settings.limits text with
    | error error =>
        rw [Session.roll_dice_of_error state settings text error cached read, ne_eq,
          Expression.rejection_iff settings.limits text error read]
        simp
    | ok expression =>
        have ordinary :=
          Expression.not_unconverted_of_read settings.limits text expression read
        rw [Session.roll_dice_of_expression state settings text expression cached endless read]
        simp [ordinary]

theorem rejections_coded_subtracted :
    (Session.rollDice "1d6-d4"
      { Session.initial (.cycle none [1]) with cached := some .standard }).Coded := by
  have refused : Expression.read Settings.standard.limits "1d6-d4" =
      .error (.subtractedPool "-d4") := by
    decide +kernel
  have ordinary : ¬ Expression.Unconverted Settings.standard.limits "1d6-d4" := by
    rw [← Expression.rejection_iff _ _ _ refused]
    decide
  apply ((rejections_coded_iff "1d6-d4").2
    { Session.initial (.cycle none [1]) with cached := some .standard } .standard rfl
    (Feed.cycle_endless 1 [] [1])).mpr
  refine ⟨ordinary, fun expression read => ?_⟩
  rw [refused] at read
  cases read

/-- The number one behind as many zeros as a conversion takes digits. -/
theorem leading_zeros_not_coded :
    (∃ error, Expression.read .unlimited (String.ofList (List.replicate 4300 '0' ++ ['1'])) =
      .error error ∧ error.rejection = .unreadableNumber ∧ ¬ ReadError.Coded error.message) ∧
    ¬ (Session.rollDice (String.ofList (List.replicate 4300 '0' ++ ['1']))
      { Session.initial (.cycle none [1]) with cached := some .standard }).Coded := by
  obtain ⟨spelled, overlong⟩ := Numeral.one_overlong 4300 (by decide)
  have refused : ∀ limits : Limits, (∀ bound ∈ limits.terms, 1 ≤ bound) →
      ∃ length, Expression.read limits (String.ofList (List.replicate 4300 '0' ++ ['1'])) =
        .error (.unreadableNumber length) := fun limits one =>
    (Expression.read_unreadable_iff limits _).mpr
      (Expression.overlong_of_digits limits _ spelled overlong one)
  constructor
  · obtain ⟨length, here⟩ := refused .unlimited (by simp [Limits.unlimited])
    exact ⟨_, here, rfl, ReadError.unreadable_not_coded length⟩
  · obtain ⟨length, here⟩ := refused Settings.standard.limits (by decide)
    rw [Session.roll_dice_of_error _ .standard _ _ rfl here]
    exact fun other => other rfl

end DiceRoller
