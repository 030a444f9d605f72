import DiceRoller.Expression.Reader
import DiceRoller.Proofs.Expression.Grammar
import DiceRoller.Proofs.Expression.Tail
import DiceRoller.Proofs.Outcome
import DiceRoller.Proofs.Text.Words

/-!
What is read, stage by stage: a number, a selector, a pool, an item, a run, a row of runs, a
notation. Each stage accepts exactly what the grammar allows, less what is beyond the limits or
has too many digits to be converted, and it answers what the grammar says it stands for.
-/

namespace DiceRoller

def Term.Within (limits : Limits) : Term → Prop
  | .modifier _ => True
  | .pool dice => (∀ bound ∈ limits.diceCount, (dice.count : Int) ≤ bound) ∧
      ∀ bound ∈ limits.dieSides, (dice.sides : Int) ≤ bound

def Expression.Within (limits : Limits) (expression : Expression) : Prop :=
  (∀ bound ∈ limits.terms, (expression.terms.length : Int) ≤ bound) ∧
    ∀ term ∈ expression.terms, term.Within limits

def Numeral.Readable (digits : List Char) : Prop :=
  Numeral.Short digits ∧ digits.length ≤ Numeral.mostDigits

/-- What is read for an item behind its sign. -/
structure SignedItem.Reads (limits : Limits) (signed : SignedItem) (term : Term) : Prop where
  convertible : ∀ digits ∈ signed.item.numbers, digits.length ≤ Numeral.mostDigits
  admissible : signed.Admissible
  means : signed.Means term
  within : term.Within limits

theorem Numeral.readable_toDigits (number : Nat) (small : number < 10 ^ 9) :
    Readable (Nat.toDigits 10 number) :=
  ⟨(short_toDigits_iff number).mpr small, toDigits_length_le number small⟩

theorem Limits.exceeded_none_iff (limit : Option Int) (value : Nat) :
    Limits.exceeded? limit value = none ↔ ∀ bound ∈ limit, (value : Int) ≤ bound := by
  simp [Limits.exceeded?, Option.filter_eq_none_iff]

theorem Limits.exceeded_some_iff (limit : Option Int) (value : Nat) (bound : Int) :
    Limits.exceeded? limit value = some bound ↔ bound ∈ limit ∧ bound < value := by
  simp [Limits.exceeded?, Option.filter_eq_some_iff]

/-- The limit is exceeded, and it has too many digits to be told. -/
def Limits.Untold (limit : Option Int) (value : Nat) : Prop :=
  ∃ bound ∈ limit, bound < value ∧ Numeral.isWritable bound = false

namespace ReadError
variable (tell : Numeral.Writable → ReadError)

theorem beyond_writable (limit : Numeral.Writable) : beyond limit.val tell = tell limit :=
  dif_pos limit.property

theorem beyond_unwritable (bound : Int) (long : Numeral.isWritable bound = false) :
    beyond bound tell = .unwritableLimit :=
  dif_neg (by simp [long])

theorem beyond_cases (bound : Int) :
    (∃ limit : Numeral.Writable, bound = limit.val ∧ beyond bound tell = tell limit) ∨
      Numeral.isWritable bound = false ∧ beyond bound tell = .unwritableLimit := by
  cases writable : Numeral.isWritable bound with
  | true => exact Or.inl ⟨⟨bound, writable⟩, rfl, beyond_writable tell ⟨bound, writable⟩⟩
  | false => exact Or.inr ⟨rfl, beyond_unwritable tell bound writable⟩

theorem beyond_untold_iff (limit : Option Int) (value : Nat)
    (tells : ∀ told, tell told ≠ .unwritableLimit) :
    (∃ bound, Limits.exceeded? limit value = some bound ∧ beyond bound tell = .unwritableLimit) ↔
      Limits.Untold limit value := by
  constructor
  · rintro ⟨bound, exceeded, untold⟩
    obtain ⟨member, above⟩ := (Limits.exceeded_some_iff limit value bound).mp exceeded
    rcases beyond_cases tell bound with ⟨told, -, same⟩ | ⟨long, -⟩
    · exact absurd (same.symm.trans untold) (tells told)
    · exact ⟨bound, member, above, long⟩
  · rintro ⟨bound, member, above, long⟩
    exact ⟨bound, (Limits.exceeded_some_iff limit value bound).mpr ⟨member, above⟩,
      beyond_unwritable tell bound long⟩

end ReadError

namespace Reader
open Outcome

theorem significant_few_iff (digits : List Char) :
    ¬ ReadError.mostSignificantDigits < (significant digits).length ↔ Numeral.Short digits := by
  rw [Numeral.short_iff_dropWhile]
  exact Nat.not_lt

theorem number_of_readable (run : String) (digits : List Char)
    (readable : Numeral.Readable digits) : number run digits = .ok (Numeral.value digits) := by
  unfold number
  rw [if_neg ((significant_few_iff digits).mpr readable.1), if_neg (Nat.not_lt.mpr readable.2)]
  rfl

theorem number_of_long (run : String) (digits : List Char) (long : ¬ Numeral.Short digits) :
    number run digits = .error (.longNumber run) := by
  unfold number
  rw [if_pos (Decidable.not_not.mp (mt (significant_few_iff digits).mp long))]

theorem number_ok_iff (run : String) (digits : List Char) (value : Nat) :
    number run digits = .ok value ↔ Numeral.Readable digits ∧ Numeral.value digits = value := by
  constructor
  · intro read
    unfold number at read
    split at read
    next => cases read
    next few =>
      split at read
      next => cases read
      next convertible =>
        cases read
        exact ⟨⟨(significant_few_iff digits).mp few, Nat.not_lt.mp convertible⟩, rfl⟩
  · rintro ⟨readable, rfl⟩
    exact number_of_readable run digits readable

theorem within_limit_ok_iff (measure : Measure) (value : Nat) (limit : Option Int) (run : String)
    (done : Unit) :
    withinLimit measure value limit run = .ok done ↔ ∀ bound ∈ limit, (value : Int) ≤ bound := by
  rw [← Limits.exceeded_none_iff]
  unfold withinLimit
  cases Limits.exceeded? limit value <;> simp

theorem selector_ok_iff (run : String) (spelling : Option SelectorSpelling)
    (found : Option Selector) :
    selector run spelling = .ok found ↔
      (∀ given ∈ spelling, Numeral.Readable given.size) ∧
        SelectorSpelling.Means spelling found := by
  cases spelling with
  | none =>
      simp only [selector, Except.ok.injEq, SelectorSpelling.Means]
      simp [eq_comm]
  | some given =>
      simp only [selector, bind_ok_iff, number_ok_iff, Option.mem_some_iff, forall_eq']
      constructor
      · rintro ⟨size, ⟨readable, rfl⟩, chosen⟩
        refine ⟨readable, ?_⟩
        split at chosen
        next positive =>
          rw [return_ok_iff] at chosen
          subst chosen
          exact ⟨rfl, rfl⟩
        next zero =>
          rw [return_ok_iff] at chosen
          subst chosen
          exact Nat.eq_zero_of_not_pos zero
      · rintro ⟨readable, means⟩
        refine ⟨_, ⟨readable, rfl⟩, ?_⟩
        cases found with
        | none =>
            have zero : Numeral.value given.size = 0 := means
            simp [zero, return_ok_iff]
        | some chosen =>
            obtain ⟨kind, size, positive⟩ := chosen
            obtain ⟨rfl, rfl⟩ := means
            simp [positive, return_ok_iff]

theorem counted_eq (given : Nat) : max given 1 = if given = 0 then 1 else given := by
  split <;> omega

theorem pool_ok_iff (limits : Limits) (run : String) (count sides : List Char)
    (spelling : Option SelectorSpelling) (found : Pool) :
    pool limits run count sides spelling = .ok found ↔
      Numeral.Readable count ∧ Numeral.Readable sides ∧
        (∀ given ∈ spelling, Numeral.Readable given.size) ∧ Numeral.value sides ≠ 0 ∧
        SignedItem.Means ⟨false, .dice count sides spelling⟩ (.pool found) ∧
        Term.Within limits (.pool found) := by
  simp only [pool, bind_ok_iff, number_ok_iff, counted_eq, SignedItem.Means, Term.Within]
  constructor
  · rintro ⟨given, ⟨countRead, rfl⟩, faces, ⟨sidesRead, rfl⟩, made⟩
    split at made
    next positive =>
      simp only [bind_ok_iff, within_limit_ok_iff, selector_ok_iff, return_ok_iff] at made
      obtain ⟨-, countWithin, -, sidesWithin, chosen, ⟨sizeRead, means⟩, rfl⟩ := made
      exact ⟨countRead, sidesRead, sizeRead, Nat.ne_of_gt positive, ⟨rfl, rfl, means⟩,
        countWithin, sidesWithin⟩
    next => exact absurd made (throw_not_ok _ _)
  · rintro ⟨countRead, sidesRead, sizeRead, faces, ⟨countEq, sidesEq, means⟩, countWithin,
      sidesWithin⟩
    refine ⟨_, ⟨countRead, rfl⟩, _, ⟨sidesRead, rfl⟩, ?_⟩
    rw [dif_pos (Nat.pos_of_ne_zero faces)]
    simp only [bind_ok_iff, within_limit_ok_iff, selector_ok_iff, return_ok_iff]
    obtain ⟨foundCount, foundSides, chosen, countPos, sidesPos⟩ := found
    dsimp only at countEq sidesEq means countWithin sidesWithin
    subst countEq sidesEq
    exact ⟨(), countWithin, (), sidesWithin, chosen, ⟨sizeRead, means⟩, rfl⟩

theorem selector_error_iff (run : String) (spelling : Option SelectorSpelling)
    (error : ReadError) :
    selector run spelling = .error error ↔
      ∃ given ∈ spelling, number run given.size = .error error := by
  cases spelling with
  | none => simp [selector]
  | some given =>
      simp only [selector, bind_error_iff, Option.mem_some_iff, exists_eq_left']
      constructor
      · rintro (refused | ⟨size, -, refused⟩)
        · exact refused
        · split at refused
          · exact absurd refused (return_not_error _ _)
          · exact absurd refused (return_not_error _ _)
      · exact Or.inl

/-- What a pool can be refused for, in the order of the checks. -/
theorem pool_error_iff (limits : Limits) (run : String) (count sides : List Char)
    (spelling : Option SelectorSpelling) (error : ReadError) :
    pool limits run count sides spelling = .error error ↔
      number run count = .error error ∨ ∃ given, number run count = .ok given ∧
        (number run sides = .error error ∨ ∃ faces, number run sides = .ok faces ∧
          (faces = 0 ∧ error = .noSides run ∨ faces ≠ 0 ∧
            (withinLimit .diceCount (max given 1) limits.diceCount run = .error error ∨
              (∀ bound ∈ limits.diceCount, ((max given 1 : Nat) : Int) ≤ bound) ∧
              (withinLimit .dieSides faces limits.dieSides run = .error error ∨
                (∀ bound ∈ limits.dieSides, (faces : Int) ≤ bound) ∧
                ∃ spelled ∈ spelling, number run spelled.size = .error error)))) := by
  simp only [pool, bind_error_iff]
  -- Both sides ask for the same numbers first; they part at the check of the sides.
  refine or_congr_right (exists_congr fun given => and_congr_right fun _ =>
    or_congr_right (exists_congr fun faces => and_congr_right fun _ => ?_))
  by_cases none : faces = 0
  · subst none
    rw [dif_neg (Nat.lt_irrefl 0), throw_error_iff]
    simp [eq_comm]
  · rw [dif_pos (Nat.pos_of_ne_zero none)]
    simp only [bind_error_iff, within_limit_ok_iff, return_not_error, selector_error_iff, none,
      and_false, exists_false, or_false, ne_eq, not_false_iff, true_and, false_and, false_or,
      exists_const]

theorem item_flat_error_iff (limits : Limits) (run : String) (negative : Bool)
    (digits : List Char) (error : ReadError) :
    item limits run negative (.flat digits) = .error error ↔
      number run digits = .error error := by
  simp only [item, bind_error_iff, return_not_error, and_false, exists_false, or_false]

theorem item_subtracted (limits : Limits) (run : String) (count sides : List Char)
    (spelling : Option SelectorSpelling) :
    item limits run true (.dice count sides spelling) = .error (.subtractedPool run) :=
  rfl

theorem item_pool_error_iff (limits : Limits) (run : String) (count sides : List Char)
    (spelling : Option SelectorSpelling) (error : ReadError) :
    item limits run false (.dice count sides spelling) = .error error ↔
      pool limits run count sides spelling = .error error := by
  simp only [item, Bool.false_eq_true, if_false, bind_error_iff, return_not_error, and_false,
    exists_false, or_false]

theorem item_ok_iff (limits : Limits) (run : String) (negative : Bool) (given : Item)
    (term : Term) :
    item limits run negative given = .ok term ↔ SignedItem.Reads limits ⟨negative, given⟩ term := by
  cases given with
  | flat digits =>
      simp only [item, bind_ok_iff, number_ok_iff, return_ok_iff]
      constructor
      · rintro ⟨value, ⟨⟨short, convertible⟩, rfl⟩, rfl⟩
        refine ⟨?_, ⟨?_, trivial⟩, rfl, trivial⟩
        · simpa [Item.numbers] using convertible
        · simpa [Item.numbers] using short
      · rintro ⟨convertible, ⟨short, -⟩, means, -⟩
        have readable : Numeral.Readable digits :=
          ⟨short digits (by simp [Item.numbers]), convertible digits (by simp [Item.numbers])⟩
        refine ⟨_, ⟨readable, rfl⟩, ?_⟩
        cases term with
        | pool pool => exact means.elim
        | modifier value =>
            have same : value = _ := means
            rw [same]
  | dice count sides spelling =>
      have numbers := Item.forall_dice_numbers count sides spelling
      cases negative with
      | true =>
          rw [item_subtracted]
          refine iff_of_false (fun read => by cases read) ?_
          rintro ⟨-, ⟨-, positive, -⟩, -⟩
          exact Bool.noConfusion positive
      | false =>
          simp only [item, Bool.false_eq_true, if_false, bind_ok_iff, return_ok_iff, pool_ok_iff]
          constructor
          · rintro ⟨pool, ⟨countRead, sidesRead, sizeRead, faces, means, within⟩, rfl⟩
            refine ⟨?_, ⟨?_, rfl, faces⟩, means, within⟩
            · exact (numbers _).mpr ⟨countRead.2, sidesRead.2, fun given member =>
                (sizeRead given member).2⟩
            · exact (numbers _).mpr ⟨countRead.1, sidesRead.1, fun given member =>
                (sizeRead given member).1⟩
          · rintro ⟨convertible, ⟨short, -, faces⟩, means, within⟩
            obtain ⟨countLength, sidesLength, sizeLength⟩ := (numbers _).mp convertible
            obtain ⟨countShort, sidesShort, sizeShort⟩ := (numbers _).mp short
            cases term with
            | modifier value => exact means.elim
            | pool pool =>
                exact ⟨pool, ⟨⟨countShort, countLength⟩, ⟨sidesShort, sidesLength⟩,
                  fun given member => ⟨sizeShort given member, sizeLength given member⟩,
                  faces, means, within⟩, rfl⟩

theorem run_of_spells (limits : Limits) (chars : List Char) (signed : SignedItem)
    (spells : signed.Spells chars) :
    run limits chars = item limits (String.ofList chars) signed.negative signed.item := by
  obtain ⟨body, rfl, spelled⟩ := spells
  have found := (Item.of_chars_iff body signed.item).mpr spelled
  have sign : (signed.sign == '-') = signed.negative := by
    obtain ⟨negative, given⟩ := signed
    cases negative <;> rfl
  simp [run, found, sign]

theorem run_of_unspelled (limits : Limits) (chars : List Char) (isRun : Run.IsRun chars)
    (unspelled : ∀ signed : SignedItem, ¬ signed.Spells chars) :
    run limits chars = .error (.malformed (String.ofList chars)) := by
  obtain ⟨sign, body, rfl, opens, -⟩ := isRun
  have nothing : Item.ofChars? body = none := by
    rw [Option.eq_none_iff_forall_ne_some]
    intro given found
    have spelled := (Item.of_chars_iff body given).mp found
    rcases (Run.is_sign_iff sign).mp opens with rfl | rfl
    · exact unspelled ⟨false, given⟩ ⟨body, rfl, spelled⟩
    · exact unspelled ⟨true, given⟩ ⟨body, rfl, spelled⟩
  simp [run, nothing]

/-- Apart from the refusal of what spells nothing, a run is answered as its item is. -/
theorem run_eq_iff (limits : Limits) (chars : List Char) (isRun : Run.IsRun chars)
    (answer : Except ReadError Term) (other : answer ≠ .error (.malformed (String.ofList chars))) :
    run limits chars = answer ↔ ∃ signed : SignedItem, signed.Spells chars ∧
      item limits (String.ofList chars) signed.negative signed.item = answer := by
  by_cases spelled : ∃ signed : SignedItem, signed.Spells chars
  · obtain ⟨signed, spells⟩ := spelled
    rw [run_of_spells limits chars signed spells]
    constructor
    · exact fun same => ⟨signed, spells, same⟩
    · rintro ⟨found, spellsFound, same⟩
      rw [SignedItem.spells_unique chars signed found spells spellsFound]
      exact same
  · have unspelled := not_exists.mp spelled
    rw [run_of_unspelled limits chars isRun unspelled]
    constructor
    · exact fun same => absurd same.symm other
    · rintro ⟨signed, spells, -⟩
      exact absurd spells (unspelled signed)

theorem run_ok_iff (limits : Limits) (chars : List Char) (isRun : Run.IsRun chars) (term : Term) :
    run limits chars = .ok term ↔
      ∃ signed : SignedItem, signed.Spells chars ∧ signed.Reads limits term := by
  rw [run_eq_iff limits chars isRun _ (by simp)]
  simp only [item_ok_iff]

theorem runs_ok_iff (limits : Limits) (runs : List (List Char)) (found : List Term)
    (all : ∀ chars ∈ runs, Run.IsRun chars) :
    List.Forall₂ (fun chars term => run limits chars = .ok term) runs found ↔
      ∃ items, List.Forall₂ SignedItem.Spells runs items ∧
        List.Forall₂ (SignedItem.Reads limits) items found := by
  induction runs generalizing found with
  | nil =>
      constructor
      · intro related
        cases related
        exact ⟨[], .nil, .nil⟩
      · rintro ⟨items, spelled, read⟩
        cases spelled
        cases read
        exact .nil
  | cons chars rest ih =>
      obtain ⟨isRun, later⟩ := List.forall_mem_cons.mp all
      constructor
      · intro related
        cases related with
        | cons here related =>
            obtain ⟨signed, spells, reads⟩ := (run_ok_iff limits chars isRun _).mp here
            obtain ⟨items, spelled, read⟩ := (ih _ later).mp related
            exact ⟨signed :: items, .cons spells spelled, .cons reads read⟩
      · rintro ⟨items, spelled, read⟩
        cases spelled with
        | cons spells spelled =>
            cases read with
            | cons reads read =>
                have here := (run_ok_iff limits chars isRun _).mpr ⟨_, spells, reads⟩
                exact .cons here ((ih _ later).mpr ⟨_, spelled, read⟩)

theorem terms_of_few (limits : Limits) (joined : List Char) (nonempty : joined ≠ [])
    (few : ∀ bound ∈ limits.terms, ((Run.split joined).length : Int) ≤ bound) :
    terms limits joined = (Run.split joined).mapM (run limits) := by
  unfold terms
  rw [if_neg (by simpa using nonempty)]
  simp only [(Limits.exceeded_none_iff limits.terms _).mpr few]

theorem terms_unlimited_eq (joined : List Char) (nonempty : joined ≠ []) :
    terms .unlimited joined = (Run.split joined).mapM (run .unlimited) :=
  terms_of_few .unlimited joined nonempty (by simp [Limits.unlimited])

theorem terms_of_many (limits : Limits) (joined : List Char) (nonempty : joined ≠ [])
    (bound : Int) (above : Limits.exceeded? limits.terms (Run.split joined).length = some bound) :
    terms limits joined = .error (.beyond bound (.tooManyTerms (Run.split joined).length)) := by
  unfold terms
  rw [if_neg (by simpa using nonempty)]
  simp only [above]

theorem terms_ok_iff (limits : Limits) (joined : List Char) (found : List Term) :
    terms limits joined = .ok found ↔
      (∀ bound ∈ limits.terms, ((Run.split joined).length : Int) ≤ bound) ∧
        ∃ items, Sentence joined items ∧
          List.Forall₂ (SignedItem.Reads limits) items found := by
  have runs := ((Run.split_eq_iff joined _).mp rfl).2
  simp only [sentence_iff_runs, ← Limits.exceeded_none_iff]
  by_cases empty : joined = []
  · simp [empty, terms]
  · cases above : Limits.exceeded? limits.terms (Run.split joined).length with
    | some bound => simp [terms_of_many limits joined empty bound above]
    | none =>
        rw [terms_of_few limits joined empty ((Limits.exceeded_none_iff _ _).mp above), mapM_ok_iff]
        simp only [true_and, ne_eq, empty, not_false_iff]
        exact runs_ok_iff limits _ found runs

/-- Of several faults the number of runs comes first, and then the leftmost run at fault. -/
theorem terms_error_iff (limits : Limits) (joined : List Char) (error : ReadError) :
    terms limits joined = .error error ↔
      joined = [] ∧ error = .noTerms ∨ joined ≠ [] ∧
        ((∃ bound, Limits.exceeded? limits.terms (Run.split joined).length = some bound ∧
          error = .beyond bound (.tooManyTerms (Run.split joined).length)) ∨
        (∀ bound ∈ limits.terms, ((Run.split joined).length : Int) ≤ bound) ∧
          ∃ before chars after, Run.split joined = before ++ chars :: after ∧
            (∀ earlier ∈ before, ∃ term, run limits earlier = .ok term) ∧
            run limits chars = .error error) := by
  simp only [← Limits.exceeded_none_iff, ← mapM_error_iff]
  by_cases empty : joined = []
  · simp [empty, terms, eq_comm]
  · cases above : Limits.exceeded? limits.terms (Run.split joined).length with
    | some bound => simp [terms_of_many limits joined empty bound above, empty, eq_comm]
    | none =>
        rw [terms_of_few limits joined empty ((Limits.exceeded_none_iff _ _).mp above)]
        simp [empty]

theorem phrase_ok_iff (limits : Limits) (spoken : Phrase) (expression : Expression) :
    phrase limits spoken = .ok expression ↔
      spoken.conflicting = false ∧ terms limits spoken.joined = .ok expression.terms ∧
        expression.mode = spoken.modes.head? := by
  unfold phrase
  cases spoken.conflicting with
  | true =>
      constructor
      · intro read
        obtain ⟨_, thrown, -⟩ := (bind_ok_iff _ _ _).mp read
        exact absurd thrown (throw_not_ok _ _)
      · exact fun given => Bool.noConfusion given.1
  | false =>
      simp only [Bool.false_eq_true, if_false, bind_ok_iff, return_ok_iff, true_and]
      constructor
      · rintro ⟨found, read, rfl⟩
        exact ⟨read, rfl⟩
      · rintro ⟨read, mode⟩
        exact ⟨_, read, by rw [← mode]⟩

theorem phrase_error_iff (limits : Limits) (spoken : Phrase) (error : ReadError) :
    phrase limits spoken = .error error ↔
      spoken.conflicting = true ∧ error = .conflictingModes ∨
        spoken.conflicting = false ∧ terms limits spoken.joined = .error error := by
  unfold phrase
  cases spoken.conflicting with
  | true =>
      simp only [if_true, bind_error_iff, throw_error_iff, throw_not_ok, false_and, exists_false,
        or_false, true_and, Bool.true_eq_false]
      exact eq_comm
  | false =>
      simp only [Bool.false_eq_true, if_false, bind_error_iff, return_not_error, and_false,
        exists_false, or_false, false_and, false_or, true_and]

end Reader

theorem Expression.blank_cut (text : String) (body tail : List (List Char))
    (blank : text.toList.all Text.isBlank = true)
    (cut : TailCut (Text.words (Text.lower text.toList)) body tail) : body = [] ∧ tail = [] := by
  have parts := List.all_eq_true.mp blank
  rw [Text.lower_blanks _ parts, Text.words_blank _ parts] at cut
  exact List.append_eq_nil_iff.mp cut.joined

/-- A notation is read from the words before its tail, under the one mode that the tail names. -/
theorem Expression.read_ok_iff (limits : Limits) (text : String) (body tail : List (List Char))
    (cut : TailCut (Text.words (Text.lower text.toList)) body tail) (expression : Expression) :
    Expression.read limits text = .ok expression ↔
      ¬ (Mode.advantage.NamedIn tail ∧ Mode.disadvantage.NamedIn tail) ∧
        (∀ mode, expression.mode = some mode ↔ mode.NamedIn tail) ∧
        Reader.terms limits body.flatten = .ok expression.terms := by
  obtain ⟨bodySame, named⟩ := Phrase.of_words_eq _ body tail cut
  unfold Expression.read
  by_cases blank : text.toList.all Text.isBlank = true
  · -- Without words nothing is read, and an empty body is no sentence either.
    obtain ⟨rfl, rfl⟩ := blank_cut text body tail blank cut
    simp [blank, Reader.terms]
  · rw [if_neg blank, Reader.phrase_ok_iff, Phrase.joined, Phrase.ofText, bodySame,
      ← named, ← named, ← Phrase.conflicting_iff, Bool.not_eq_true]
    apply and_congr_right
    intro agreed
    rw [and_comm, and_congr_left_iff]
    intro _
    simp only [← named, ← Phrase.head_mode_iff _ agreed]
    constructor
    · rintro same mode
      rw [same]
    · exact fun same => Option.ext same

theorem Expression.read_error_iff (limits : Limits) (text : String) (body tail : List (List Char))
    (cut : TailCut (Text.words (Text.lower text.toList)) body tail) (error : ReadError) :
    Expression.read limits text = .error error ↔
      text.toList.all Text.isBlank = true ∧ error = .blank ∨
        text.toList.all Text.isBlank = false ∧
          ((Mode.advantage.NamedIn tail ∧ Mode.disadvantage.NamedIn tail) ∧
              error = .conflictingModes ∨
            ¬ (Mode.advantage.NamedIn tail ∧ Mode.disadvantage.NamedIn tail) ∧
              Reader.terms limits body.flatten = .error error) := by
  obtain ⟨bodySame, named⟩ := Phrase.of_words_eq _ body tail cut
  unfold Expression.read
  by_cases blank : text.toList.all Text.isBlank = true
  · simp [blank, eq_comm]
  · rw [if_neg blank, Reader.phrase_error_iff, Phrase.joined, Phrase.ofText, bodySame, ← named,
      ← named, ← Phrase.conflicting_iff]
    simp [blank]

end DiceRoller
