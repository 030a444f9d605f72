import DiceRoller.Proofs.Expression.Acceptance

/-!
Numbers that cannot be converted. A numeral whose leading zeros leave few digits passes the check
of its digits and still has too many of them to be read, and a limit may have too many digits to be
told. These are the two faults that carry no code. A notation is refused for one of them just when
it is the first thing at fault in it.
-/

namespace DiceRoller

/-- Short, and all the same too long to be converted. -/
def Numeral.Overlong (digits : List Char) : Prop :=
  Numeral.Short digits ∧ Numeral.mostDigits < digits.length

theorem Numeral.one_overlong (zeros : Nat) (many : mostDigits ≤ zeros) :
    Spelled (List.replicate zeros '0' ++ ['1']) ∧ Overlong (List.replicate zeros '0' ++ ['1']) := by
  refine ⟨⟨by simp, fun c member => ?_⟩, ⟨zeros, ['1'], rfl, by decide⟩, ?_⟩
  · rcases List.mem_append.mp member with zero | one
    · rw [List.eq_of_mem_replicate zero]
      rfl
    · rw [List.mem_singleton.mp one]
      rfl
  · rw [List.length_append, List.length_replicate]
    exact Nat.lt_succ_of_le many

/-- The first fault of an item is an overlong number. -/
inductive SignedItem.Overlong (limits : Limits) : SignedItem → Prop
  | flat (negative : Bool) (digits : List Char) :
      Numeral.Overlong digits → Overlong limits ⟨negative, .flat digits⟩
  | count (count sides : List Char) (spelling : Option SelectorSpelling) :
      Numeral.Overlong count → Overlong limits ⟨false, .dice count sides spelling⟩
  | sides (count sides : List Char) (spelling : Option SelectorSpelling) :
      Numeral.Readable count → Numeral.Overlong sides →
      Overlong limits ⟨false, .dice count sides spelling⟩
  | size (count sides : List Char) (given : SelectorSpelling) :
      Numeral.Readable count → Numeral.Readable sides → Numeral.value sides ≠ 0 →
      (∀ bound ∈ limits.diceCount, ((max (Numeral.value count) 1 : Nat) : Int) ≤ bound) →
      (∀ bound ∈ limits.dieSides, (Numeral.value sides : Int) ≤ bound) →
      Numeral.Overlong given.size → Overlong limits ⟨false, .dice count sides (some given)⟩

structure Limits.Writable (limits : Limits) : Prop where
  diceCount : ∀ bound ∈ limits.diceCount, Numeral.isWritable bound = true
  dieSides : ∀ bound ∈ limits.dieSides, Numeral.isWritable bound = true
  terms : ∀ bound ∈ limits.terms, Numeral.isWritable bound = true

inductive SignedItem.Untold (limits : Limits) : SignedItem → Prop
  | count (count sides : List Char) (spelling : Option SelectorSpelling) :
      Numeral.Readable count → Numeral.Readable sides → Numeral.value sides ≠ 0 →
      Limits.Untold limits.diceCount (max (Numeral.value count) 1) →
      Untold limits ⟨false, .dice count sides spelling⟩
  | sides (count sides : List Char) (spelling : Option SelectorSpelling) :
      Numeral.Readable count → Numeral.Readable sides → Numeral.value sides ≠ 0 →
      (∀ bound ∈ limits.diceCount, ((max (Numeral.value count) 1 : Nat) : Int) ≤ bound) →
      Limits.Untold limits.dieSides (Numeral.value sides) →
      Untold limits ⟨false, .dice count sides spelling⟩

namespace Expression

/-- The first fault of a row of runs is that of an item: behind runs that are read it stands. -/
def FirstAtFault (limits : Limits) (AtFault : SignedItem → Prop) (runs : List (List Char)) : Prop :=
  ∃ before chars after, runs = before ++ chars :: after ∧
    (∀ earlier ∈ before, ∃ signed term,
      SignedItem.Spells earlier signed ∧ SignedItem.Reads limits signed term) ∧
    ∃ signed : SignedItem, signed.Spells chars ∧ AtFault signed

/-- The first fault of a notation is an overlong number: its tail names one mode at most, its runs
are not too many, and behind runs that are read stands an overlong item. -/
def Overlong (limits : Limits) (text : String) : Prop :=
  ∃ body tail, TailCut (Text.words (Text.lower text.toList)) body tail ∧
    ¬ (Mode.advantage.NamedIn tail ∧ Mode.disadvantage.NamedIn tail) ∧
    (∀ bound ∈ limits.terms, ((Run.split body.flatten).length : Int) ≤ bound) ∧
    FirstAtFault limits (SignedItem.Overlong limits) (Run.split body.flatten)

/-- The first fault of a notation is a limit that is exceeded and cannot be told: the one on its
runs, of which there are some, or behind runs that are read one on the dice of an item. -/
def Untold (limits : Limits) (text : String) : Prop :=
  ∃ body tail, TailCut (Text.words (Text.lower text.toList)) body tail ∧
    ¬ (Mode.advantage.NamedIn tail ∧ Mode.disadvantage.NamedIn tail) ∧
    (body.flatten ≠ [] ∧ Limits.Untold limits.terms (Run.split body.flatten).length ∨
      (∀ bound ∈ limits.terms, ((Run.split body.flatten).length : Int) ≤ bound) ∧
        FirstAtFault limits (SignedItem.Untold limits) (Run.split body.flatten))

end Expression

namespace Reader

theorem number_unreadable_iff (run : String) (digits : List Char) (length : Nat) :
    number run digits = .error (.unreadableNumber length) ↔
      Numeral.Overlong digits ∧ digits.length = length := by
  unfold Numeral.Overlong
  rw [← significant_few_iff]
  unfold number
  split
  next long => simp [long]
  next few =>
    split
    next overlong => simp [few, overlong]
    next convertible => simp [convertible]

theorem within_limit_not_unreadable (measure : Measure) (value : Nat) (limit : Option Int)
    (run : String) (length : Nat) :
    withinLimit measure value limit run ≠ .error (.unreadableNumber length) := by
  unfold withinLimit
  cases Limits.exceeded? limit value with
  | none => simp
  | some bound =>
      rcases ReadError.beyond_cases (fun told => .aboveLimit measure value told run) bound with
        ⟨told, -, same⟩ | ⟨-, same⟩ <;> simp [same]

theorem number_not_untold (run : String) (digits : List Char) :
    number run digits ≠ .error .unwritableLimit := by
  unfold number
  split
  · simp
  · split <;> simp

theorem within_limit_untold_iff (measure : Measure) (value : Nat) (limit : Option Int)
    (run : String) :
    withinLimit measure value limit run = .error .unwritableLimit ↔ Limits.Untold limit value := by
  rw [← ReadError.beyond_untold_iff (fun told => .aboveLimit measure value told run) limit value
    (by simp)]
  unfold withinLimit
  cases Limits.exceeded? limit value <;> simp

theorem pool_unreadable_iff (limits : Limits) (run : String) (count sides : List Char)
    (spelling : Option SelectorSpelling) :
    (∃ length, pool limits run count sides spelling = .error (.unreadableNumber length)) ↔
      SignedItem.Overlong limits ⟨false, .dice count sides spelling⟩ := by
  simp only [pool_error_iff, number_unreadable_iff, number_ok_iff, within_limit_not_unreadable,
    false_or, reduceCtorEq, and_false]
  constructor
  · rintro ⟨length, ⟨overlong, -⟩ | ⟨_, ⟨countRead, rfl⟩, ⟨overlong, -⟩ |
      ⟨_, ⟨sidesRead, rfl⟩, faces, countWithin, sidesWithin, given, chosen, overlong, -⟩⟩⟩
    · exact .count count sides spelling overlong
    · exact .sides count sides spelling countRead overlong
    · obtain rfl := Option.mem_def.mp chosen
      exact .size count sides given countRead sidesRead faces countWithin sidesWithin overlong
  · intro overlong
    cases overlong with
    | count _ _ _ overlong => exact ⟨_, Or.inl ⟨overlong, rfl⟩⟩
    | sides _ _ _ countRead overlong =>
        exact ⟨_, Or.inr ⟨_, ⟨countRead, rfl⟩, Or.inl ⟨overlong, rfl⟩⟩⟩
    | size _ _ given countRead sidesRead faces countWithin sidesWithin overlong =>
        exact ⟨_, Or.inr ⟨_, ⟨countRead, rfl⟩, Or.inr ⟨_, ⟨sidesRead, rfl⟩, faces, countWithin,
          sidesWithin, given, rfl, overlong, rfl⟩⟩⟩

theorem pool_untold_iff (limits : Limits) (run : String) (count sides : List Char)
    (spelling : Option SelectorSpelling) :
    pool limits run count sides spelling = .error .unwritableLimit ↔
      SignedItem.Untold limits ⟨false, .dice count sides spelling⟩ := by
  simp only [pool_error_iff, number_not_untold, number_ok_iff, within_limit_untold_iff, false_or,
    reduceCtorEq, and_false, exists_false, or_false]
  constructor
  · rintro ⟨_, ⟨countRead, rfl⟩, _, ⟨sidesRead, rfl⟩, faces, untold | ⟨countWithin, untold⟩⟩
    · exact .count count sides spelling countRead sidesRead faces untold
    · exact .sides count sides spelling countRead sidesRead faces countWithin untold
  · intro untold
    cases untold with
    | count _ _ _ countRead sidesRead faces untold =>
        exact ⟨_, ⟨countRead, rfl⟩, _, ⟨sidesRead, rfl⟩, faces, Or.inl untold⟩
    | sides _ _ _ countRead sidesRead faces countWithin untold =>
        exact ⟨_, ⟨countRead, rfl⟩, _, ⟨sidesRead, rfl⟩, faces, Or.inr ⟨countWithin, untold⟩⟩

theorem item_unreadable_iff (limits : Limits) (run : String) (signed : SignedItem) :
    (∃ length, item limits run signed.negative signed.item = .error (.unreadableNumber length)) ↔
      signed.Overlong limits := by
  obtain ⟨negative, given⟩ := signed
  cases given with
  | flat digits =>
      simp only [item_flat_error_iff, number_unreadable_iff]
      constructor
      · rintro ⟨_, overlong, -⟩
        exact .flat negative digits overlong
      · intro overlong
        cases overlong with
        | flat _ _ overlong => exact ⟨_, overlong, rfl⟩
  | dice count sides spelling =>
      cases negative with
      | true =>
          refine iff_of_false ?_ (fun overlong => by cases overlong)
          rintro ⟨length, refused⟩
          cases (item_subtracted limits run count sides spelling).symm.trans refused
      | false =>
          simp only [item_pool_error_iff]
          exact pool_unreadable_iff limits run count sides spelling

theorem item_untold_iff (limits : Limits) (run : String) (signed : SignedItem) :
    item limits run signed.negative signed.item = .error .unwritableLimit ↔
      signed.Untold limits := by
  obtain ⟨negative, given⟩ := signed
  cases given with
  | flat digits =>
      rw [item_flat_error_iff]
      exact iff_of_false (number_not_untold run digits) (fun untold => by cases untold)
  | dice count sides spelling =>
      cases negative with
      | true =>
          refine iff_of_false ?_ (fun untold => by cases untold)
          intro refused
          cases (item_subtracted limits run count sides spelling).symm.trans refused
      | false =>
          rw [item_pool_error_iff]
          exact pool_untold_iff limits run count sides spelling

/-- The only run of an empty text is a plus, which spells no item. -/
theorem first_at_fault_ne_nil (limits : Limits) (AtFault : SignedItem → Prop) (joined : List Char)
    (first : Expression.FirstAtFault limits AtFault (Run.split joined)) : joined ≠ [] := by
  obtain ⟨before, chars, after, split, -, signed, spells, -⟩ := first
  rintro rfl
  have alone : chars ∈ [['+']] := by
    rw [show [['+']] = Run.split [] from rfl, split]
    simp
  obtain ⟨body, same, spelled⟩ := spells
  rw [List.mem_singleton.mp alone] at same
  exact Item.spells_ne_nil body _ spelled (List.cons.inj same).2.symm

section FirstAtFault
variable (limits : Limits) {Found : ReadError → Prop} {AtFault : SignedItem → Prop}
  (unspelled : ∀ run, ¬ Found (.malformed run))
  (items : ∀ run (signed : SignedItem), (∃ error, Found error ∧
    item limits run signed.negative signed.item = .error error) ↔ AtFault signed)
include unspelled items

theorem run_at_fault_iff (chars : List Char) (isRun : Run.IsRun chars) :
    (∃ error, Found error ∧ run limits chars = .error error) ↔
      ∃ signed : SignedItem, signed.Spells chars ∧ AtFault signed := by
  have other : ∀ error, Found error →
      (.error error : Except ReadError Term) ≠ .error (.malformed (String.ofList chars)) := by
    intro error found same
    cases same
    exact unspelled _ found
  constructor
  · rintro ⟨error, found, refused⟩
    obtain ⟨signed, spells, here⟩ :=
      (run_eq_iff limits chars isRun _ (other error found)).mp refused
    exact ⟨signed, spells, (items _ signed).mp ⟨error, found, here⟩⟩
  · rintro ⟨signed, spells, atFault⟩
    obtain ⟨error, found, here⟩ := (items (String.ofList chars) signed).mpr atFault
    exact ⟨error, found,
      (run_eq_iff limits chars isRun _ (other error found)).mpr ⟨signed, spells, here⟩⟩

theorem first_at_fault_iff (runs : List (List Char)) (all : ∀ chars ∈ runs, Run.IsRun chars) :
    (∃ error, Found error ∧ ∃ before chars after, runs = before ++ chars :: after ∧
      (∀ earlier ∈ before, ∃ term, run limits earlier = .ok term) ∧
      run limits chars = .error error) ↔ Expression.FirstAtFault limits AtFault runs := by
  constructor
  · rintro ⟨error, found, before, chars, after, rfl, read, refused⟩
    refine ⟨before, chars, after, rfl, fun earlier member => ?_, ?_⟩
    · obtain ⟨term, accepted⟩ := read earlier member
      obtain ⟨signed, spells, reads⟩ :=
        (run_ok_iff limits earlier (all earlier (by simp [member])) term).mp accepted
      exact ⟨signed, term, spells, reads⟩
    · exact (run_at_fault_iff limits unspelled items chars (all chars (by simp))).mp
        ⟨error, found, refused⟩
  · rintro ⟨before, chars, after, rfl, read, atFault⟩
    obtain ⟨error, found, refused⟩ :=
      (run_at_fault_iff limits unspelled items chars (all chars (by simp))).mpr atFault
    refine ⟨error, found, before, chars, after, rfl, fun earlier member => ?_, refused⟩
    obtain ⟨signed, term, spells, reads⟩ := read earlier member
    exact ⟨term, (run_ok_iff limits earlier (all earlier (by simp [member])) term).mpr
      ⟨signed, spells, reads⟩⟩

theorem terms_at_fault_iff (joined : List Char) (nothing : ¬ Found .noTerms) :
    (∃ error, Found error ∧ terms limits joined = .error error) ↔
      (joined ≠ [] ∧ ∃ bound,
        Limits.exceeded? limits.terms (Run.split joined).length = some bound ∧
          Found (.beyond bound (.tooManyTerms (Run.split joined).length))) ∨
      (∀ bound ∈ limits.terms, ((Run.split joined).length : Int) ≤ bound) ∧
        Expression.FirstAtFault limits AtFault (Run.split joined) := by
  have first := first_at_fault_iff limits unspelled items (Run.split joined)
    ((Run.split_eq_iff joined _).mp rfl).2
  constructor
  · rintro ⟨error, found, refused⟩
    rcases (terms_error_iff limits joined error).mp refused with
      ⟨-, rfl⟩ | ⟨nonempty, ⟨bound, exceeded, rfl⟩ | ⟨few, here⟩⟩
    · exact absurd found nothing
    · exact Or.inl ⟨nonempty, bound, exceeded, found⟩
    · exact Or.inr ⟨few, first.mp ⟨error, found, here⟩⟩
  · rintro (⟨nonempty, bound, exceeded, found⟩ | ⟨few, atFault⟩)
    · exact ⟨_, found, terms_of_many limits joined nonempty bound exceeded⟩
    · have nonempty := first_at_fault_ne_nil limits AtFault joined atFault
      obtain ⟨error, found, here⟩ := first.mpr atFault
      exact ⟨error, found, (terms_error_iff limits joined error).mpr
        (Or.inr ⟨nonempty, Or.inr ⟨few, here⟩⟩)⟩

end FirstAtFault

theorem terms_unreadable_iff (limits : Limits) (joined : List Char) :
    (∃ length, terms limits joined = .error (.unreadableNumber length)) ↔
      (∀ bound ∈ limits.terms, ((Run.split joined).length : Int) ≤ bound) ∧
        Expression.FirstAtFault limits (SignedItem.Overlong limits) (Run.split joined) := by
  have items : ∀ run (signed : SignedItem), (∃ error,
      (∃ length, ReadError.unreadableNumber length = error) ∧
        item limits run signed.negative signed.item = .error error) ↔ signed.Overlong limits := by
    simp only [exists_exists_eq_and, item_unreadable_iff, implies_true]
  -- To go beyond a limit is another fault, whether the limit can be told or not.
  have other : ∀ bound length, ReadError.unreadableNumber length ≠
      .beyond bound (.tooManyTerms (Run.split joined).length) := by
    intro bound length
    rcases ReadError.beyond_cases (.tooManyTerms (Run.split joined).length) bound with
      ⟨told, -, same⟩ | ⟨-, same⟩ <;> simp [same]
  have found := terms_at_fault_iff limits (by simp) items joined (by simp)
  simpa only [exists_exists_eq_and, other, exists_false, and_false, false_or] using found

theorem terms_untold_iff (limits : Limits) (joined : List Char) :
    terms limits joined = .error .unwritableLimit ↔
      joined ≠ [] ∧ Limits.Untold limits.terms (Run.split joined).length ∨
      (∀ bound ∈ limits.terms, ((Run.split joined).length : Int) ≤ bound) ∧
        Expression.FirstAtFault limits (SignedItem.Untold limits) (Run.split joined) := by
  have items : ∀ run (signed : SignedItem), (∃ error, error = ReadError.unwritableLimit ∧
      item limits run signed.negative signed.item = .error error) ↔ signed.Untold limits := by
    simp only [exists_eq_left, item_untold_iff, implies_true]
  have found := terms_at_fault_iff limits (by simp) items joined (by simp)
  rw [← ReadError.beyond_untold_iff (.tooManyTerms (Run.split joined).length) _ _ (by simp)]
  simpa only [exists_eq_left] using found

end Reader

namespace Expression

/-- Behind its first checks a notation is refused as its terms are. -/
theorem read_terms_error_iff (limits : Limits) (text : String) (error : ReadError)
    (visible : error ≠ .blank) (agreed : error ≠ .conflictingModes) (some : error ≠ .noTerms) :
    Expression.read limits text = .error error ↔
      ∃ body tail, TailCut (Text.words (Text.lower text.toList)) body tail ∧
        ¬ (Mode.advantage.NamedIn tail ∧ Mode.disadvantage.NamedIn tail) ∧
        Reader.terms limits body.flatten = .error error := by
  constructor
  · intro refused
    have cut := Phrase.of_words_cut (Text.words (Text.lower text.toList))
    rcases (read_error_iff limits text _ _ cut error).mp refused with
      ⟨-, other⟩ | ⟨-, ⟨-, other⟩ | ⟨single, here⟩⟩
    · exact absurd other visible
    · exact absurd other agreed
    · exact ⟨_, _, cut, single, here⟩
  · rintro ⟨body, tail, cut, single, here⟩
    have filled : text.toList.all Text.isBlank = false := by
      rw [← Bool.not_eq_true]
      intro blank
      obtain ⟨rfl, -⟩ := blank_cut text body tail blank cut
      exact some (Except.error.inj here).symm
    exact (read_error_iff limits text body tail cut error).mpr
      (Or.inr ⟨filled, Or.inr ⟨single, here⟩⟩)

theorem read_unreadable_iff (limits : Limits) (text : String) :
    (∃ length, Expression.read limits text = .error (.unreadableNumber length)) ↔
      Overlong limits text := by
  have refused : ∀ length, Expression.read limits text = .error (.unreadableNumber length) ↔ _ :=
    fun length => read_terms_error_iff limits text _ (by simp) (by simp) (by simp)
  simp only [refused, Overlong, ← Reader.terms_unreadable_iff]
  constructor
  · rintro ⟨length, body, tail, cut, single, here⟩
    exact ⟨body, tail, cut, single, length, here⟩
  · rintro ⟨body, tail, cut, single, length, here⟩
    exact ⟨length, body, tail, cut, single, here⟩

theorem read_untold_iff (limits : Limits) (text : String) :
    Expression.read limits text = .error .unwritableLimit ↔ Untold limits text := by
  rw [read_terms_error_iff limits text _ (by simp) (by simp) (by simp)]
  simp only [Untold, Reader.terms_untold_iff]

end Expression

theorem Expression.overlong_of_digits (limits : Limits) (digits : List Char)
    (spelled : Numeral.Spelled digits) (overlong : Numeral.Overlong digits)
    (one : ∀ bound ∈ limits.terms, 1 ≤ bound) :
    Expression.Overlong limits (String.ofList digits) := by
  have chars : ∀ c ∈ digits,
      Run.isSign c = false ∧ Text.isBlank c = false ∧ Text.isPlain c = true :=
    fun c member => Item.digit_or_letter c (Or.inl (spelled.all c member))
  have words : Text.words (Text.lower digits) = [digits] := by
    rw [Text.lower_plain digits fun c member => (chars c member).2.2]
    exact Text.words_single digits spelled.nonempty fun c member => (chars c member).2.1
  have cut : TailCut (Text.words (Text.lower digits)) [digits] [] := by
    rw [words]
    obtain ⟨c, inside⟩ := List.exists_mem_of_ne_nil digits spelled.nonempty
    exact TailCut.of_plain_word digits c inside (Or.inl (spelled.all c inside))
  have spells : SignedItem.Spells ('+' :: digits) ⟨false, .flat digits⟩ :=
    ⟨digits, rfl, .flat digits spelled⟩
  have split : Run.split [digits].flatten = ['+' :: digits] := by
    rw [Run.split_eq_iff]
    constructor
    · obtain ⟨c, rest, rfl⟩ := List.exists_cons_of_ne_nil spelled.nonempty
      simp [Run.signed, (chars c List.mem_cons_self).1]
    · intro run member
      rw [List.mem_singleton.mp member]
      exact SignedItem.spells_is_run _ _ spells
  refine ⟨[digits], [], ?_, by simp [Mode.NamedIn], ?_, [], _, [], split, by simp, _, spells,
    .flat false digits overlong⟩
  · rw [String.toList_ofList]
    exact cut
  · rw [split]
    exact one

theorem Limits.not_untold (limit : Option Int) (value : Nat)
    (writable : ∀ bound ∈ limit, Numeral.isWritable bound = true) : ¬ Untold limit value := by
  rintro ⟨bound, member, -, long⟩
  rw [writable bound member] at long
  cases long

theorem Expression.not_untold_of_writable (limits : Limits) (text : String)
    (writable : limits.Writable) : ¬ Expression.Untold limits text := by
  rintro ⟨body, tail, -, -, ⟨-, untold⟩ | ⟨-, before, chars, after, -, -, signed, -, untold⟩⟩
  · exact Limits.not_untold _ _ writable.terms untold
  · cases untold with
    | count _ _ _ _ _ _ untold => exact Limits.not_untold _ _ writable.diceCount untold
    | sides _ _ _ _ _ _ _ untold => exact Limits.not_untold _ _ writable.dieSides untold

theorem SignedItem.overlong_number (limits : Limits) (signed : SignedItem)
    (overlong : signed.Overlong limits) :
    ∃ digits ∈ signed.item.numbers, Numeral.mostDigits < digits.length := by
  cases overlong with
  | flat _ digits overlong => exact ⟨digits, List.mem_singleton_self digits, overlong.2⟩
  | count count sides spelling overlong =>
      exact ⟨count, by cases spelling <;> simp [Item.numbers], overlong.2⟩
  | sides count sides spelling _ overlong =>
      exact ⟨sides, by cases spelling <;> simp [Item.numbers], overlong.2⟩
  | size _ _ given _ _ _ _ _ overlong => exact ⟨given.size, by simp [Item.numbers], overlong.2⟩

theorem Expression.not_overlong_of_convertible (limits : Limits) (text : String)
    (convertible : Numeral.Convertible (text.toList.filter fun c => !Text.isBlank c)) :
    ¬ Expression.Overlong limits text := by
  rintro ⟨body, tail, cut, -, -, before, chars, after, split, -, signed, spells, overlong⟩
  have converted := convertible_body text.toList body tail convertible cut
  obtain ⟨digits, number, long⟩ := signed.overlong_number limits overlong
  obtain ⟨item, rfl, spelled⟩ := spells
  obtain ⟨inItem, all⟩ := Item.spells_numbers item _ spelled digits number
  have inRuns : item <:+: Run.signed body.flatten := by
    rw [← ((Run.split_eq_iff _ _).mp rfl).1, split]
    exact ⟨before.flatten ++ [signed.sign], after.flatten, by simp⟩
  have opened : Numeral.Convertible (Run.signed body.flatten) := by
    rcases Run.signed_cases body.flatten with same | plus
    · rw [same]
      exact converted
    · rw [plus]
      exact Numeral.convertible_append_cons [] '+' _ rfl Numeral.convertible_nil converted
  exact Nat.not_lt.mpr (opened digits (inItem.trans inRuns) all) long

end DiceRoller
