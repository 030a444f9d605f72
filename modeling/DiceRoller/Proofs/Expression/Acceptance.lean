import DiceRoller.Proofs.Expression.Reading

/-!
What is read without limits: all sentences whose items are admissible, and no other text. Each
item of the sentence becomes the one term that it stands for.
-/

namespace DiceRoller

theorem SelectorSpelling.exists_means (spelling : Option SelectorSpelling) :
    ∃ selector, SelectorSpelling.Means spelling selector := by
  cases spelling with
  | none => exact ⟨none, rfl⟩
  | some given =>
      by_cases zero : Numeral.value given.size = 0
      · exact ⟨none, zero⟩
      · exact ⟨some ⟨given.kind, Numeral.value given.size, Nat.pos_of_ne_zero zero⟩, rfl, rfl⟩

theorem SignedItem.exists_means (signed : SignedItem) (admissible : signed.Admissible) :
    ∃ term, signed.Means term := by
  obtain ⟨negative, item⟩ := signed
  cases item with
  | flat digits => exact ⟨.modifier _, rfl⟩
  | dice count sides spelling =>
      obtain ⟨selector, means⟩ := SelectorSpelling.exists_means spelling
      have faces : 0 < Numeral.value sides := Nat.pos_of_ne_zero admissible.2.2
      have rolled : 0 < if Numeral.value count = 0 then 1 else Numeral.value count := by
        split <;> omega
      exact ⟨.pool ⟨_, Numeral.value sides, selector, rolled, faces⟩, rfl, rfl, means⟩

theorem Term.within_unlimited (term : Term) : term.Within .unlimited := by
  cases term with
  | modifier value => trivial
  | pool dice => exact ⟨by simp [Limits.unlimited], by simp [Limits.unlimited]⟩

theorem convertible_body (text : List Char) (body tail : List (List Char))
    (convertible : Numeral.Convertible (text.filter fun c => !Text.isBlank c))
    (cut : TailCut (Text.words (Text.lower text)) body tail) :
    Numeral.Convertible body.flatten := by
  have whole := Numeral.convertible_lower text convertible
  rw [← Text.words_flatten, ← cut.joined, List.flatten_append] at whole
  exact Numeral.convertible_of_infix _ _ List.infix_append_left whole

theorem sentence_convertible (text : List Char) (items : List SignedItem)
    (sentence : Sentence text items) (convertible : Numeral.Convertible text) :
    ∀ signed ∈ items, ∀ digits ∈ signed.item.numbers, digits.length ≤ Numeral.mostDigits := by
  intro signed member digits number
  obtain ⟨inside, all⟩ := sentence_numbers text items sentence signed member digits number
  exact convertible digits inside all

theorem reads_unlimited_iff (signed : SignedItem) (term : Term)
    (convertible : ∀ digits ∈ signed.item.numbers, digits.length ≤ Numeral.mostDigits) :
    signed.Reads .unlimited term ↔ signed.Admissible ∧ signed.Means term := by
  constructor
  · exact fun reads => ⟨reads.admissible, reads.means⟩
  · exact fun ⟨admissible, means⟩ => ⟨convertible, admissible, means, term.within_unlimited⟩

theorem exists_reads (items : List SignedItem)
    (convertible : ∀ signed ∈ items, ∀ digits ∈ signed.item.numbers,
      digits.length ≤ Numeral.mostDigits)
    (admissible : ∀ signed ∈ items, signed.Admissible) :
    ∃ terms, List.Forall₂ (SignedItem.Reads .unlimited) items terms := by
  induction items with
  | nil => exact ⟨[], .nil⟩
  | cons signed rest ih =>
      obtain ⟨here, later⟩ := List.forall_mem_cons.mp convertible
      obtain ⟨admissibleHere, admissibleLater⟩ := List.forall_mem_cons.mp admissible
      obtain ⟨term, means⟩ := signed.exists_means admissibleHere
      obtain ⟨terms, related⟩ := ih later admissibleLater
      exact ⟨term :: terms,
        .cons ((reads_unlimited_iff signed term here).mpr ⟨admissibleHere, means⟩) related⟩

theorem Reader.terms_unlimited_iff (joined : List Char) (found : List Term) :
    Reader.terms .unlimited joined = .ok found ↔ ∃ items, Sentence joined items ∧
      List.Forall₂ (SignedItem.Reads .unlimited) items found := by
  rw [Reader.terms_ok_iff]
  simp [Limits.unlimited]

theorem forall_admissible_of_reads (items : List SignedItem) (terms : List Term)
    (related : List.Forall₂ (SignedItem.Reads .unlimited) items terms) :
    ∀ signed ∈ items, signed.Admissible := by
  induction related with
  | nil => simp
  | cons reads _ ih => exact List.forall_mem_cons.mpr ⟨reads.admissible, ih⟩

/-- Without limits a notation is read just when its tail names one mode at most and the words
before it join to a sentence of admissible items. What is read is what the sentence stands for,
under the mode that the tail names. -/
theorem Expression.read_unlimited_sentence (text : String) (body tail : List (List Char))
    (convertible : Numeral.Convertible (text.toList.filter fun c => !Text.isBlank c))
    (cut : TailCut (Text.words (Text.lower text.toList)) body tail) :
    ((∃ expression, Expression.read .unlimited text = .ok expression) ↔
      ¬ (Mode.advantage.NamedIn tail ∧ Mode.disadvantage.NamedIn tail) ∧
        ∃ items, Sentence body.flatten items ∧ ∀ signed ∈ items, signed.Admissible) ∧
    ∀ expression, Expression.read .unlimited text = .ok expression →
      (∀ items, Sentence body.flatten items →
        List.Forall₂ SignedItem.Means items expression.terms) ∧
      ∀ mode, expression.mode = some mode ↔ mode.NamedIn tail := by
  have converted := convertible_body text.toList body tail convertible cut
  constructor
  · constructor
    · rintro ⟨expression, read⟩
      obtain ⟨agreed, -, found⟩ := (read_ok_iff .unlimited text body tail cut expression).mp read
      obtain ⟨items, sentence, related⟩ := (Reader.terms_unlimited_iff _ _).mp found
      exact ⟨agreed, items, sentence, forall_admissible_of_reads items _ related⟩
    · -- The numbers stand in the text, so they can be converted and every item is read.
      rintro ⟨agreed, items, sentence, admissible⟩
      have numbers := sentence_convertible _ items sentence converted
      obtain ⟨terms, related⟩ := exists_reads items numbers admissible
      obtain ⟨mode, named⟩ := Mode.exists_named tail agreed
      have found := (Reader.terms_unlimited_iff _ _).mpr ⟨items, sentence, related⟩
      exact ⟨⟨terms, mode⟩,
        (read_ok_iff .unlimited text body tail cut _).mpr ⟨agreed, named, found⟩⟩
  · intro expression read
    obtain ⟨-, modes, found⟩ := (read_ok_iff .unlimited text body tail cut expression).mp read
    refine ⟨fun items sentence => ?_, modes⟩
    -- What was read belongs to some sentence of this text, and there is only one.
    obtain ⟨others, sentenceOther, related⟩ := (Reader.terms_unlimited_iff _ _).mp found
    rw [sentence_unique _ items others sentence sentenceOther]
    exact related.imp fun signed term reads => reads.means

/-- A pool and a modifier under disadvantage, in letters of either case. -/
theorem Expression.read_unlimited_keep_low :
    TailCut (Text.words (Text.lower "2D6kl1 -03 Dis".toList)) ["2d6kl1".toList, "-03".toList]
        ["dis".toList] ∧
      ∃ expression, Expression.read .unlimited "2D6kl1 -03 Dis" = .ok expression ∧
        (∀ items, Sentence "2d6kl1-03".toList items →
          List.Forall₂ SignedItem.Means items expression.terms) ∧
        ∀ mode, expression.mode = some mode ↔ mode.NamedIn ["dis".toList] := by
  have body : (Phrase.ofWords (Text.words (Text.lower "2D6kl1 -03 Dis".toList))).body =
      ["2d6kl1".toList, "-03".toList] := by
    decide +kernel
  have tail : ((Text.words (Text.lower "2D6kl1 -03 Dis".toList)).reverse.takeWhile
      Phrase.isModeWord).reverse = ["dis".toList] := by
    decide +kernel
  have cut := Phrase.of_words_cut (Text.words (Text.lower "2D6kl1 -03 Dis".toList))
  rw [body, tail] at cut
  have convertible := Numeral.convertible_of_length
    ("2D6kl1 -03 Dis".toList.filter fun c => !Text.isBlank c) (by decide +kernel)
  have read : Expression.read .unlimited "2D6kl1 -03 Dis" =
      .ok ⟨[.pool ⟨2, 6, some ⟨.keepLow, 1, by decide⟩, by decide, by decide⟩, .modifier (-3)],
        some .disadvantage⟩ := by
    decide +kernel
  exact ⟨cut, _, read, (read_unlimited_sentence _ _ _ convertible cut).2 _ read⟩

end DiceRoller
