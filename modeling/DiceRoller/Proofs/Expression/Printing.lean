import DiceRoller.Expression.Printer
import DiceRoller.Proofs.Expression.Acceptance

/-!
What is printed for a term, and how it is read. A term is printed as one item that stands for it.
The run of it is read back when its numbers are small, and it is blamed when one of them is not.
-/

namespace DiceRoller

namespace Term

def numbers : Term → List Nat
  | modifier value => [value.natAbs]
  | pool dice => dice.count :: dice.sides :: dice.selector.toList.map Selector.size

/-- No number of the term has more than nine digits. -/
def Small (term : Term) : Prop :=
  ∀ number ∈ term.numbers, number < 10 ^ 9

instance (term : Term) : Decidable term.Small :=
  inferInstanceAs (Decidable (∀ number ∈ term.numbers, number < 10 ^ 9))

theorem small_pool_iff (dice : Pool) : (pool dice).Small ↔
    dice.count < 10 ^ 9 ∧ dice.sides < 10 ^ 9 ∧
      ∀ selector ∈ dice.selector, selector.size < 10 ^ 9 := by
  simp only [Small, numbers, List.forall_mem_cons, List.forall_mem_map, Option.mem_toList,
    Option.mem_def]

theorem exists_first_large (terms : List Term) (found : ∃ term ∈ terms, ¬ term.Small) :
    ∃ before term after, terms = before ++ term :: after ∧ (∀ earlier ∈ before, earlier.Small) ∧
      ¬ term.Small := by
  have present : (terms.find? fun term => !decide term.Small).isSome = true := by
    simpa [List.find?_isSome] using found
  obtain ⟨term, first⟩ := Option.isSome_iff_exists.mp present
  obtain ⟨large, before, after, split, earlier⟩ := List.find?_eq_some_iff_append.mp first
  exact ⟨before, term, after, split, by simpa using earlier, by simpa using large⟩

def isNegative : Term → Bool
  | modifier value => value < 0
  | pool _ => false

def magnitude : Term → String
  | modifier value => toString value.natAbs
  | pool dice => dice.text

def run (term : Term) : String :=
  (if term.isNegative then "-" else "+") ++ term.magnitude

def printed : Term → Item
  | modifier value => .flat (Nat.toDigits 10 value.natAbs)
  | pool dice => .dice (if dice.count = 1 then [] else Nat.toDigits 10 dice.count)
      (Nat.toDigits 10 dice.sides)
      (dice.selector.map fun selector => ⟨selector.kind, Nat.toDigits 10 selector.size⟩)

def signed (term : Term) : SignedItem :=
  ⟨term.isNegative, term.printed⟩

theorem spells_printed (term : Term) : Item.Spells term.magnitude.toList term.printed := by
  have digits : ∀ number, Numeral.Spelled (Nat.toDigits 10 number) := Numeral.spelled_toDigits
  cases term with
  | modifier value => simpa [magnitude, printed] using Item.Spells.flat _ (digits value.natAbs)
  | pool dice =>
      have count : ∀ c ∈ (if dice.count = 1 then [] else Nat.toDigits 10 dice.count),
          c.isDigit = true := by
        split
        · simp
        · exact (digits dice.count).all
      have opening : (if dice.count = 1 then "" else dice.count.repr).toList =
          if dice.count = 1 then [] else Nat.toDigits 10 dice.count := by
        split <;> simp
      cases chosen : dice.selector with
      | none =>
          simpa [magnitude, printed, Pool.text, chosen, opening] using
            Item.Spells.plain _ _ count (digits dice.sides)
      | some selector =>
          simpa [magnitude, printed, Pool.text, Selector.text, SelectorKind.code, chosen, opening]
            using Item.Spells.selected _ _ selector.kind _ count (digits dice.sides)
              (digits selector.size)

theorem run_toList (term : Term) : term.run.toList = term.signed.sign :: term.magnitude.toList := by
  unfold run SignedItem.sign signed
  cases term.isNegative <;> simp

theorem signed_spells (term : Term) : term.signed.Spells term.run.toList :=
  ⟨term.magnitude.toList, term.run_toList, term.spells_printed⟩

theorem signed_means (term : Term) : term.signed.Means term := by
  cases term with
  | modifier value =>
      simp only [signed, printed, isNegative, SignedItem.Means, Numeral.value_toDigits,
        decide_eq_true_eq]
      split <;> omega
  | pool dice =>
      refine ⟨?_, (Numeral.value_toDigits dice.sides).symm, ?_⟩
      · have positive := dice.count_pos
        by_cases single : dice.count = 1
        · simp [single, Numeral.value]
        · simp only [single, if_false, Numeral.value_toDigits]
          split <;> omega
      · cases chosen : dice.selector with
        | none => rfl
        | some selector => exact ⟨rfl, (Numeral.value_toDigits selector.size).symm⟩

theorem printed_readable (term : Term) (small : term.Small) :
    ∀ digits ∈ term.printed.numbers, Numeral.Readable digits := by
  cases term with
  | modifier value =>
      intro digits member
      rw [List.mem_singleton.mp member]
      exact Numeral.readable_toDigits value.natAbs (small value.natAbs (List.mem_singleton_self _))
  | pool dice =>
      obtain ⟨countSmall, sidesSmall, sizeSmall⟩ := (small_pool_iff dice).mp small
      apply (Item.forall_dice_numbers _ _ _ Numeral.Readable).mpr
      refine ⟨?_, Numeral.readable_toDigits dice.sides sidesSmall, ?_⟩
      · split
        · exact ⟨Numeral.short_nil, Nat.zero_le _⟩
        · exact Numeral.readable_toDigits dice.count countSmall
      · intro given spelled
        obtain ⟨selector, chosen, rfl⟩ := Option.map_eq_some_iff.mp spelled
        exact Numeral.readable_toDigits selector.size (sizeSmall selector chosen)

theorem signed_reads (limits : Limits) (term : Term) (small : term.Small)
    (within : term.Within limits) : term.signed.Reads limits term where
  convertible digits member := (printed_readable term small digits member).2
  admissible := by
    refine ⟨fun digits member => (printed_readable term small digits member).1, ?_⟩
    cases term with
    | modifier value => trivial
    | pool dice =>
        refine ⟨rfl, ?_⟩
        rw [Numeral.value_toDigits]
        exact Nat.ne_of_gt dice.sides_pos
  means := term.signed_means
  within := within

theorem run_read (limits : Limits) (term : Term) (small : term.Small)
    (within : term.Within limits) :
    Reader.run limits term.run.toList = .ok term := by
  rw [Reader.run_of_spells limits _ term.signed term.signed_spells, Reader.item_ok_iff]
  exact term.signed_reads limits small within

theorem number_small (run : String) (number : Nat) (small : number < 10 ^ 9) :
    Reader.number run (Nat.toDigits 10 number) = .ok number := by
  rw [Reader.number_of_readable run _ (Numeral.readable_toDigits number small),
    Numeral.value_toDigits]

theorem number_large (run : String) (number : Nat) (large : ¬ number < 10 ^ 9) :
    Reader.number run (Nat.toDigits 10 number) = .error (.longNumber run) :=
  Reader.number_of_long run _ (mt (Numeral.short_toDigits_iff number).mp large)

theorem pool_blamed (run : String) (dice : Pool) (large : ¬ (pool dice).Small) :
    Reader.pool .unlimited run (if dice.count = 1 then [] else Nat.toDigits 10 dice.count)
      (Nat.toDigits 10 dice.sides)
      (dice.selector.map fun selector => ⟨selector.kind, Nat.toDigits 10 selector.size⟩) =
      .error (.longNumber run) := by
  rw [Reader.pool_error_iff]
  -- The numbers are read from left to right, so those before the large one have to be small.
  by_cases countSmall : dice.count < 10 ^ 9
  · have count : ∃ given, Reader.number run
        (if dice.count = 1 then [] else Nat.toDigits 10 dice.count) = .ok given := by
      split
      · exact ⟨0, rfl⟩
      · exact ⟨dice.count, number_small run dice.count countSmall⟩
    obtain ⟨given, counted⟩ := count
    refine Or.inr ⟨given, counted, ?_⟩
    by_cases sidesSmall : dice.sides < 10 ^ 9
    · refine Or.inr ⟨dice.sides, number_small run dice.sides sidesSmall, Or.inr ?_⟩
      have size : ∃ selector, dice.selector = some selector ∧ ¬ selector.size < 10 ^ 9 := by
        by_contra every
        simp only [not_exists, not_and, not_not] at every
        exact large ((small_pool_iff dice).mpr ⟨countSmall, sidesSmall, every⟩)
      obtain ⟨selector, chosen, sizeLarge⟩ := size
      refine ⟨Nat.ne_of_gt dice.sides_pos, Or.inr ⟨by simp [Limits.unlimited],
        Or.inr ⟨by simp [Limits.unlimited], ?_⟩⟩⟩
      exact ⟨_, by rw [chosen]; rfl, number_large run selector.size sizeLarge⟩
    · exact Or.inl (number_large run dice.sides sidesSmall)
  · have several : dice.count ≠ 1 := by omega
    rw [if_neg several]
    exact Or.inl (number_large run dice.count countSmall)

theorem run_blamed (term : Term) (large : ¬ term.Small) :
    Reader.run .unlimited term.run.toList = .error (.longNumber term.run) := by
  rw [Reader.run_of_spells .unlimited _ term.signed term.signed_spells, String.ofList_toList]
  generalize term.run = run
  cases term with
  | modifier value =>
      have alone : ¬ value.natAbs < 10 ^ 9 := by simpa [Small, numbers] using large
      simp only [signed, printed, Reader.item, number_large run _ alone]
      rfl
  | pool dice =>
      simp only [signed, printed, isNegative, Reader.item, pool_blamed run dice large]
      rfl

end Term

theorem SignedItem.small_of_means (signed : SignedItem) (term : Term)
    (all : ∀ digits ∈ signed.item.numbers, ∀ c ∈ digits, c.isDigit = true)
    (short : ∀ digits ∈ signed.item.numbers, Numeral.Short digits) (means : signed.Means term) :
    term.Small := by
  have small : ∀ digits ∈ signed.item.numbers, Numeral.value digits < 10 ^ 9 := fun digits member =>
    Numeral.short_value_lt digits (all digits member) (short digits member)
  clear all short
  obtain ⟨negative, item⟩ := signed
  cases item with
  | flat digits =>
      have few := small digits List.mem_cons_self
      cases term with
      | pool dice => exact means.elim
      | modifier value =>
          have same : value = _ := means
          have magnitude : value.natAbs = Numeral.value digits := by
            rw [same]
            split <;> omega
          simpa [Term.Small, Term.numbers, magnitude] using few
  | dice count sides spelling =>
      cases term with
      | modifier value => exact means.elim
      | pool dice =>
          obtain ⟨countSame, sidesSame, selected⟩ := means
          obtain ⟨countFew, sidesFew, sizeFew⟩ := (Item.forall_dice_numbers _ _ _ _).mp small
          rw [Term.small_pool_iff, countSame, sidesSame]
          refine ⟨by split <;> omega, sidesFew, fun selector chosen => ?_⟩
          rw [Option.mem_def.mp chosen] at selected
          cases spelling with
          | none => exact absurd selected (by simp [SelectorSpelling.Means])
          | some given =>
              rw [selected.2]
              exact sizeFew given rfl

end DiceRoller
