import DiceRoller.Die
import Mathlib.Algebra.Order.BigOperators.Group.List
import Mathlib.Algebra.Order.Group.Int
import Mathlib.Algebra.Ring.Int.Defs
import Mathlib.Data.List.Sort

/-!
What a pool scores. Only the ranking of its values matters: a selector takes one end of it. So the
order of the draws is of no matter, and when no die gets worse, no place of the ranking does: the
score rises with the dice, and by no more than they rise together.
-/

namespace DiceRoller

/-- The new amount is at least the old one and exceeds it by the gain at most. -/
structure Rises (old new gain : Int) : Prop where
  least : old ≤ new
  most : new ≤ old + gain

namespace Rises

theorem same (amount : Int) : Rises amount amount 0 :=
  ⟨le_refl amount, by omega⟩

theorem add (old new gain oldOther newOther gainOther : Int) (first : Rises old new gain)
    (second : Rises oldOther newOther gainOther) :
    Rises (old + oldOther) (new + newOther) (gain + gainOther) := by
  obtain ⟨least, most⟩ := first
  obtain ⟨leastOther, mostOther⟩ := second
  exact ⟨by omega, by omega⟩

theorem more (old new gain larger : Int) (rises : Rises old new gain) (le : gain ≤ larger) :
    Rises old new larger :=
  ⟨rises.least, by have := rises.most; omega⟩

variable (low high : List Int) (count : Nat) (better : List.Forall₂ (· ≤ ·) low high)
include better

theorem parts :
    (low.take count).sum ≤ (high.take count).sum ∧ (low.drop count).sum ≤ (high.drop count).sum ∧
      (high.take count).sum - (low.take count).sum +
        ((high.drop count).sum - (low.drop count).sum) = high.sum - low.sum := by
  have front := (List.forall₂_take count better).sum_le_sum
  have rest := (List.forall₂_drop count better).sum_le_sum
  have lowSum := List.sum_take_add_sum_drop low count
  have highSum := List.sum_take_add_sum_drop high count
  exact ⟨front, rest, by omega⟩

theorem take : Rises (low.take count).sum (high.take count).sum (high.sum - low.sum) := by
  obtain ⟨front, rest, gain⟩ := parts low high count better
  exact ⟨front, by omega⟩

theorem drop : Rises (low.drop count).sum (high.drop count).sum (high.sum - low.sum) := by
  obtain ⟨front, rest, gain⟩ := parts low high count better
  exact ⟨rest, by omega⟩

end Rises

namespace Die

def descending (values : List Int) : List Int :=
  values.insertionSort (· ≥ ·)

theorem descending_perm (values : List Int) : (descending values).Perm values :=
  List.perm_insertionSort _ values

theorem descending_sorted (values : List Int) : (descending values).Pairwise (· ≥ ·) :=
  List.pairwise_insertionSort _ values

theorem descending_eq_of_perm (values others : List Int) (perm : values.Perm others) :
    descending values = descending others := by
  have same := (descending_perm values).trans (perm.trans (descending_perm others).symm)
  exact same.eq_of_pairwise' (descending_sorted values) (descending_sorted others)

theorem insert_front (value : Int) (rest : List Int) (above : ∀ other ∈ rest, value ≥ other) :
    rest.orderedInsert (· ≥ ·) value = value :: rest := by
  cases rest with
  | nil => rfl
  | cons other rest => exact List.orderedInsert_cons_of_le _ rest (above other List.mem_cons_self)

theorem insert_better (low high : Int) (lows highs : List Int) (better : low ≤ high)
    (sortedLows : lows.Pairwise (· ≥ ·)) (sortedHighs : highs.Pairwise (· ≥ ·))
    (all : List.Forall₂ (· ≤ ·) lows highs) :
    List.Forall₂ (· ≤ ·) (lows.orderedInsert (· ≥ ·) low) (highs.orderedInsert (· ≥ ·) high) := by
  induction all generalizing low high with
  | nil => exact .cons better .nil
  | @cons first second lows highs here behind ih =>
      rw [List.pairwise_cons] at sortedLows sortedHighs
      have step := fun low high better => ih low high better sortedLows.2 sortedHighs.2
      -- A head that is pushed back is itself put in front of what stands behind it.
      by_cases lowFront : low ≥ first
      · by_cases highFront : high ≥ second
        · simp only [List.orderedInsert_cons, lowFront, highFront, if_true]
          exact .cons better (.cons here behind)
        · simp only [List.orderedInsert_cons, lowFront, highFront, if_true, if_false]
          rw [← insert_front first lows sortedLows.1]
          exact .cons (by omega) (step first high (by omega))
      · by_cases highFront : high ≥ second
        · simp only [List.orderedInsert_cons, lowFront, highFront, if_true, if_false]
          rw [← insert_front second highs sortedHighs.1]
          exact .cons (by omega) (step low second (by omega))
        · simp only [List.orderedInsert_cons, lowFront, highFront, if_false]
          exact .cons here (step low high better)

theorem descending_better (lows highs : List Int) (all : List.Forall₂ (· ≤ ·) lows highs) :
    List.Forall₂ (· ≤ ·) (descending lows) (descending highs) := by
  induction all with
  | nil => exact .nil
  | @cons low high lows highs better behind ih =>
      exact insert_better low high _ _ better (descending_sorted lows) (descending_sorted highs) ih

theorem of_rolls_values (rolls : List Int) : (ofRolls rolls).map value = rolls := by
  simp [ofRolls, Function.comp_def]

theorem ranked_perm (rolls : List Int) : (ranked rolls).Perm (ofRolls rolls) :=
  List.mergeSort_perm _ _

theorem ranked_length (rolls : List Int) : (ranked rolls).length = rolls.length := by
  simpa [ofRolls] using (ranked_perm rolls).length_eq

theorem no_worse_trans (first second third : Die)
    (front : decide (second.value ≤ first.value) = true)
    (back : decide (third.value ≤ second.value) = true) :
    decide (third.value ≤ first.value) = true :=
  decide_eq_true ((of_decide_eq_true back).trans (of_decide_eq_true front))

theorem no_worse_total (first second : Die) :
    (decide (second.value ≤ first.value) || decide (first.value ≤ second.value)) = true := by
  simpa using le_total second.value first.value

theorem ranked_sorted (rolls : List Int) :
    (ranked rolls).Pairwise fun first second => second.value ≤ first.value :=
  (List.pairwise_mergeSort no_worse_trans no_worse_total _).imp of_decide_eq_true

theorem ranked_values (rolls : List Int) : (ranked rolls).map value = descending rolls := by
  have perm : ((ranked rolls).map value).Perm (descending rolls) := by
    have same := (ranked_perm rolls).map value
    rw [of_rolls_values] at same
    exact same.trans (descending_perm rolls).symm
  have sorted : ((ranked rolls).map value).Pairwise (· ≥ ·) :=
    List.pairwise_map.mpr (ranked_sorted rolls)
  exact perm.eq_of_pairwise' sorted (descending_sorted rolls)

end Die

namespace Selector

def part {A : Type} (selector : Selector) (ranking : List A) : List A :=
  match selector.kind with
  | .keepHigh => ranking.take selector.size
  | .keepLow => ranking.drop (ranking.length - selector.size)
  | .dropHigh => ranking.drop selector.size
  | .dropLow => ranking.take (ranking.length - selector.size)

theorem part_map {A B : Type} (selector : Selector) (f : A → B) (ranking : List A) :
    (selector.part ranking).map f = selector.part (ranking.map f) := by
  unfold part
  cases selector.kind <;> simp

/-- Keeping the highest dice, or dropping the lowest ones, takes the front of the ranking. -/
theorem part_front {A : Type} (selector : Selector) (ranking : List A)
    (high : selector.kind ∈ [.keepHigh, .dropLow]) :
    ∃ rest, ranking = selector.part ranking ++ rest := by
  unfold part
  rcases List.mem_pair.mp high with kind | kind
  · exact ⟨ranking.drop selector.size, by simp [kind]⟩
  · exact ⟨ranking.drop (ranking.length - selector.size), by simp [kind]⟩

theorem part_back {A : Type} (selector : Selector) (ranking : List A)
    (low : selector.kind ∈ [.keepLow, .dropHigh]) :
    ∃ front, ranking = front ++ selector.part ranking := by
  unfold part
  rcases List.mem_pair.mp low with kind | kind
  · exact ⟨ranking.take (ranking.length - selector.size), by simp [kind]⟩
  · exact ⟨ranking.take selector.size, by simp [kind]⟩

theorem part_sublist {A : Type} (selector : Selector) (ranking : List A) :
    (selector.part ranking).Sublist ranking := by
  unfold part
  cases selector.kind
  case keepHigh => exact List.take_sublist _ _
  case keepLow => exact List.drop_sublist _ _
  case dropHigh => exact List.drop_sublist _ _
  case dropLow => exact List.take_sublist _ _

/-- How many of some dice a selector lets count. One that is larger than the pool takes all dice. -/
def counted (selector : Selector) (dice : Nat) : Nat :=
  match selector.kind with
  | .keepHigh | .keepLow => min selector.size dice
  | .dropHigh | .dropLow => dice - min selector.size dice

theorem part_length {A : Type} (selector : Selector) (ranking : List A) :
    (selector.part ranking).length = selector.counted ranking.length := by
  unfold part counted
  cases selector.kind
  case keepHigh => exact List.length_take
  case keepLow =>
    simp only [List.length_drop]
    omega
  case dropHigh =>
    simp only [List.length_drop]
    omega
  case dropLow =>
    simp only [List.length_take]
    omega

theorem part_rises (selector : Selector) (low high : List Int)
    (better : List.Forall₂ (· ≤ ·) low high) :
    Rises (selector.part low).sum (selector.part high).sum (high.sum - low.sum) := by
  unfold part
  rw [better.length_eq]
  cases selector.kind
  case keepHigh => exact Rises.take low high _ better
  case keepLow => exact Rises.drop low high _ better
  case dropHigh => exact Rises.drop low high _ better
  case dropLow => exact Rises.take low high _ better

theorem chosen_perm (selector : Selector) (rolls : List Int) :
    (selector.chosen rolls).Perm (selector.part (Die.ranked rolls)) := by
  unfold chosen part
  rw [Die.ranked_length]
  cases selector.kind
  case keepHigh => exact List.Perm.refl _
  case keepLow => exact List.mergeSort_perm _ _
  case dropHigh => exact List.mergeSort_perm _ _
  case dropLow => exact List.mergeSort_perm _ _

end Selector

namespace Pool

/-- How many of some dice count. -/
def counted (pool : Pool) (dice : Nat) : Nat :=
  match pool.selector with
  | none => dice
  | some selector => selector.counted dice

theorem subtotal_eq_sum (dice : Pool) (rolls : List Int) :
    dice.subtotal rolls = ((dice.chosen rolls).map Die.value).sum := by
  unfold subtotal
  rw [List.sum_eq_foldr, List.foldr_map]

theorem subtotal_plain (dice : Pool) (plain : dice.selector = none) (rolls : List Int) :
    dice.subtotal rolls = rolls.sum := by
  rw [subtotal_eq_sum]
  simp only [chosen, plain, Die.of_rolls_values]

theorem subtotal_selected (dice : Pool) (selector : Selector)
    (selected : dice.selector = some selector) (rolls : List Int) :
    dice.subtotal rolls = (selector.part (Die.descending rolls)).sum := by
  rw [subtotal_eq_sum]
  simp only [chosen, selected]
  rw [((selector.chosen_perm rolls).map Die.value).sum_eq, Selector.part_map, Die.ranked_values]

theorem subtotal_eq_of_perm (dice : Pool) (rolls others : List Int) (perm : rolls.Perm others) :
    dice.subtotal rolls = dice.subtotal others := by
  cases selected : dice.selector with
  | none =>
      rw [dice.subtotal_plain selected, dice.subtotal_plain selected]
      exact perm.sum_eq
  | some selector =>
      rw [dice.subtotal_selected selector selected, dice.subtotal_selected selector selected,
        Die.descending_eq_of_perm rolls others perm]

theorem subtotal_rises (dice : Pool) (low high : List Int)
    (better : List.Forall₂ (· ≤ ·) low high) :
    Rises (dice.subtotal low) (dice.subtotal high) (high.sum - low.sum) := by
  cases selected : dice.selector with
  | none =>
      rw [dice.subtotal_plain selected, dice.subtotal_plain selected]
      have more := better.sum_le_sum
      exact ⟨more, by omega⟩
  | some selector =>
      rw [dice.subtotal_selected selector selected, dice.subtotal_selected selector selected,
        ← (Die.descending_perm low).sum_eq, ← (Die.descending_perm high).sum_eq]
      exact selector.part_rises _ _ (Die.descending_better low high better)

end Pool

end DiceRoller
