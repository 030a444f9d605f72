import DiceRoller.Proofs.Ranking
import Mathlib.Data.List.Permutation

/-!
Which dice a pool lets count, told by their places in the order of the draws. In the ranking a
higher value comes first, and of equal values the one that was drawn first. A selector takes as many
places as it counts from one end of the ranking; with the order in which they are reported, this
leaves one list of places only.
-/

namespace DiceRoller

/-- The die at the first place is ranked before the die at the second one. -/
def Outranks (rolls : List Int) (first second : Nat) : Prop :=
  ∃ value other, rolls[first]? = some value ∧ rolls[second]? = some other ∧
    (other < value ∨ value = other ∧ first < second)

theorem Outranks.asymm (rolls : List Int) (first second : Nat)
    (before : Outranks rolls first second) : ¬ Outranks rolls second first := by
  obtain ⟨value, other, here, there, higher⟩ := before
  rintro ⟨otherAgain, valueAgain, thereAgain, hereAgain, lower⟩
  obtain rfl : other = otherAgain := Option.some.inj (there.symm.trans thereAgain)
  obtain rfl : value = valueAgain := Option.some.inj (here.symm.trans hereAgain)
  omega

/-- These places, in this order, are the dice of the pool that count. -/
structure Pool.Chooses (pool : Pool) (rolls : List Int) (places : List Nat) : Prop where
  distinct : places.Nodup
  inside : ∀ place ∈ places, place < rolls.length
  count : places.length = pool.counted rolls.length
  ranked : pool.selector.map Selector.kind = some .keepHigh → places.Pairwise (Outranks rolls)
  inDrawOrder : pool.selector.map Selector.kind ≠ some .keepHigh → places.Pairwise (· < ·)
  highest : pool.selector.map Selector.kind ∈ [some .keepHigh, some .dropLow] →
    ∀ chosen ∈ places, ∀ other < rolls.length, other ∉ places → Outranks rolls chosen other
  lowest : pool.selector.map Selector.kind ∈ [some .keepLow, some .dropHigh] →
    ∀ chosen ∈ places, ∀ other < rolls.length, other ∉ places → Outranks rolls other chosen

namespace Die

theorem mem_of_rolls_iff (rolls : List Int) (die : Die) :
    die ∈ ofRolls rolls ↔ rolls[die.place]? = some die.value := by
  obtain ⟨value, place⟩ := die
  simp [ofRolls, List.mk_mem_zipIdx_iff_getElem?]

theorem of_rolls_places (rolls : List Int) :
    (ofRolls rolls).map place = List.range rolls.length := by
  simp [ofRolls, Function.comp_def, List.range_eq_range']

theorem of_rolls_sorted (rolls : List Int) :
    (ofRolls rolls).Pairwise fun first second => first.place < second.place := by
  rw [← List.pairwise_map (f := place), of_rolls_places]
  exact List.pairwise_lt_range

theorem ranked_stable (rolls : List Int) (shown : Int) :
    (ranked rolls).filter (fun die => die.value = shown) =
      (ofRolls rolls).filter fun die => die.value = shown := by
  have level : ((ofRolls rolls).filter fun die => die.value = shown).Pairwise
      fun first second => decide (second.value ≤ first.value) = true := by
    rw [List.pairwise_filter]
    exact List.pairwise_of_forall fun first second here there => by
      simp_all
  -- A stable sort moves no two dice of one value past each other.
  have kept := (List.sublist_mergeSort no_worse_trans no_worse_total level
    List.filter_sublist).filter fun die => die.value = shown
  rw [List.filter_filter] at kept
  simp only [Bool.and_self] at kept
  exact (kept.eq_of_length ((ranked_perm rolls).symm.filter _).length_eq).symm

theorem ranked_places_sorted (rolls : List Int) :
    ((ranked rolls).map place).Pairwise (Outranks rolls) := by
  rw [List.pairwise_map, List.pairwise_iff_forall_sublist]
  intro first second pair
  have drawn : ∀ die ∈ [first, second], rolls[die.place]? = some die.value := fun die member =>
    (mem_of_rolls_iff rolls die).mp ((ranked_perm rolls).mem_iff.mp (pair.subset member))
  refine ⟨first.value, second.value, drawn first (by simp), drawn second (by simp), ?_⟩
  have noWorse := List.pairwise_iff_forall_sublist.mp (ranked_sorted rolls) pair
  rcases noWorse.lt_or_eq with lower | level
  · exact Or.inl lower
  · have same := pair.filter fun die => die.value = first.value
    rw [ranked_stable] at same
    simp only [level, decide_true, List.filter_cons_of_pos, List.filter_nil] at same
    have order := List.pairwise_iff_forall_sublist.mp (of_rolls_sorted rolls)
      (same.trans List.filter_sublist)
    exact Or.inr ⟨level.symm, order⟩

theorem ranked_places_perm (rolls : List Int) :
    ((ranked rolls).map place).Perm (List.range rolls.length) := by
  rw [← of_rolls_places]
  exact (ranked_perm rolls).map place

theorem in_draw_order_sorted (dice : List Die) (distinct : (dice.map place).Nodup) :
    ((inDrawOrder dice).map place).Pairwise (· < ·) := by
  have perm : ((inDrawOrder dice).map place).Perm (dice.map place) :=
    (List.mergeSort_perm dice _).map place
  have sorted : ((inDrawOrder dice).map place).Pairwise (· ≤ ·) := by
    rw [List.pairwise_map]
    apply (List.pairwise_mergeSort _ _ _).imp
    · exact fun before => of_decide_eq_true before
    · intro first second third
      simp only [decide_eq_true_eq]
      omega
    · intro first second
      simp only [Bool.or_eq_true, decide_eq_true_eq]
      omega
  exact (sorted.and (perm.nodup_iff.mpr distinct)).imp fun both => lt_of_le_of_ne both.1 both.2

end Die

/-- The value of the die at a place; nothing lies beyond the last one. -/
def valueAt (rolls : List Int) (place : Nat) : Int :=
  rolls.getD place 0

def sumAt (rolls : List Int) (places : List Nat) : Int :=
  (places.map (valueAt rolls)).sum

theorem Outranks.no_worse (rolls : List Int) (first second : Nat)
    (before : Outranks rolls first second) : valueAt rolls second ≤ valueAt rolls first := by
  obtain ⟨value, other, here, there, higher⟩ := before
  simp only [valueAt, List.getD_eq_getElem?_getD, here, there, Option.getD_some]
  omega

namespace Pool

variable (pool : Pool) (rolls : List Int)

theorem chosen_drawn : ∀ die ∈ pool.chosen rolls, die ∈ Die.ofRolls rolls := by
  cases selected : pool.selector with
  | none => simp only [chosen, selected, imp_self, implies_true]
  | some selector =>
      simp only [chosen, selected]
      intro die member
      have inPart := (selector.chosen_perm rolls).mem_iff.mp member
      exact (Die.ranked_perm rolls).mem_iff.mp ((selector.part_sublist _).subset inPart)

theorem subtotal_eq_sum_at : pool.subtotal rolls = sumAt rolls (pool.places rolls) := by
  rw [subtotal_eq_sum, sumAt, places, List.map_map]
  congr 1
  apply List.map_congr_left
  intro die member
  have shown := (Die.mem_of_rolls_iff rolls die).mp (pool.chosen_drawn rolls die member)
  simp only [Function.comp_apply, valueAt, List.getD_eq_getElem?_getD, shown, Option.getD_some]

theorem places_plain (plain : pool.selector = none) :
    pool.places rolls = List.range rolls.length := by
  simp only [places, chosen, plain, Die.of_rolls_places]

theorem places_perm (selector : Selector) (selected : pool.selector = some selector) :
    (pool.places rolls).Perm (selector.part ((Die.ranked rolls).map Die.place)) := by
  rw [← Selector.part_map]
  simp only [places, chosen, selected]
  exact (selector.chosen_perm rolls).map Die.place

theorem places_ranked (selector : Selector) (selected : pool.selector = some selector)
    (kind : selector.kind = .keepHigh) : (pool.places rolls).Pairwise (Outranks rolls) := by
  simp only [places, chosen, selected, Selector.chosen, kind, List.map_take]
  exact (Die.ranked_places_sorted rolls).sublist (List.take_sublist _ _)

theorem places_in_draw_order (selector : Selector) (selected : pool.selector = some selector)
    (kind : selector.kind ≠ .keepHigh) : (pool.places rolls).Pairwise (· < ·) := by
  have distinct := (Die.ranked_places_perm rolls).nodup_iff.mpr List.nodup_range
  simp only [places, chosen, selected, Selector.chosen]
  cases kinds : selector.kind with
  | keepHigh => exact absurd kinds kind
  | keepLow | dropHigh =>
      apply Die.in_draw_order_sorted
      rw [List.map_drop]
      exact distinct.sublist (List.drop_sublist _ _)
  | dropLow =>
      apply Die.in_draw_order_sorted
      rw [List.map_take]
      exact distinct.sublist (List.take_sublist _ _)

theorem places_choose : pool.Chooses rolls (pool.places rolls) := by
  cases selected : pool.selector with
  | none =>
      rw [pool.places_plain rolls selected]
      exact {
        distinct := List.nodup_range
        inside := by simp
        count := by simp [counted, selected]
        ranked := by simp [selected]
        inDrawOrder := fun _ => List.pairwise_lt_range
        highest := by simp [selected]
        lowest := by simp [selected] }
  | some selector =>
      have perm := pool.places_perm rolls selector selected
      have whole := Die.ranked_places_perm rolls
      have sorted := Die.ranked_places_sorted rolls
      have mem_ranking : ∀ place, place ∈ (Die.ranked rolls).map Die.place ↔
          place < rolls.length := fun place => whole.mem_iff.trans List.mem_range
      have sublist := selector.part_sublist ((Die.ranked rolls).map Die.place)
      exact {
        distinct := perm.nodup_iff.mpr ((whole.nodup_iff.mpr List.nodup_range).sublist sublist)
        inside := fun place member =>
          (mem_ranking place).mp (sublist.subset (perm.mem_iff.mp member))
        count := by
          rw [perm.length_eq, selector.part_length, whole.length_eq, List.length_range]
          simp only [counted, selected]
        ranked := fun kind =>
          pool.places_ranked rolls selector selected (by simpa [selected] using kind)
        inDrawOrder := fun kind =>
          pool.places_in_draw_order rolls selector selected (by simpa [selected] using kind)
        highest := by
          intro high chosen member other inside left
          obtain ⟨rest, split⟩ := selector.part_front ((Die.ranked rolls).map Die.place)
            (by simpa [selected] using high)
          have behind := (mem_ranking other).mpr inside
          rw [split, List.mem_append, ← perm.mem_iff] at behind
          rw [split, List.pairwise_append] at sorted
          exact sorted.2.2 chosen (perm.mem_iff.mp member) other (behind.resolve_left left)
        lowest := by
          intro low chosen member other inside left
          obtain ⟨front, split⟩ := selector.part_back ((Die.ranked rolls).map Die.place)
            (by simpa [selected] using low)
          have before := (mem_ranking other).mpr inside
          rw [split, List.mem_append, ← perm.mem_iff] at before
          rw [split, List.pairwise_append] at sorted
          exact sorted.2.2 other (before.resolve_right left) chosen (perm.mem_iff.mp member) }

namespace Chooses
variable {pool : Pool} {rolls : List Int} {places others : List Nat}
  (chooses : pool.Chooses rolls places) (choosesOther : pool.Chooses rolls others)
include chooses

theorem mem_of_plain (plain : pool.selector = none) (place : Nat) (inside : place < rolls.length) :
    place ∈ places := by
  have subset : places ⊆ List.range rolls.length := fun found member =>
    List.mem_range.mpr (chooses.inside found member)
  have perm : places.Perm (List.range rolls.length) := by
    apply (List.subperm_of_subset chooses.distinct subset).perm_of_length_le
    rw [chooses.count, List.length_range, counted, plain]
  exact perm.mem_iff.mpr (List.mem_range.mpr inside)

include choosesOther

theorem subset_other : places ⊆ others := by
  intro place member
  by_contra absent
  have inside := chooses.inside place member
  -- Both lists are of one length, so another place makes up for the one that is absent.
  obtain ⟨other, memberOther, absentOther⟩ : ∃ other ∈ others, other ∉ places := by
    by_contra! covered
    have perm := (List.subperm_of_subset choosesOther.distinct covered).perm_of_length_le
      (by rw [chooses.count, choosesOther.count])
    exact absent (perm.mem_iff.mpr member)
  have insideOther := choosesOther.inside other memberOther
  cases selected : pool.selector with
  | none => exact absent (choosesOther.mem_of_plain selected place inside)
  | some selector =>
      by_cases high : pool.selector.map Selector.kind ∈ [some .keepHigh, some .dropLow]
      · exact Outranks.asymm rolls place other
          (chooses.highest high place member other insideOther absentOther)
          (choosesOther.highest high other memberOther place inside absent)
      · have low : pool.selector.map Selector.kind ∈ [some .keepLow, some .dropHigh] := by
          cases kind : selector.kind <;> simp_all
        exact Outranks.asymm rolls other place
          (chooses.lowest low place member other insideOther absentOther)
          (choosesOther.lowest low other memberOther place inside absent)

theorem unique : places = others := by
  have perm : places.Perm others :=
    (List.subperm_of_subset chooses.distinct (chooses.subset_other choosesOther)).antisymm
      (List.subperm_of_subset choosesOther.distinct (choosesOther.subset_other chooses))
  by_cases ranked : pool.selector.map Selector.kind = some .keepHigh
  · refine perm.eq_of_pairwise (fun first second _ _ front back => ?_) (chooses.ranked ranked)
      (choosesOther.ranked ranked)
    exact absurd back (Outranks.asymm rolls first second front)
  · refine perm.eq_of_pairwise (fun first second _ _ front back => ?_)
      (chooses.inDrawOrder ranked) (choosesOther.inDrawOrder ranked)
    exact absurd back front.asymm

end Chooses

/-- The places that count, whatever the rolls are and however many: these and no others meet the
rules of choosing. -/
theorem places_iff (places : List Nat) :
    pool.Chooses rolls places ↔ places = pool.places rolls := by
  constructor
  · exact fun chooses => chooses.unique (pool.places_choose rolls)
  · rintro rfl
    exact pool.places_choose rolls

/-- Of four dice with a tie in the middle, the highest two, the lowest two and all but one. -/
example :
    places ⟨4, 6, some ⟨.keepHigh, 2, by decide⟩, by decide, by decide⟩ [3, 1, 5, 3] = [2, 0] ∧
    places ⟨4, 6, some ⟨.keepLow, 2, by decide⟩, by decide, by decide⟩ [3, 1, 5, 3] = [1, 3] ∧
    places ⟨4, 6, some ⟨.dropLow, 1, by decide⟩, by decide, by decide⟩ [3, 1, 5, 3] = [0, 2, 3] ∧
    places ⟨4, 6, some ⟨.dropHigh, 9, by decide⟩, by decide, by decide⟩ [3, 1, 5, 3] = [] := by
  cbv

end Pool

end DiceRoller
