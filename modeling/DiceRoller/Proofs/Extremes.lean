import DiceRoller.Proofs.Choosing
import DiceRoller.Proofs.Rolling
import Mathlib.Algebra.Order.BigOperators.Group.Finset
import Mathlib.Algebra.Order.Ring.Int
import Mathlib.Data.Finset.Max
import Mathlib.Data.Finset.Powerset

/-!
Selectors are extreme. Of all ways to pick as many dice of a pool, keeping the highest or dropping
the lowest picks dice that show the most together, and the other two selectors pick dice that show
the least. A pick that differs trades some dice for as many others, and no trade is for the better.
-/

namespace DiceRoller

/-- The sets of so many places of a pool. -/
def picks (rolls : List Int) (dice : Nat) : Finset (Finset Nat) :=
  (Finset.range rolls.length).powersetCard dice

/-- What so many dice of a pool can show together. -/
def pickedSums (rolls : List Int) (dice : Nat) : Set Int :=
  {sum | ∃ places ∈ picks rolls dice, sum = ∑ place ∈ places, valueAt rolls place}

/-- Places that are traded for no worse ones, as many for as many, show no more than those. -/
theorem sum_le_of_trade (values : Nat → Int) (lower higher : Finset Nat)
    (count : lower.card = higher.card)
    (trade : ∀ given ∈ lower \ higher, ∀ taken ∈ higher \ lower, values given ≤ values taken) :
    ∑ place ∈ lower, values place ≤ ∑ place ∈ higher, values place := by
  rw [← Finset.sum_sdiff_le_sum_sdiff]
  have traded : (lower \ higher).card = (higher \ lower).card := Finset.card_sdiff_comm count
  rcases (lower \ higher).eq_empty_or_nonempty with none | some
  · have nothing : higher \ lower = ∅ := by
      rw [← Finset.card_eq_zero, ← traded, none, Finset.card_empty]
    rw [none, nothing]
  · -- The best die that is given parts what is given from what is taken.
    obtain ⟨best, member, most⟩ := Finset.exists_max_image _ values some
    calc ∑ place ∈ lower \ higher, values place
      _ ≤ (lower \ higher).card • values best := Finset.sum_le_card_nsmul _ _ _ most
      _ = (higher \ lower).card • values best := by rw [traded]
      _ ≤ ∑ place ∈ higher \ lower, values place :=
          Finset.card_nsmul_le_sum _ _ _ (trade best member)

namespace Pool.Chooses
variable {pool : Pool} {rolls : List Int} {places : List Nat}
  (chooses : pool.Chooses rolls places)
include chooses

theorem sum_toFinset : ∑ place ∈ places.toFinset, valueAt rolls place = sumAt rolls places :=
  List.sum_toFinset (valueAt rolls) chooses.distinct

theorem mem_picks : places.toFinset ∈ picks rolls (pool.counted rolls.length) := by
  rw [picks, Finset.mem_powersetCard]
  constructor
  · intro place member
    exact Finset.mem_range.mpr (chooses.inside place (List.mem_toFinset.mp member))
  · rw [List.toFinset_card_of_nodup chooses.distinct, chooses.count]

theorem others_picked (others : Finset Nat)
    (picked : others ∈ picks rolls (pool.counted rolls.length)) :
    others.card = places.toFinset.card ∧
      ∀ other ∈ others \ places.toFinset, other < rolls.length ∧ other ∉ places := by
  obtain ⟨inside, count⟩ := Finset.mem_powersetCard.mp picked
  refine ⟨by rw [count, (Finset.mem_powersetCard.mp chooses.mem_picks).2], fun other traded => ?_⟩
  obtain ⟨member, absent⟩ := Finset.mem_sdiff.mp traded
  exact ⟨Finset.mem_range.mp (inside member), mt List.mem_toFinset.mpr absent⟩

theorem greatest (high : pool.selector.map Selector.kind ∈ [some .keepHigh, some .dropLow]) :
    IsGreatest (pickedSums rolls (pool.counted rolls.length)) (sumAt rolls places) := by
  refine ⟨⟨_, chooses.mem_picks, chooses.sum_toFinset.symm⟩, ?_⟩
  rintro _ ⟨others, picked, rfl⟩
  obtain ⟨count, left⟩ := chooses.others_picked others picked
  rw [← chooses.sum_toFinset]
  apply sum_le_of_trade (valueAt rolls) others places.toFinset count
  intro other traded chosen taken
  have member := List.mem_toFinset.mp (Finset.mem_sdiff.mp taken).1
  obtain ⟨inside, absent⟩ := left other traded
  exact (chooses.highest high chosen member other inside absent).no_worse

theorem least (low : pool.selector.map Selector.kind ∈ [some .keepLow, some .dropHigh]) :
    IsLeast (pickedSums rolls (pool.counted rolls.length)) (sumAt rolls places) := by
  refine ⟨⟨_, chooses.mem_picks, chooses.sum_toFinset.symm⟩, ?_⟩
  rintro _ ⟨others, picked, rfl⟩
  obtain ⟨count, left⟩ := chooses.others_picked others picked
  rw [← chooses.sum_toFinset]
  apply sum_le_of_trade (valueAt rolls) places.toFinset others count.symm
  intro chosen given other traded
  have member := List.mem_toFinset.mp (Finset.mem_sdiff.mp given).1
  obtain ⟨inside, absent⟩ := left other traded
  exact (chooses.lowest low chosen member other inside absent).no_worse

end Pool.Chooses

namespace Pool

theorem detail_eq (pool : Pool) (rolls : List Int) :
    pool.detail rolls = .dice pool rolls ((pool.places rolls).map Int.ofNat)
      (sumAt rolls (pool.places rolls)) := by
  rw [detail, pool.subtotal_eq_sum_at]

theorem roll_some_iff (pool : Pool) (source next : Source) (detail : Detail) :
    pool.roll source = (some detail, next) ↔
      ∃ rolls, source.drawMany pool.count pool.sides = (some rolls, next) ∧
        rolls.length = pool.count ∧ detail = .dice pool rolls
          ((pool.places rolls).map Int.ofNat) (sumAt rolls (pool.places rolls)) := by
  simp only [← detail_eq]
  constructor
  · intro rolled
    unfold roll at rolled
    split at rolled
    next rolls after drawn =>
      obtain ⟨rfl, rfl⟩ : pool.detail rolls = detail ∧ after = next := by simpa using rolled
      refine ⟨rolls, drawn, ?_, rfl⟩
      rw [Source.draw_many_eq] at drawn
      rw [Source.draw_all_length _ _ _ _ drawn, List.length_replicate]
    next => cases rolled
  · rintro ⟨rolls, drawn, -, rfl⟩
    simp only [roll, drawn]

theorem roll_script (pool : Pool) (rolls : List Int) (length : rolls.length = pool.count)
    (label : Option String) (rest : List Int) :
    ∃ next, pool.roll (.script label (rolls ++ rest)) = (some (.dice pool rolls
      ((pool.places rolls).map Int.ofNat) (sumAt rolls (pool.places rolls))), next) := by
  obtain ⟨next, drawn, -⟩ := Source.draw_all_script (List.replicate pool.count pool.sides) rolls
    rest (.script label (rolls ++ rest)) (by rw [length, List.length_replicate]) rfl
  rw [← Source.draw_many_eq] at drawn
  exact ⟨next, (pool.roll_some_iff _ next _).mpr ⟨rolls, drawn, length, rfl⟩⟩

/-- Of all picks of as many dice, whatever they show, those of the selector show the most together
when it keeps the highest or drops the lowest, and else the least. A pool is rolled just when the
source answers all of its dice, as a script does that opens with them, and it scores what the dice
at these places of its own rolls show. -/
theorem subtotal_extreme (pool : Pool) (selector : Selector)
    (selected : pool.selector = some selector) (rolls : List Int) :
    (pool.places rolls).Nodup ∧
      (pool.places rolls).toFinset ∈ picks rolls (selector.counted rolls.length) ∧
      (selector.kind ∈ [.keepHigh, .dropLow] →
        IsGreatest (pickedSums rolls (selector.counted rolls.length))
          (sumAt rolls (pool.places rolls))) ∧
      (selector.kind ∈ [.keepLow, .dropHigh] →
        IsLeast (pickedSums rolls (selector.counted rolls.length))
          (sumAt rolls (pool.places rolls))) ∧
      (∀ source next detail, pool.roll source = (some detail, next) ↔
        ∃ rolled, source.drawMany pool.count pool.sides = (some rolled, next) ∧
          rolled.length = pool.count ∧ detail = .dice pool rolled
            ((pool.places rolled).map Int.ofNat) (sumAt rolled (pool.places rolled))) ∧
      (rolls.length = pool.count → ∀ label rest, ∃ next,
        pool.roll (.script label (rolls ++ rest)) = (some (.dice pool rolls
          ((pool.places rolls).map Int.ofNat) (sumAt rolls (pool.places rolls))), next)) := by
  have chooses := pool.places_choose rolls
  have counted : pool.counted rolls.length = selector.counted rolls.length := by
    simp only [Pool.counted, selected]
  rw [← counted]
  refine ⟨chooses.distinct, chooses.mem_picks, fun high => chooses.greatest ?_,
    fun low => chooses.least ?_, pool.roll_some_iff, pool.roll_script rolls⟩
  · simpa [selected] using high
  · simpa [selected] using low

/-- The better two of four dice, one of them of a tie. -/
theorem subtotal_extreme_tie :
    let dice : Pool := ⟨4, 6, some ⟨.keepHigh, 2, by decide⟩, by decide, by decide⟩
    dice.selector = some ⟨.keepHigh, 2, by decide⟩ ∧
      IsGreatest (pickedSums [3, -1, 5, 3] 2) (sumAt [3, -1, 5, 3] (dice.places [3, -1, 5, 3])) ∧
      sumAt [3, -1, 5, 3] (dice.places [3, -1, 5, 3]) = 8 ∧
      ∃ next, dice.roll (.script none [3, -1, 5, 3, 6]) =
        (some (.dice dice [3, -1, 5, 3] [2, 0] 8), next) := by
  intro dice
  obtain ⟨-, -, greatest, -, -, rolled⟩ := subtotal_extreme dice _ rfl [3, -1, 5, 3]
  have places : dice.places [3, -1, 5, 3] = [2, 0] := by cbv
  have sum : sumAt [3, -1, 5, 3] (dice.places [3, -1, 5, 3]) = 8 := by cbv
  obtain ⟨next, recorded⟩ := rolled rfl none [6]
  refine ⟨rfl, greatest (by decide), sum, next, ?_⟩
  rw [sum, places] at recorded
  exact recorded

end Pool

end DiceRoller
