import DiceRoller.Proofs.Choosing

/-!
The four selectors are one another's counterparts. They all take a piece off one ranking: keeping
and dropping from the same end part it, taking from opposite ends of it can leave the same dice, and
a table that is read backwards with all values negated is ranked the other way round. Ties are no
exception to any of this.
-/

namespace DiceRoller

namespace SelectorKind

/-- Takes from the same end of the ranking, and keeps what this one drops. -/
def complement : SelectorKind → SelectorKind
  | keepHigh => dropHigh
  | keepLow => dropLow
  | dropHigh => keepHigh
  | dropLow => keepLow

def opposite : SelectorKind → SelectorKind
  | keepHigh => keepLow
  | keepLow => keepHigh
  | dropHigh => dropLow
  | dropLow => dropHigh

end SelectorKind

def Pool.under (pool : Pool) (kind : SelectorKind) (size : Nat) (positive : 0 < size) : Pool :=
  { pool with selector := some ⟨kind, size, positive⟩ }

/-- The table read backwards, with all values negated. -/
def mirrored (rolls : List Int) : List Int :=
  (rolls.map Neg.neg).reverse

def mirrorPlace (rolls : List Int) (place : Nat) : Nat :=
  rolls.length - 1 - place

namespace Selector
variable {A : Type} (kind : SelectorKind) (size : Nat) (positive : 0 < size) (ranking : List A)

theorem part_complement : (part ⟨kind, size, positive⟩ ranking ++
    part ⟨kind.complement, size, positive⟩ ranking).Perm ranking := by
  have front : ∀ count, (ranking.take count ++ ranking.drop count).Perm ranking := fun count =>
    List.Perm.of_eq (List.take_append_drop count ranking)
  -- The piece at the back stands first when it is the one that is kept.
  cases kind with
  | keepHigh => exact front _
  | dropLow => exact front _
  | keepLow => exact List.perm_append_comm.trans (front _)
  | dropHigh => exact List.perm_append_comm.trans (front _)

theorem part_opposite : part ⟨kind.opposite, size, positive⟩ ranking.reverse =
    (part ⟨kind, size, positive⟩ ranking).reverse := by
  have clamped : min (ranking.length - (ranking.length - size)) ranking.length =
      min size ranking.length := by omega
  cases kind with
  | keepLow => exact List.take_reverse
  | dropLow => exact List.drop_reverse
  | keepHigh =>
      simp only [part, SelectorKind.opposite, List.length_reverse, List.drop_reverse]
      rw [List.take_eq_take_iff.mpr clamped]
  | dropHigh =>
      simp only [part, SelectorKind.opposite, List.length_reverse, List.take_reverse]
      rw [List.drop_eq_drop_iff.mpr clamped]

theorem part_others (smaller : size < ranking.length) :
    part ⟨kind.opposite.complement, ranking.length - size, by omega⟩ ranking =
      part ⟨kind, size, positive⟩ ranking := by
  have back : ranking.length - (ranking.length - size) = size := by omega
  cases kind <;> simp only [part, SelectorKind.opposite, SelectorKind.complement, back]

end Selector

section Mirror
variable (rolls : List Int)

theorem mirrored_length : (mirrored rolls).length = rolls.length := by
  simp [mirrored]

theorem mirrored_at (place : Nat) (inside : place < rolls.length) :
    (mirrored rolls)[mirrorPlace rolls place]? = rolls[place]?.map Neg.neg := by
  have behind : mirrorPlace rolls place < (rolls.map Neg.neg).length := by
    simp only [mirrorPlace, List.length_map]
    omega
  have back : (rolls.map Neg.neg).length - 1 - mirrorPlace rolls place = place := by
    simp only [mirrorPlace, List.length_map]
    omega
  rw [mirrored, List.getElem?_reverse behind, back, List.getElem?_map]

theorem Outranks.mirrored (first second : Nat) (before : Outranks rolls first second) :
    Outranks (mirrored rolls) (mirrorPlace rolls second) (mirrorPlace rolls first) := by
  obtain ⟨value, other, here, there, higher⟩ := before
  obtain ⟨inside, -⟩ := List.getElem?_eq_some_iff.mp here
  obtain ⟨insideOther, -⟩ := List.getElem?_eq_some_iff.mp there
  refine ⟨-other, -value, ?_, ?_, ?_⟩
  · rw [mirrored_at rolls second insideOther, there, Option.map_some]
  · rw [mirrored_at rolls first inside, here, Option.map_some]
  · simp only [mirrorPlace]
    omega

theorem mirrored_range :
    ((List.range rolls.length).map (mirrorPlace rolls)).Perm (List.range rolls.length) := by
  have turned : (List.range rolls.length).map (mirrorPlace rolls) =
      (List.range rolls.length).reverse := by
    apply List.ext_getElem
    · simp
    · simp [mirrorPlace]
  rw [turned]
  exact List.reverse_perm _

theorem Die.ranked_mirrored : (ranked (mirrored rolls)).map place =
    (((ranked rolls).map place).map (mirrorPlace rolls)).reverse := by
  have perm : ((ranked (mirrored rolls)).map place).Perm
      (((ranked rolls).map place).map (mirrorPlace rolls)).reverse := by
    have places := ranked_places_perm (mirrored rolls)
    rw [mirrored_length] at places
    have turned := ((ranked_places_perm rolls).map (mirrorPlace rolls)).trans (mirrored_range rolls)
    exact places.trans (turned.symm.trans (List.reverse_perm _).symm)
  have sorted : (((ranked rolls).map place).map (mirrorPlace rolls)).reverse.Pairwise
      (Outranks (mirrored rolls)) := by
    rw [List.pairwise_reverse, List.pairwise_map]
    exact (ranked_places_sorted rolls).imp fun before => before.mirrored
  refine perm.eq_of_pairwise (fun first second _ _ front back => ?_)
    (ranked_places_sorted (mirrored rolls)) sorted
  exact absurd back front.asymm

end Mirror

namespace Pool
variable (first second : Pool) (kind : SelectorKind) (size : Nat) (positive : 0 < size)
  (rolls : List Int)

theorem under_places_perm : ((first.under kind size positive).places rolls).Perm
    (Selector.part ⟨kind, size, positive⟩ ((Die.ranked rolls).map Die.place)) :=
  places_perm _ rolls _ rfl

theorem places_complement : ((first.under kind size positive).places rolls ++
    (second.under kind.complement size positive).places rolls).Perm (List.range rolls.length) := by
  have kept := first.under_places_perm kind size positive rolls
  have dropped := second.under_places_perm kind.complement size positive rolls
  have parted := Selector.part_complement kind size positive ((Die.ranked rolls).map Die.place)
  exact (kept.append dropped).trans (parted.trans (Die.ranked_places_perm rolls))

theorem places_others (smaller : size < rolls.length) :
    ((first.under kind size positive).places rolls).Perm
      ((second.under kind.opposite.complement (rolls.length - size) (by omega)).places rolls) := by
  have length : ((Die.ranked rolls).map Die.place).length = rolls.length := by
    rw [List.length_map, Die.ranked_length]
  have others := second.under_places_perm kind.opposite.complement (rolls.length - size)
    (by omega) rolls
  have same := Selector.part_others kind size positive ((Die.ranked rolls).map Die.place)
    (by rw [length]; exact smaller)
  simp only [length] at same
  rw [same] at others
  exact (first.under_places_perm kind size positive rolls).trans others.symm

theorem places_mirrored :
    (((first.under kind size positive).places rolls).map (mirrorPlace rolls)).Perm
      ((second.under kind.opposite size positive).places (mirrored rolls)) := by
  have here := (first.under_places_perm kind size positive rolls).map (mirrorPlace rolls)
  have there := second.under_places_perm kind.opposite size positive (mirrored rolls)
  rw [Die.ranked_mirrored, Selector.part_opposite] at there
  rw [Selector.part_map] at here
  exact here.trans ((List.reverse_perm _).symm.trans there.symm)

theorem under_in_draw_order (other : kind ≠ .keepHigh) :
    ((first.under kind size positive).places rolls).Pairwise (· ≤ ·) :=
  (places_in_draw_order _ rolls _ rfl other).imp Nat.le_of_lt

/-- Whatever the pools are: keeping and dropping at one end part the table, keeping some dice at one
end is dropping all the others at the other end, and each end is the other one in the mirror. Only
what keeping the highest reports in the order of the ranking is sorted for that. -/
theorem selectors_dual :
    (∀ kind, ((first.under kind size positive).places rolls ++
      (second.under kind.complement size positive).places rolls).Perm (List.range rolls.length)) ∧
    (∀ smaller : size < rolls.length,
      ((first.under .keepHigh size positive).places rolls).mergeSort =
          (second.under .dropLow (rolls.length - size) (Nat.sub_pos_of_lt smaller)).places rolls ∧
        (first.under .keepLow size positive).places rolls =
          (second.under .dropHigh (rolls.length - size) (Nat.sub_pos_of_lt smaller)).places
            rolls) ∧
    ∀ kind, (((first.under kind size positive).places rolls).map (mirrorPlace rolls)).Perm
      ((second.under kind.opposite size positive).places (mirrored rolls)) := by
  refine ⟨fun kind => places_complement first second kind size positive rolls,
    fun smaller => ⟨?_, ?_⟩, fun kind => places_mirrored first second kind size positive rolls⟩
  · have same := places_others first second .keepHigh size positive rolls smaller
    have sorted := second.under_in_draw_order .dropLow (rolls.length - size)
      (Nat.sub_pos_of_lt smaller) rolls (by decide)
    exact ((List.mergeSort_perm _ _).trans same).eq_of_pairwise'
      (List.pairwise_mergeSort' (· ≤ ·) _) sorted
  · have same := places_others first second .keepLow size positive rolls smaller
    exact same.eq_of_pairwise'
      (first.under_in_draw_order .keepLow size positive rolls (by decide))
      (second.under_in_draw_order .dropHigh (rolls.length - size)
        (Nat.sub_pos_of_lt smaller) rolls (by decide))

/-- Of three dice that tie the first one is kept with the highest, and the last one with the
lowest. -/
theorem selectors_dual_tie :
    let dice : Pool := ⟨5, 6, none, by decide, by decide⟩
    0 < 2 ∧ 2 < [3, -1, 3, 5, 3].length ∧
      ((dice.under .keepHigh 2 (by decide)).places [3, -1, 3, 5, 3]).mergeSort =
        (dice.under .dropLow 3 (by decide)).places [3, -1, 3, 5, 3] ∧
      (dice.under .keepHigh 2 (by decide)).places [3, -1, 3, 5, 3] = [3, 0] ∧
      (dice.under .keepLow 2 (by decide)).places [3, -1, 3, 5, 3] =
        (dice.under .dropHigh 3 (by decide)).places [3, -1, 3, 5, 3] ∧
      (dice.under .keepLow 2 (by decide)).places [3, -1, 3, 5, 3] = [1, 4] := by
  intro dice
  obtain ⟨-, others, -⟩ := selectors_dual dice dice 2 (by decide) [3, -1, 3, 5, 3]
  obtain ⟨high, low⟩ := others (by decide)
  exact ⟨by decide, by decide, high, by cbv, low, by cbv⟩

end Pool

end DiceRoller
