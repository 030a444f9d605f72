import DiceRoller.Proofs.Rolling
import Mathlib.Algebra.Group.Nat.Defs

/-!
Dice of the generator. A redraw loop makes numbers of as many bits as its bound has, and ends with
the first of them that is below the bound. So a die shows one of its sides, whatever the number of
words that its numbers are made of. A size without sides makes no number: the other dice are the
same with it and without it.
-/

namespace DiceRoller

namespace Twister.Generator

section Bits
variable (count : Nat) (generator : Generator)

theorem bits_of_word (short : count ≤ 32) :
    generator.bits count = (generator.next.1.toNat >>> (32 - count), generator.next.2) := by
  rw [bits]
  exact if_pos short

theorem bits_of_words (long : 32 < count) :
    generator.bits count =
      (generator.next.1.toNat + 2 ^ 32 * (generator.next.2.bits (count - 32)).1,
        (generator.next.2.bits (count - 32)).2) := by
  rw [bits]
  exact if_neg (Nat.not_le.mpr long)

theorem bits_lt : (generator.bits count).1 < 2 ^ count := by
  induction count using Nat.strongRecOn generalizing generator with
  | ind count ih =>
      have word := generator.next.1.toNat_lt
      rcases Nat.lt_or_ge 32 count with long | short
      · -- A whole word below a number of the bits that are left.
        have whole : 2 ^ 32 * 2 ^ (count - 32) = 2 ^ count := by
          rw [← Nat.pow_add, Nat.add_sub_cancel' (Nat.le_of_lt long)]
        have above := ih (count - 32) (by omega) generator.next.2
        rw [bits_of_words count generator long, ← whole]
        omega
      · -- One word that gives its top bits.
        have whole : 2 ^ (32 - count) * 2 ^ count = 2 ^ 32 := by
          rw [← Nat.pow_add, Nat.sub_add_cancel short]
        rw [bits_of_word count generator short, Nat.shiftRight_eq_div_pow]
        apply Nat.div_lt_of_lt_mul
        rwa [whole]

end Bits

def numbers (width : Nat) : (count : Nat) → Generator → List Nat × Generator
  | 0, generator => ([], generator)
  | count + 1, generator =>
      let (number, next) := generator.bits width
      let (later, last) := numbers width count next
      (number :: later, last)

theorem numbers_succ (width count : Nat) (generator : Generator) :
    generator.numbers width (count + 1) =
      ((generator.bits width).1 :: ((generator.bits width).2.numbers width count).1,
        ((generator.bits width).2.numbers width count).2) :=
  rfl

/-- A redraw loop that comes to its end. It makes numbers with the bits of its bound, throws those
away that are not below it, and ends with the first one that is. -/
structure Redraws (bound : Nat) (generator : Generator) (thrown : List Nat) (value : Nat)
    (last : Generator) : Prop where
  made : generator.numbers (bound.log2 + 1) (thrown.length + 1) = (thrown ++ [value], last)
  large : ∀ number ∈ thrown, bound ≤ number ∧ number < 2 * bound
  within : value < bound

section Loop
variable (bound : Nat) (generator : Generator)

theorem below_succ (attempts : Nat) :
    below bound (attempts + 1) generator =
      if (generator.bits (bound.log2 + 1)).1 < bound then
        (some (generator.bits (bound.log2 + 1)).1, (generator.bits (bound.log2 + 1)).2)
      else below bound attempts (generator.bits (bound.log2 + 1)).2 :=
  rfl

theorem number_lt (positive : 0 < bound) :
    (generator.bits (bound.log2 + 1)).1 < 2 * bound := by
  have fits := generator.bits_lt (bound.log2 + 1)
  have least := Nat.log2_self_le (Nat.ne_of_gt positive)
  rw [Nat.pow_succ] at fits
  omega

theorem redraws_nil_iff (value : Nat) (last : Generator) :
    generator.Redraws bound [] value last ↔
      generator.bits (bound.log2 + 1) = (value, last) ∧ value < bound := by
  constructor
  · rintro ⟨made, -, within⟩
    refine ⟨?_, within⟩
    simpa [numbers, Prod.ext_iff] using made
  · rintro ⟨made, within⟩
    exact ⟨by simp [numbers, made], by simp, within⟩

theorem redraws_cons_iff (number : Nat) (thrown : List Nat) (value : Nat) (last : Generator) :
    generator.Redraws bound (number :: thrown) value last ↔
      (generator.bits (bound.log2 + 1)).1 = number ∧ bound ≤ number ∧
        (generator.bits (bound.log2 + 1)).2.Redraws bound thrown value last := by
  constructor
  · rintro ⟨made, large, within⟩
    obtain ⟨first, later⟩ := List.forall_mem_cons.mp large
    rw [List.length_cons, numbers_succ, List.cons_append, Prod.mk.injEq, List.cons.injEq] at made
    exact ⟨made.1.1, first.1, Prod.ext made.1.2 made.2, later, within⟩
  · rintro ⟨rfl, least, made, large, within⟩
    refine ⟨?_, List.forall_mem_cons.mpr ⟨⟨least, ?_⟩, large⟩, within⟩
    · rw [List.length_cons, numbers_succ, made, List.cons_append]
    · exact generator.number_lt bound (Nat.zero_lt_of_lt within)

/-- The loop gives its answer when it comes to its end in so many attempts. -/
theorem below_some_iff (attempts value : Nat) (last : Generator) :
    below bound attempts generator = (some value, last) ↔
      ∃ thrown, thrown.length < attempts ∧ generator.Redraws bound thrown value last := by
  induction attempts generalizing generator with
  | zero => simp [below]
  | succ attempts ih =>
      rw [below_succ]
      by_cases within : (generator.bits (bound.log2 + 1)).1 < bound
      · rw [if_pos within]
        constructor
        · rintro ⟨⟩
          exact ⟨[], Nat.succ_pos attempts, (redraws_nil_iff ..).mpr ⟨rfl, within⟩⟩
        · rintro ⟨thrown, -, redraws⟩
          cases thrown with
          | nil =>
              obtain ⟨made, -⟩ := (redraws_nil_iff ..).mp redraws
              rw [made]
          | cons number thrown =>
              obtain ⟨rfl, large, -⟩ := (redraws_cons_iff ..).mp redraws
              exact absurd within (Nat.not_lt.mpr large)
      · rw [if_neg within, ih]
        constructor
        · rintro ⟨thrown, few, redraws⟩
          exact ⟨_ :: thrown, Nat.succ_lt_succ few,
            (redraws_cons_iff ..).mpr ⟨rfl, Nat.not_lt.mp within, redraws⟩⟩
        · rintro ⟨thrown, few, redraws⟩
          cases thrown with
          | nil =>
              obtain ⟨made, kept⟩ := (redraws_nil_iff ..).mp redraws
              rw [made] at within
              exact absurd kept within
          | cons number thrown =>
              obtain ⟨-, -, later⟩ := (redraws_cons_iff ..).mp redraws
              exact ⟨thrown, Nat.lt_of_succ_lt_succ few, later⟩

end Loop

/-- How a size is answered when a loop has so many attempts. A size below one is refused and leaves
the generator as it was. -/
inductive Rolls (attempts : Nat) (generator : Generator) (sides : Int) :
    Except DrawFault Nat → Generator → Prop
  | refused : sides < 1 → Rolls attempts generator sides (.error (.noSides sides)) generator
  | shown (thrown : List Nat) (value : Nat) (last : Generator) : 1 ≤ sides →
      thrown.length < attempts → generator.Redraws sides.toNat thrown value last →
      Rolls attempts generator sides (.ok (value + 1)) last

inductive RollsAll (attempts : Nat) : Generator → List Int → List (Except DrawFault Nat) → Prop
  | nil (generator : Generator) : RollsAll attempts generator [] []
  | cons (generator next : Generator) (sides : Int) (answer : Except DrawFault Nat)
      (sizes : List Int) (answers : List (Except DrawFault Nat)) :
      generator.Rolls attempts sides answer next → RollsAll attempts next sizes answers →
      RollsAll attempts generator (sides :: sizes) (answer :: answers)

inductive Fair (sides : Int) : Except DrawFault Nat → Prop
  | refused : sides < 1 → Fair sides (.error (.noSides sides))
  | shown (value : Nat) : 1 ≤ value → value ≤ sides → Fair sides (.ok value)

def sided (sizes : List Int) : List Int :=
  sizes.filter fun sides => 1 ≤ sides

def sidedAnswers (sizes : List Int) (answers : List (Except DrawFault Nat)) :
    List (Except DrawFault Nat) :=
  ((sizes.zip answers).filter fun asked => 1 ≤ asked.1).map Prod.snd

theorem sided_cons (sides : Int) (sizes : List Int) :
    sided (sides :: sizes) = if 1 ≤ sides then sides :: sided sizes else sided sizes := by
  by_cases positive : 1 ≤ sides <;> simp [sided, positive]

theorem sided_answers_cons (sides : Int) (sizes : List Int) (answer : Except DrawFault Nat)
    (answers : List (Except DrawFault Nat)) :
    sidedAnswers (sides :: sizes) (answer :: answers) =
      if 1 ≤ sides then answer :: sidedAnswers sizes answers else sidedAnswers sizes answers := by
  by_cases positive : 1 ≤ sides <;> simp [sidedAnswers, positive]

section Rolls
variable (generator : Generator)

theorem roll_size_few (sides : Int) (few : sides < 1) :
    generator.rollSize sides = (.error (.noSides sides), generator) :=
  if_pos few

theorem roll_size_sided (sides : Int) (positive : 1 ≤ sides) :
    generator.rollSize sides =
      ((below sides.toNat patience generator).1.elim (.error .undecided) (.ok <| · + 1),
        (below sides.toNat patience generator).2) := by
  rw [rollSize, if_neg (by omega), roll]
  cases below sides.toNat patience generator with
  | mk found next => cases found <;> rfl

theorem rolls_iff (sides : Int) (answer : Except DrawFault Nat) (last : Generator) :
    generator.Rolls patience sides answer last ↔
      generator.rollSize sides = (answer, last) ∧ answer ≠ .error .undecided := by
  constructor
  · intro rolls
    cases rolls with
    | refused few => exact ⟨generator.roll_size_few sides few, nofun⟩
    | shown thrown value last positive inTime redraws =>
        have found := (below_some_iff _ _ _ _ _).mpr ⟨thrown, inTime, redraws⟩
        rw [roll_size_sided generator sides positive, found]
        exact ⟨rfl, nofun⟩
  · rintro ⟨rolled, decided⟩
    rcases Int.lt_or_le sides 1 with few | positive
    · rw [roll_size_few generator sides few] at rolled
      cases rolled
      exact .refused few
    · rw [roll_size_sided generator sides positive] at rolled
      cases found : below sides.toNat patience generator with
      | mk answered next =>
          rw [found] at rolled
          cases answered with
          | none =>
              cases rolled
              exact absurd rfl decided
          | some value =>
              cases rolled
              obtain ⟨thrown, inTime, redraws⟩ := (below_some_iff _ _ _ _ _).mp found
              exact .shown thrown value next positive inTime redraws

theorem roll_size_shown_iff (size shown : Nat) (last : Generator) :
    generator.rollSize size = (.ok shown, last) ↔ generator.roll size = (some shown, last) := by
  cases size with
  | zero =>
      rw [roll_size_few generator _ (by decide), roll]
      cases found : below 0 patience generator with
      | mk answered next =>
          cases answered with
          | none => simp
          | some value =>
              -- No number is below zero.
              obtain ⟨_, _, redraws⟩ := (below_some_iff ..).mp found
              exact absurd redraws.within (Nat.not_lt_zero value)
  | succ size =>
      rw [rollSize, if_neg (by omega), Int.toNat_natCast]
      cases generator.roll (size + 1) with
      | mk found next => cases found <;> simp

theorem rolls_fair (attempts : Nat) (sides : Int) (answer : Except DrawFault Nat)
    (last : Generator) (rolls : generator.Rolls attempts sides answer last) :
    Fair sides answer := by
  cases rolls with
  | refused few => exact .refused few
  | shown thrown value last positive inTime redraws =>
      have within := redraws.within
      exact .shown (value + 1) (by omega) (by omega)

end Rolls

section RollsAll
variable (generator : Generator) (sizes : List Int)

theorem roll_sizes_cons (sides : Int) :
    rollSizes (sides :: sizes) generator =
      (generator.rollSize sides).1 :: rollSizes sizes (generator.rollSize sides).2 :=
  rfl

/-- Where every loop ends in time, sizes are answered as by loops that may take any time. -/
theorem rolls_all_iff (answers : List (Except DrawFault Nat)) :
    generator.RollsAll patience sizes answers ↔
      rollSizes sizes generator = answers ∧ .error .undecided ∉ answers := by
  induction sizes generalizing generator answers with
  | nil =>
      constructor
      · rintro ⟨⟩
        exact ⟨rfl, List.not_mem_nil⟩
      · rintro ⟨rfl, -⟩
        exact .nil generator
  | cons sides sizes ih =>
      rw [roll_sizes_cons]
      constructor
      · rintro (_ | ⟨_, next, _, answer, _, answers, rolls, later⟩)
        obtain ⟨rolled, decided⟩ := (rolls_iff ..).mp rolls
        obtain ⟨same, all⟩ := (ih next answers).mp later
        rw [rolled, same, List.mem_cons, not_or]
        exact ⟨rfl, decided.symm, all⟩
      · rintro ⟨rfl, all⟩
        rw [List.mem_cons, not_or] at all
        obtain ⟨decided, later⟩ := all
        have here := (rolls_iff generator sides _ _).mpr ⟨rfl, Ne.symm decided⟩
        exact .cons _ _ _ _ _ _ here ((ih _ _).mpr ⟨rfl, later⟩)

theorem rolls_all_fair (attempts : Nat) (answers : List (Except DrawFault Nat))
    (rolls : generator.RollsAll attempts sizes answers) : List.Forall₂ Fair sizes answers := by
  induction rolls with
  | nil => exact .nil
  | cons generator next sides answer sizes answers here _ ih =>
      exact .cons (generator.rolls_fair attempts sides answer next here) ih

theorem rolls_all_sided (attempts : Nat) (answers : List (Except DrawFault Nat))
    (rolls : generator.RollsAll attempts sizes answers) :
    generator.RollsAll attempts (sided sizes) (sidedAnswers sizes answers) := by
  induction rolls with
  | nil generator => exact .nil generator
  | cons generator next sides answer sizes answers here _ ih =>
      rw [sided_cons, sided_answers_cons]
      cases here with
      | refused few =>
          rw [if_neg (Int.not_le.mpr few), if_neg (Int.not_le.mpr few)]
          exact ih
      | shown thrown value next positive inTime redraws =>
          rw [if_pos positive, if_pos positive]
          exact .cons _ _ _ _ _ _ (.shown thrown value next positive inTime redraws) ih

theorem roll_sizes_sided :
    rollSizes (sided sizes) generator = sidedAnswers sizes (rollSizes sizes generator) := by
  induction sizes generalizing generator with
  | nil => rfl
  | cons sides sizes ih =>
      rw [roll_sizes_cons, sided_cons, sided_answers_cons]
      rcases Int.lt_or_le sides 1 with few | positive
      · rw [if_neg (Int.not_le.mpr few), if_neg (Int.not_le.mpr few),
          roll_size_few generator sides few]
        exact ih generator
      · rw [if_pos positive, if_pos positive, roll_sizes_cons, ih]

/-- A die of three bits of a word, a size without sides, and a die of two words. -/
example :
    rollSizes [6, 0, 1099511627776] ⟨Vector.replicate 624 0x12345678, 0⟩ =
      [.ok 2, .error (.noSides 0), .ok 370096884270] ∧
    rollSizes [6, 1099511627776] ⟨Vector.replicate 624 0x12345678, 0⟩ =
      [.ok 2, .ok 370096884270] := by
  decide +kernel

theorem roll_sizes_fair :
    List.Forall₂ (fun sides answer => Fair sides answer ∨
      1 ≤ sides ∧ answer = .error .undecided) sizes (rollSizes sizes generator) := by
  induction sizes generalizing generator with
  | nil => exact .nil
  | cons sides sizes ih =>
      rw [roll_sizes_cons]
      refine .cons ?_ (ih _)
      rcases Int.lt_or_le sides 1 with few | positive
      · rw [roll_size_few generator sides few]
        exact Or.inl (.refused few)
      · by_cases undecided : (generator.rollSize sides).1 = .error .undecided
        · exact Or.inr ⟨positive, undecided⟩
        · have rolls := (rolls_iff generator sides _ _).mpr ⟨rfl, undecided⟩
          exact Or.inl (generator.rolls_fair _ sides _ _ rolls)

end RollsAll

end Twister.Generator

namespace Source
open Twister (Generator)
open Twister.Generator

theorem draw_generated (size : Nat) (source : Source) (state : Generator)
    (feed : source.feed = .generator state) :
    source.draw size = ((state.roll size).1.map Int.ofNat,
      { source with feed := .generator (state.roll size).2, asked := size :: source.asked }) := by
  simp only [draw, feed, Feed.draw]

theorem draw_all_generated (dice : List Nat) (source : Source) (state : Generator)
    (values : List Int) (feed : source.feed = .generator state) :
    (source.drawAll dice).1 = some values ↔ ∃ shown : List Nat, values = shown.map Int.ofNat ∧
      rollSizes (dice.map Int.ofNat) state = shown.map .ok := by
  induction dice generalizing source state values with
  | nil => simp [drawAll, rollSizes, eq_comm]
  | cons size dice ih =>
      have drawn := source.draw_generated size state feed
      have same := state.roll_size_shown_iff size
      rw [List.map_cons, roll_sizes_cons]
      cases rolled : state.roll size with
      | mk found after =>
          rw [rolled] at drawn same
          cases found with
          | none =>
              simp only [drawAll, drawn, Option.map_none, reduceCtorEq, false_iff]
              rintro ⟨shown, -, answers⟩
              obtain ⟨value, _, _, answered, -⟩ := List.map_eq_cons_iff.mp answers.symm
              cases (same value _).mp (Prod.ext answered.symm rfl)
          | some value =>
              have here := (same value after).mpr rfl
              simp only [Int.ofNat_eq_natCast] at here ⊢
              simp only [drawAll, drawn, here, Option.map_some, Option.map_eq_some_iff]
              constructor
              · rintro ⟨later, dealt, rfl⟩
                obtain ⟨shown, rfl, answers⟩ := (ih _ after later rfl).mp dealt
                exact ⟨value :: shown, rfl, by rw [answers, List.map_cons]⟩
              · rintro ⟨shown, rfl, answers⟩
                obtain ⟨first, later, rfl, head, tail⟩ := List.map_eq_cons_iff.mp answers.symm
                cases head
                exact ⟨later.map Int.ofNat, (ih _ after _ rfl).mpr ⟨later, rfl, tail.symm⟩, rfl⟩

end Source

namespace Seed
open Twister.Generator

/-- Sizes that a seeded generator is asked for, one after the other. A size below one is refused and
any other shows one of its sides, unless its loop has used up its patience, and the others are
answered alike without the sizes below one. Where no loop has used it up the answers are those of
the loops themselves, and these keep to the same whatever their length. A source of the seed deals
the same dice. -/
theorem seeded_rolls (seed : Seed) (sizes : List Int) :
    List.Forall₂ (fun sides answer => Fair sides answer ∨ 1 ≤ sides ∧ answer = .error .undecided)
      sizes (rollSizes sizes seed.generator) ∧
    rollSizes (sided sizes) seed.generator =
      sidedAnswers sizes (rollSizes sizes seed.generator) ∧
    (∀ answers, seed.generator.RollsAll patience sizes answers ↔
      rollSizes sizes seed.generator = answers ∧ .error .undecided ∉ answers) ∧
    (∀ attempts answers, seed.generator.RollsAll attempts sizes answers →
      List.Forall₂ Fair sizes answers ∧
        seed.generator.RollsAll attempts (sided sizes) (sidedAnswers sizes answers)) ∧
    ∀ (dice : List Nat) (values : List Int),
      ((Source.seeded seed).drawAll dice).1 = some values ↔
        ∃ shown : List Nat, values = shown.map Int.ofNat ∧
          rollSizes (dice.map Int.ofNat) seed.generator = shown.map .ok := by
  refine ⟨?_, ?_, ?_, fun attempts answers rolls => ⟨?_, ?_⟩, fun dice values => ?_⟩
  · exact seed.generator.roll_sizes_fair sizes
  · exact seed.generator.roll_sizes_sided sizes
  · exact seed.generator.rolls_all_iff sizes
  · exact seed.generator.rolls_all_fair sizes attempts answers rolls
  · exact seed.generator.rolls_all_sided sizes attempts answers rolls
  · exact (Source.seeded seed).draw_all_generated dice seed.generator values rfl

end Seed

end DiceRoller
