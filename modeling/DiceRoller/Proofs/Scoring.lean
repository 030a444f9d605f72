import DiceRoller.Proofs.Ranking
import DiceRoller.Proofs.Rolling

/-!
The total as a function of the dice. When no die gets worse the total does not fall, and it rises by
no more than the dice rise together. The order of the dice of one term is of no matter; under a mode
that holds of the pair of a plain d20, and the base stays where it is.
-/

namespace DiceRoller

theorem Mode.pick_comm (mode : Mode) (first second : Int) :
    mode.pick first second = mode.pick second first := by
  cases mode with
  | advantage => exact max_comm first second
  | disadvantage => exact min_comm first second

theorem Mode.pick_rises (mode : Mode) (first second better best : Int) (one : first ≤ better)
    (two : second ≤ best) :
    Rises (mode.pick first second) (mode.pick better best) (better + best - (first + second)) := by
  cases mode with
  | advantage => exact ⟨by simp only [pick]; omega, by simp only [pick]; omega⟩
  | disadvantage => exact ⟨by simp only [pick]; omega, by simp only [pick]; omega⟩

inductive Term.Reordered (mode : Option Mode) : Term → List Int → List Int → Prop
  | pool (dice : Pool) (rolls others : List Int) : ¬ dice.Edged mode → rolls.Perm others →
      Reordered mode (.pool dice) rolls others
  | pair (dice : Pool) (base first second : Int) : dice.Edged mode →
      Reordered mode (.pool dice) [base, first, second] [base, second, first]

namespace Term

theorem deals_rises (mode : Option Mode) (term : Term) (low high : List Int)
    (old new : Detail) (deals : term.Deals mode low old) (dealsHigh : term.Deals mode high new)
    (better : List.Forall₂ (· ≤ ·) low high) :
    Rises old.subtotal new.subtotal (high.sum - low.sum) := by
  cases deals with
  | modifier value =>
      cases dealsHigh
      exact Rises.same value
  | edge dice edge base first second edged moded =>
      obtain ⟨baseHigh, firstHigh, secondHigh, rfl, rfl⟩ :=
        deals_edge mode dice edge high new edged moded dealsHigh
      simp only [List.forall₂_cons, List.Forall₂.nil, and_true] at better
      obtain ⟨baseLe, firstLe, secondLe⟩ := better
      -- A better base adds to what the dice gain, and nothing to the record.
      apply (edge.pick_rises first second firstHigh secondHigh firstLe secondLe).more
      simp only [List.sum_cons, List.sum_nil]
      omega
  | pool dice rolls plain length =>
      rw [deals_plain mode dice high new plain dealsHigh]
      exact dice.subtotal_rises low high better

theorem reordered_length (mode : Option Mode) (term : Term) (dice others : List Int)
    (reordered : term.Reordered mode dice others) : dice.length = others.length := by
  cases reordered with
  | pool _ _ _ _ perm => exact perm.length_eq
  | pair => rfl

theorem deals_reordered (mode : Option Mode) (term : Term) (values others : List Int)
    (detail other : Detail) (reordered : term.Reordered mode values others)
    (deals : term.Deals mode values detail) (dealsOther : term.Deals mode others other) :
    other.subtotal = detail.subtotal := by
  cases reordered with
  | pool dice rolls others plain perm =>
      rw [deals_plain mode dice values detail plain deals,
        deals_plain mode dice others other plain dealsOther]
      exact dice.subtotal_eq_of_perm others values perm.symm
  | pair dice base first second edged =>
      obtain ⟨edge, moded⟩ := dice.exists_edge mode edged
      obtain ⟨_, _, _, here, rfl⟩ := deals_edge mode dice edge _ detail edged moded deals
      obtain ⟨_, _, _, there, rfl⟩ := deals_edge mode dice edge _ other edged moded dealsOther
      cases here
      cases there
      exact edge.pick_comm second first

end Term

theorem gain_eq (low high : List Int) (better : List.Forall₂ (· ≤ ·) low high) :
    (List.zipWith (· - ·) high low).sum = high.sum - low.sum := by
  induction better with
  | nil => rfl
  | cons _ _ ih =>
      simp only [List.zipWith_cons_cons, List.sum_cons, ih]
      omega

theorem Resolution.deals_rises (mode : Option Mode) (terms : List Term) (low high : List Int)
    (details others : List Detail) (deals : Deals mode terms low details)
    (dealsHigh : Deals mode terms high others) (better : List.Forall₂ (· ≤ ·) low high) :
    Rises (Detail.total details) (Detail.total others) (high.sum - low.sum) := by
  induction deals generalizing high others with
  | nil =>
      cases dealsHigh
      exact Rises.same 0
  | cons term later values rest detail details here _ ih =>
      cases dealsHigh with
      | cons _ _ valuesHigh restHigh detailHigh detailsHigh hereHigh behindHigh =>
          -- Both scripts are cut behind the dice of the first term.
          have length : values.length = valuesHigh.length :=
            (Term.deals_length mode term _ _ here).1.trans
              (Term.deals_length mode term _ _ hereHigh).1.symm
          have front := List.forall₂_take values.length better
          have back := List.forall₂_drop values.length better
          rw [List.take_left, length, List.take_left] at front
          rw [List.drop_left, length, List.drop_left] at back
          have rises := Rises.add _ _ _ _ _ _
            (Term.deals_rises mode term _ _ _ _ here hereHigh front)
            (ih restHigh detailsHigh behindHigh back)
          rw [Detail.total_cons, Detail.total_cons, List.sum_append, List.sum_append]
          exact rises.more _ _ _ _ (by omega)

theorem Expression.resolve_around (expression : Expression) (label : Option String)
    (before after : List Term) (term : Term) (split : expression.terms = before ++ term :: after)
    (front dice back spare : List Int) (firsts lasts : List Detail) (detail : Detail)
    (frontDeals : Resolution.Deals expression.mode before front firsts)
    (deals : term.Deals expression.mode dice detail)
    (backDeals : Resolution.Deals expression.mode after back lasts) :
    (expression.resolve (.script label (front ++ dice ++ (back ++ spare)))).complete = true ∧
      (expression.resolve (.script label (front ++ dice ++ (back ++ spare)))).details =
        firsts ++ detail :: lasts := by
  have whole := Resolution.deals_append _ _ _ _ _ _ _ frontDeals
    (.cons term after dice back detail lasts deals backDeals)
  rw [← split] at whole
  have feed : (Source.script label (front ++ dice ++ (back ++ spare))).feed =
      .script (front ++ (dice ++ back) ++ spare) := by
    simp only [List.append_assoc]
    rfl
  obtain ⟨same, complete, -⟩ := Resolution.of_terms_script _ _ _ _ _ whole _ feed
  exact ⟨complete, same⟩

/-- The total does not fall when no die does, it rises by no more than all dice rise together, and
with the dice of one term in another order no subtotal is another. -/
theorem Expression.total_of_dice (expression : Expression) (label : Option String) :
    (∀ low high : List Int, expression.schedule.length ≤ low.length →
      List.Forall₂ (· ≤ ·) low high →
      (expression.resolve (.script label low)).complete = true ∧
        (expression.resolve (.script label high)).complete = true ∧
        Rises (expression.resolve (.script label low)).total
          (expression.resolve (.script label high)).total
          (List.zipWith (· - ·) high low).sum) ∧
    ∀ (before after : List Term) (term : Term), expression.terms = before ++ term :: after →
      ∀ front dice others rest : List Int,
        front.length = (before.flatMap (Term.schedule expression.mode)).length →
        dice.length = (term.schedule expression.mode).length →
        (after.flatMap (Term.schedule expression.mode)).length ≤ rest.length →
        term.Reordered expression.mode dice others →
        (expression.resolve (.script label (front ++ dice ++ rest))).complete = true ∧
          (expression.resolve (.script label (front ++ others ++ rest))).complete = true ∧
          (expression.resolve (.script label (front ++ others ++ rest))).total =
            (expression.resolve (.script label (front ++ dice ++ rest))).total ∧
          (expression.resolve (.script label (front ++ others ++ rest))).details.map
              Detail.subtotal =
            (expression.resolve (.script label (front ++ dice ++ rest))).details.map
              Detail.subtotal := by
  constructor
  · intro low high enough better
    have enoughHigh := enough.trans_eq better.length_eq
    obtain ⟨complete, deals, -⟩ := expression.resolve_script label low enough
    obtain ⟨completeHigh, dealsHigh, -⟩ := expression.resolve_script label high enoughHigh
    refine ⟨complete, completeHigh, ?_⟩
    have drawn := Resolution.deals_rises _ _ _ _ _ _ deals dealsHigh
      (List.forall₂_take expression.schedule.length better)
    -- The values that are left over do not get worse either.
    obtain ⟨-, spare, gain⟩ := Rises.parts low high expression.schedule.length better
    rw [gain_eq low high better]
    exact drawn.more _ _ _ _ (by omega)
  · intro before after term split front dice others rest frontLength diceLength enough reordered
    obtain ⟨firsts, frontDeals⟩ := Resolution.exists_deals _ before front frontLength
    obtain ⟨detail, deals⟩ := term.exists_deals _ dice diceLength
    obtain ⟨other, dealsOther⟩ := term.exists_deals expression.mode others
      ((term.reordered_length _ _ _ reordered).symm.trans diceLength)
    obtain ⟨back, spare, rfl, backLength⟩ : ∃ back spare, rest = back ++ spare ∧
        back.length = (after.flatMap (Term.schedule expression.mode)).length :=
      ⟨_, _, (List.take_append_drop _ rest).symm, List.length_take_of_le enough⟩
    obtain ⟨lasts, backDeals⟩ := Resolution.exists_deals _ after back backLength
    have same := term.deals_reordered _ dice others detail other reordered deals dealsOther
    obtain ⟨complete, details⟩ := expression.resolve_around label before after term split front
      dice back spare firsts lasts detail frontDeals deals backDeals
    obtain ⟨completeOther, detailsOther⟩ := expression.resolve_around label before after term split
      front others back spare firsts lasts other frontDeals dealsOther backDeals
    have subtotals : (firsts ++ other :: lasts).map Detail.subtotal =
        (firsts ++ detail :: lasts).map Detail.subtotal := by
      rw [List.map_append, List.map_append, List.map_cons, List.map_cons, same]
    unfold Resolution.total
    rw [details, detailsOther, Detail.total_eq_sum, Detail.total_eq_sum, subtotals]
    exact ⟨complete, completeOther, rfl, rfl⟩

/-- The better two of three d6, and a d20 under advantage. -/
theorem Expression.total_of_dice_kept :
    Rises (resolve ⟨[.pool ⟨3, 6, some ⟨.keepHigh, 2, by decide⟩, by decide, by decide⟩,
        .pool ⟨1, 20, none, by decide, by decide⟩], some .advantage⟩
        (.script none [1, 5, 2, 9, 3, 14])).total
      (resolve ⟨[.pool ⟨3, 6, some ⟨.keepHigh, 2, by decide⟩, by decide, by decide⟩,
        .pool ⟨1, 20, none, by decide, by decide⟩], some .advantage⟩
        (.script none [4, 5, 2, 9, 16, 14])).total 16 ∧
    (resolve ⟨[.pool ⟨3, 6, some ⟨.keepHigh, 2, by decide⟩, by decide, by decide⟩,
        .pool ⟨1, 20, none, by decide, by decide⟩], some .advantage⟩
        (.script none [5, 2, 1, 9, 3, 14])).total =
      (resolve ⟨[.pool ⟨3, 6, some ⟨.keepHigh, 2, by decide⟩, by decide, by decide⟩,
        .pool ⟨1, 20, none, by decide, by decide⟩], some .advantage⟩
        (.script none [1, 5, 2, 9, 3, 14])).total := by
  let pool : Term := .pool ⟨3, 6, some ⟨.keepHigh, 2, by decide⟩, by decide, by decide⟩
  let d20 : Term := .pool ⟨1, 20, none, by decide, by decide⟩
  obtain ⟨rises, orders⟩ := total_of_dice ⟨[pool, d20], some .advantage⟩ none
  constructor
  · exact (rises [1, 5, 2, 9, 3, 14] [4, 5, 2, 9, 16, 14] (by decide) (by simp)).2.2
  · have reordered : pool.Reordered (some .advantage) [1, 5, 2] [5, 2, 1] :=
      .pool _ _ _ (by decide) (by decide)
    exact (orders [] [d20] pool rfl [] [1, 5, 2] [5, 2, 1] [9, 3, 14] rfl rfl (by decide)
      reordered).2.2.1

end DiceRoller
