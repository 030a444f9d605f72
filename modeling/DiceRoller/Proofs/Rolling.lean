import DiceRoller.Resolution
import Mathlib.Algebra.Ring.Int.Defs
import Mathlib.Data.List.Basic

/-!
Rolling, as far as the source decides it. An expression has a schedule, the sizes of the dice that
it asks for, and a roll draws along its schedule until the source runs dry. The values that were
drawn decide all records. So a script that opens with the dice of a roll repeats the roll and is
left with what stands behind them, and a source that always answers completes every roll.
-/

namespace DiceRoller

namespace Detail

theorem total_cons (detail : Detail) (details : List Detail) :
    total (detail :: details) = detail.subtotal + total details :=
  rfl

theorem total_eq_sum (details : List Detail) : total details = (details.map subtotal).sum := by
  unfold total
  rw [List.sum_eq_foldr, List.foldr_map]

theorem total_append (details others : List Detail) :
    total (details ++ others) = total details + total others := by
  simp only [total_eq_sum, List.map_append, List.sum_append]

end Detail

namespace Source

/-- One die of each size in order, or nothing when the source runs dry. -/
def drawAll : (sizes : List Nat) → Source → Option (List Int) × Source
  | [], source => (some [], source)
  | size :: sizes, source =>
      match source.draw size with
      | (some value, next) => ((drawAll sizes next).1.map (value :: ·), (drawAll sizes next).2)
      | (none, next) => (none, next)

theorem draw_all_append (first second : List Nat) (source : Source) :
    source.drawAll (first ++ second) =
      match source.drawAll first with
      | (some values, next) => ((next.drawAll second).1.map (values ++ ·), (next.drawAll second).2)
      | (none, next) => (none, next) := by
  induction first generalizing source with
  | nil => simp [drawAll]
  | cons size sizes ih =>
      cases drawn : source.draw size with
      | mk answer next =>
          cases answer with
          | none => simp [drawAll, drawn]
          | some value =>
              simp only [List.cons_append, drawAll, drawn, ih]
              cases next.drawAll sizes with
              | mk values last => cases values <;> simp [Function.comp_def]

theorem draw_all_length (sizes : List Nat) (source next : Source) (values : List Int)
    (drawn : source.drawAll sizes = (some values, next)) : values.length = sizes.length := by
  induction sizes generalizing source values with
  | nil =>
      obtain ⟨rfl, -⟩ : [] = values ∧ source = next := by simpa [drawAll] using drawn
      rfl
  | cons size sizes ih =>
      cases answered : source.draw size with
      | mk answer after =>
          cases answer with
          | none => simp [drawAll, answered] at drawn
          | some value =>
              simp only [drawAll, answered, Prod.mk.injEq, Option.map_eq_some_iff] at drawn
              obtain ⟨⟨later, found, rfl⟩, last⟩ := drawn
              rw [List.length_cons, List.length_cons, ih after later (Prod.ext found last)]

theorem draw_all_sizes (sizes : List Nat) (source : Source) :
    ∃ requests, (source.drawAll sizes).2.sizes = source.sizes ++ requests ∧
      requests <+: sizes ∧ ((source.drawAll sizes).1.isSome → requests = sizes) := by
  induction sizes generalizing source with
  | nil => exact ⟨[], by simp [drawAll], List.prefix_rfl, fun _ => rfl⟩
  | cons size sizes ih =>
      have once : (source.draw size).2.sizes = source.sizes ++ [size] := by
        simp [draw, Source.sizes]
      cases drawn : source.draw size with
      | mk answer next =>
          rw [drawn] at once
          cases answer with
          | none =>
              refine ⟨[size], ?_, List.prefix_append [size] sizes, by simp [drawAll, drawn]⟩
              simpa [drawAll, drawn] using once
          | some value =>
              obtain ⟨requests, asked, front, whole⟩ := ih next
              refine ⟨size :: requests, ?_, List.cons_prefix_cons.mpr ⟨rfl, front⟩, ?_⟩
              · simp only [drawAll, drawn, asked, once, List.append_assoc, List.singleton_append]
              · simp only [drawAll, drawn, Option.isSome_map]
                exact fun answered => congrArg _ (whole answered)

theorem draw_onto_eq (sides count : Nat) (before : List Int) (source : Source) :
    drawOnto sides count before source =
      ((source.drawAll (List.replicate count sides)).1.map (before.reverse ++ ·),
        (source.drawAll (List.replicate count sides)).2) := by
  induction count generalizing before source with
  | zero => simp [drawOnto, drawAll]
  | succ count ih =>
      simp only [drawOnto, List.replicate_succ, drawAll]
      cases source.draw sides with
      | mk answer next =>
          cases answer with
          | none => rfl
          | some value => simp [ih, Function.comp_def]

theorem draw_many_eq (count sides : Nat) (source : Source) :
    drawMany count sides source = source.drawAll (List.replicate count sides) := by
  simp [drawMany, draw_onto_eq]

theorem draw_script (size : Nat) (value : Int) (rest : List Int) (script : Source)
    (feed : script.feed = .script (value :: rest)) : script.draw size =
      (some value, { script with feed := .script rest, asked := size :: script.asked }) := by
  simp [draw, feed, Feed.draw]

theorem draw_all_script (sizes : List Nat) (values rest : List Int) (script : Source)
    (length : values.length = sizes.length) (feed : script.feed = .script (values ++ rest)) :
    ∃ after, script.drawAll sizes = (some values, after) ∧ after.feed = .script rest := by
  induction sizes generalizing values script with
  | nil =>
      obtain rfl := List.length_eq_zero_iff.mp length
      exact ⟨script, rfl, feed⟩
  | cons size sizes ih =>
      cases values with
      | nil => cases length
      | cons value values =>
          obtain ⟨after, drawn, left⟩ := ih values
            { script with feed := .script (values ++ rest), asked := size :: script.asked }
            (Nat.succ.inj length) rfl
          exact ⟨after, by simp [drawAll, draw_script size value _ script feed, drawn], left⟩

end Source

namespace Pool
variable (dice : Pool) (mode : Option Mode)

/-- A single d20 without a selector. -/
def PlainD20 : Prop :=
  dice.count = 1 ∧ dice.sides = 20 ∧ dice.selector = none

instance : Decidable dice.PlainD20 :=
  inferInstanceAs (Decidable (_ ∧ _ ∧ _))

/-- There is a mode, and the pool is one that a mode changes. -/
def Edged : Prop :=
  dice.PlainD20 ∧ mode ≠ none

instance : Decidable (dice.Edged mode) :=
  inferInstanceAs (Decidable (_ ∧ _))

theorem is_plain_d20_iff : dice.isPlainD20 = true ↔ dice.PlainD20 := by
  simp [isPlainD20, PlainD20, and_assoc]

theorem edge_some_iff (edge : Mode) :
    dice.edge? mode = some edge ↔ dice.Edged mode ∧ mode = some edge := by
  unfold edge? Edged
  simp only [is_plain_d20_iff]
  by_cases lone : dice.PlainD20
  · simp only [lone, if_true, true_and]
    exact ⟨fun moded => ⟨by simp [moded], moded⟩, And.right⟩
  · simp [lone]

theorem edge_none_iff : dice.edge? mode = none ↔ ¬ dice.Edged mode := by
  unfold edge? Edged
  simp only [is_plain_d20_iff]
  by_cases lone : dice.PlainD20 <;> simp [lone]

theorem exists_edge (edged : dice.Edged mode) : ∃ edge, mode = some edge :=
  Option.ne_none_iff_exists'.mp edged.2

end Pool

def Term.schedule (mode : Option Mode) : Term → List Nat
  | modifier _ => []
  | pool dice =>
      if dice.Edged mode then [20, 20, 20] else List.replicate dice.count dice.sides

def Expression.schedule (expression : Expression) : List Nat :=
  expression.terms.flatMap (Term.schedule expression.mode)

inductive Term.Deals (mode : Option Mode) : Term → List Int → Detail → Prop
  | modifier (value : Int) : Deals mode (.modifier value) [] (.modifier value)
  | edge (dice : Pool) (edge : Mode) (base first second : Int) : dice.Edged mode →
      mode = some edge → Deals mode (.pool dice) [base, first, second]
        (.d20 edge base first second (edge.pick first second))
  | pool (dice : Pool) (rolls : List Int) : ¬ dice.Edged mode → rolls.length = dice.count →
      Deals mode (.pool dice) rolls (dice.detail rolls)

/-- The records of several terms, each of which takes its own dice from the front. -/
inductive Resolution.Deals (mode : Option Mode) : List Term → List Int → List Detail → Prop
  | nil : Deals mode [] [] []
  | cons (term : Term) (later : List Term) (values rest : List Int) (detail : Detail)
      (details : List Detail) : term.Deals mode values detail → Deals mode later rest details →
      Deals mode (term :: later) (values ++ rest) (detail :: details)

namespace Term

theorem schedule_edged (mode : Option Mode) (dice : Pool) (edged : dice.Edged mode) :
    (pool dice).schedule mode = [20, 20, 20] :=
  if_pos edged

theorem schedule_plain (mode : Option Mode) (dice : Pool) (plain : ¬ dice.Edged mode) :
    (pool dice).schedule mode = List.replicate dice.count dice.sides :=
  if_neg plain

theorem deals_length (mode : Option Mode) (term : Term) (values : List Int) (detail : Detail)
    (deals : term.Deals mode values detail) :
    values.length = (term.schedule mode).length ∧ detail.recorded = values := by
  cases deals with
  | modifier value => exact ⟨rfl, rfl⟩
  | edge dice edge base first second edged _ => simp [schedule_edged, edged, Detail.recorded]
  | pool dice rolls plain length =>
      simp [schedule_plain, plain, length, Pool.detail, Detail.recorded]

theorem deals_edge (mode : Option Mode) (dice : Pool) (edge : Mode) (values : List Int)
    (detail : Detail) (edged : dice.Edged mode) (moded : mode = some edge)
    (deals : (pool dice).Deals mode values detail) :
    ∃ base first second, values = [base, first, second] ∧
      detail = .d20 edge base first second (edge.pick first second) := by
  cases deals with
  | edge _ other base first second _ again =>
      obtain rfl := Option.some.inj (moded.symm.trans again)
      exact ⟨base, first, second, rfl, rfl⟩
  | pool _ _ plain _ => exact absurd edged plain

theorem deals_plain (mode : Option Mode) (dice : Pool) (values : List Int) (detail : Detail)
    (plain : ¬ dice.Edged mode) (deals : (pool dice).Deals mode values detail) :
    detail = dice.detail values := by
  cases deals with
  | edge _ _ _ _ _ edged _ => exact absurd edged plain
  | pool => rfl

theorem deals_unique (mode : Option Mode) (term : Term) (values : List Int)
    (detail other : Detail) (deals : term.Deals mode values detail)
    (dealsOther : term.Deals mode values other) : detail = other := by
  cases deals with
  | modifier value =>
      cases dealsOther
      rfl
  | edge dice edge base first second edged moded =>
      obtain ⟨_, _, _, same, rfl⟩ := deals_edge mode dice edge _ other edged moded dealsOther
      cases same
      rfl
  | pool dice rolls plain length =>
      exact (deals_plain mode dice values other plain dealsOther).symm

theorem exists_deals (mode : Option Mode) (term : Term) (values : List Int)
    (length : values.length = (term.schedule mode).length) :
    ∃ detail, term.Deals mode values detail := by
  cases term with
  | modifier value =>
      obtain rfl := List.length_eq_zero_iff.mp length
      exact ⟨_, .modifier value⟩
  | pool dice =>
      by_cases edged : dice.Edged mode
      · obtain ⟨edge, moded⟩ := dice.exists_edge mode edged
        rw [schedule_edged mode dice edged] at length
        obtain ⟨base, first, second, rfl⟩ := List.length_eq_three.mp length
        exact ⟨_, .edge dice edge base first second edged moded⟩
      · rw [schedule_plain mode dice edged, List.length_replicate] at length
        exact ⟨_, .pool dice values edged length⟩

theorem roll_drawn (mode : Option Mode) (term : Term) (source next : Source) (values : List Int)
    (drawn : source.drawAll (term.schedule mode) = (some values, next)) :
    ∃ detail, term.roll mode source = (some detail, next) ∧ term.Deals mode values detail := by
  obtain ⟨detail, deals⟩ :=
    exists_deals mode term values (Source.draw_all_length _ _ _ _ drawn)
  refine ⟨detail, ?_, deals⟩
  cases deals with
  | modifier value =>
      obtain rfl : source = next := by simpa [schedule, Source.drawAll] using drawn
      rfl
  | edge dice edge base first second edged moded =>
      have three : source.drawMany 3 20 = (some [base, first, second], next) := by
        rw [Source.draw_many_eq]
        rwa [schedule_edged mode dice edged] at drawn
      simp only [roll, (dice.edge_some_iff mode edge).mpr ⟨edged, moded⟩, Mode.roll, three]
  | pool dice rolls plain length =>
      have many : source.drawMany dice.count dice.sides = (some values, next) := by
        rw [Source.draw_many_eq]
        rwa [schedule_plain mode dice plain] at drawn
      simp only [roll, (dice.edge_none_iff mode).mpr plain, Pool.roll, many]

theorem roll_dry (mode : Option Mode) (term : Term) (source next : Source)
    (dry : source.drawAll (term.schedule mode) = (none, next)) :
    term.roll mode source = (none, next) := by
  cases term with
  | modifier value => simp [schedule, Source.drawAll] at dry
  | pool dice =>
      by_cases edged : dice.Edged mode
      · obtain ⟨edge, moded⟩ := dice.exists_edge mode edged
        have three : source.drawMany 3 20 = (none, next) := by
          rw [Source.draw_many_eq]
          rwa [schedule_edged mode dice edged] at dry
        simp only [roll, (dice.edge_some_iff mode edge).mpr ⟨edged, moded⟩, Mode.roll, three]
      · have many : source.drawMany dice.count dice.sides = (none, next) := by
          rw [Source.draw_many_eq]
          rwa [schedule_plain mode dice edged] at dry
        simp only [roll, (dice.edge_none_iff mode).mpr edged, Pool.roll, many]

end Term

namespace Resolution

theorem deals_length (mode : Option Mode) (terms : List Term) (values : List Int)
    (details : List Detail) (deals : Deals mode terms values details) :
    values.length = (terms.flatMap (Term.schedule mode)).length ∧
      details.flatMap Detail.recorded = values ∧ details.length = terms.length := by
  induction deals with
  | nil => exact ⟨rfl, rfl, rfl⟩
  | cons term later values rest detail details here _ ih =>
      obtain ⟨length, recorded⟩ := Term.deals_length mode term values detail here
      obtain ⟨lengthLater, recordedLater, count⟩ := ih
      simp [length, lengthLater, recorded, recordedLater, count]

theorem deals_unique (mode : Option Mode) (terms : List Term) (values : List Int)
    (details others : List Detail) (deals : Deals mode terms values details)
    (dealsOther : Deals mode terms values others) : details = others := by
  induction deals generalizing others with
  | nil =>
      cases dealsOther
      rfl
  | cons term later values rest detail details here _ ih =>
      generalize whole : values ++ rest = all at dealsOther
      cases dealsOther with
      | cons _ _ valuesOther restOther detailOther detailsOther hereOther behindOther =>
          -- Both cuts of the values are as long as the schedule of the first term.
          have same : values.length = valuesOther.length :=
            (Term.deals_length mode term _ _ here).1.trans
              (Term.deals_length mode term _ _ hereOther).1.symm
          obtain ⟨rfl, rfl⟩ := List.append_inj whole same
          rw [Term.deals_unique mode term _ _ _ here hereOther, ih _ behindOther]

theorem exists_deals_of_mem (mode : Option Mode) (terms : List Term) (values : List Int)
    (details : List Detail) (deals : Deals mode terms values details) :
    ∀ detail ∈ details, ∃ term ∈ terms, ∃ own, term.Deals mode own detail := by
  induction deals with
  | nil => exact fun detail member => absurd member List.not_mem_nil
  | cons term later own rest detail details here _ ih =>
      rw [List.forall_mem_cons]
      refine ⟨⟨term, List.mem_cons_self, own, here⟩, fun other member => ?_⟩
      obtain ⟨source, inside, found⟩ := ih other member
      exact ⟨source, List.mem_cons_of_mem term inside, found⟩

theorem deals_append (mode : Option Mode) (before after : List Term) (values rest : List Int)
    (details others : List Detail) (front : Deals mode before values details)
    (back : Deals mode after rest others) :
    Deals mode (before ++ after) (values ++ rest) (details ++ others) := by
  induction front with
  | nil => exact back
  | cons term later values behind detail details here _ ih =>
      rw [List.append_assoc]
      exact .cons term (later ++ after) values (behind ++ rest) detail (details ++ others) here ih

theorem of_terms_drawn (mode : Option Mode) (terms : List Term) (source next : Source)
    (values : List Int)
    (drawn : source.drawAll (terms.flatMap (Term.schedule mode)) = (some values, next)) :
    ∃ details, ofTerms mode terms source = ⟨details, true, next⟩ ∧
      Deals mode terms values details := by
  induction terms generalizing source values with
  | nil =>
      obtain ⟨rfl, rfl⟩ : [] = values ∧ source = next := by
        simpa [Source.drawAll] using drawn
      exact ⟨[], rfl, .nil⟩
  | cons term later ih =>
      rw [List.flatMap_cons, Source.draw_all_append] at drawn
      split at drawn
      next front middle first =>
        simp only [Prod.mk.injEq, Option.map_eq_some_iff] at drawn
        obtain ⟨⟨rest, found, rfl⟩, last⟩ := drawn
        obtain ⟨detail, rolled, here⟩ := term.roll_drawn mode source middle front first
        obtain ⟨details, resolved, behind⟩ := ih middle rest (Prod.ext found last)
        refine ⟨detail :: details, ?_, .cons term later front rest detail details here behind⟩
        simp only [ofTerms, rolled, resolved]
      next => cases drawn

theorem of_terms_dry (mode : Option Mode) (terms : List Term) (source next : Source)
    (dry : source.drawAll (terms.flatMap (Term.schedule mode)) = (none, next)) :
    (ofTerms mode terms source).complete = false ∧ (ofTerms mode terms source).source = next := by
  induction terms generalizing source with
  | nil => simp [Source.drawAll] at dry
  | cons term later ih =>
      rw [List.flatMap_cons, Source.draw_all_append] at dry
      split at dry
      next front middle first =>
        obtain ⟨nothing, last⟩ := Prod.mk.inj dry
        obtain ⟨detail, rolled, -⟩ := term.roll_drawn mode source middle front first
        simp only [ofTerms, rolled]
        exact ih middle (Prod.ext (Option.map_eq_none_iff.mp nothing) last)
      next middle first =>
        obtain ⟨-, rfl⟩ := Prod.mk.inj dry
        simp [ofTerms, term.roll_dry mode source middle first]

theorem drawn_of_complete (mode : Option Mode) (terms : List Term) (source : Source)
    (complete : (ofTerms mode terms source).complete = true) :
    ∃ values, source.drawAll (terms.flatMap (Term.schedule mode)) =
        (some values, (ofTerms mode terms source).source) ∧
      Deals mode terms values (ofTerms mode terms source).details := by
  cases drawn : source.drawAll (terms.flatMap (Term.schedule mode)) with
  | mk answer next =>
      cases answer with
      | none =>
          rw [(of_terms_dry mode terms source next drawn).1] at complete
          cases complete
      | some values =>
          obtain ⟨details, resolved, deals⟩ := of_terms_drawn mode terms source next values drawn
          rw [resolved]
          exact ⟨values, rfl, deals⟩

theorem of_terms_append (mode : Option Mode) (front back : List Term) (source : Source) :
    ofTerms mode (front ++ back) source =
      if (ofTerms mode front source).complete then
        { ofTerms mode back (ofTerms mode front source).source with
          details := (ofTerms mode front source).details ++
            (ofTerms mode back (ofTerms mode front source).source).details }
      else ofTerms mode front source := by
  induction front generalizing source with
  | nil => rfl
  | cons term later ih =>
      cases rolled : term.roll mode source with
      | mk answer next =>
          cases answer with
          | none => simp only [List.cons_append, ofTerms, rolled, Bool.false_eq_true, if_false]
          | some detail =>
              simp only [List.cons_append, ofTerms, rolled, ih next]
              split <;> rfl

theorem of_terms_sizes (mode : Option Mode) (terms : List Term) (source : Source) :
    ∃ requests, (ofTerms mode terms source).source.sizes = source.sizes ++ requests ∧
      requests <+: terms.flatMap (Term.schedule mode) ∧
      ((ofTerms mode terms source).complete = true →
        requests = terms.flatMap (Term.schedule mode)) := by
  obtain ⟨requests, asked, front, whole⟩ :=
    source.draw_all_sizes (terms.flatMap (Term.schedule mode))
  refine ⟨requests, ?_⟩
  cases drawn : source.drawAll (terms.flatMap (Term.schedule mode)) with
  | mk answer next =>
      rw [drawn] at asked whole
      cases answer with
      | none =>
          obtain ⟨failed, rfl⟩ := of_terms_dry mode terms source next drawn
          exact ⟨asked, front, by simp [failed]⟩
      | some values =>
          obtain ⟨details, resolved, -⟩ := of_terms_drawn mode terms source next values drawn
          rw [resolved]
          exact ⟨asked, front, fun _ => whole rfl⟩

theorem of_terms_script (mode : Option Mode) (terms : List Term) (values rest : List Int)
    (details : List Detail) (deals : Deals mode terms values details) (script : Source)
    (feed : script.feed = .script (values ++ rest)) :
    (ofTerms mode terms script).details = details ∧
      (ofTerms mode terms script).complete = true ∧
      (ofTerms mode terms script).source.feed = .script rest := by
  obtain ⟨length, -, -⟩ := deals_length mode terms values details deals
  obtain ⟨after, drawn, left⟩ := Source.draw_all_script _ values rest script length feed
  obtain ⟨made, resolved, dealsMade⟩ := of_terms_drawn mode terms script after values drawn
  rw [resolved]
  exact ⟨deals_unique mode terms values made details dealsMade deals, rfl, left⟩

theorem exists_deals (mode : Option Mode) (terms : List Term) (values : List Int)
    (length : values.length = (terms.flatMap (Term.schedule mode)).length) :
    ∃ details, Deals mode terms values details := by
  obtain ⟨after, drawn, -⟩ := Source.draw_all_script _ values [] (.script none values) length
    (congrArg Feed.script (List.append_nil values).symm)
  obtain ⟨details, -, deals⟩ := of_terms_drawn mode terms _ after values drawn
  exact ⟨details, deals⟩

theorem of_terms_repeats (mode : Option Mode) (terms : List Term) (source : Source)
    (complete : (ofTerms mode terms source).complete = true) (script : Source) (rest : List Int)
    (feed : script.feed =
      .script ((ofTerms mode terms source).details.flatMap Detail.recorded ++ rest)) :
    (ofTerms mode terms script).details = (ofTerms mode terms source).details ∧
      (ofTerms mode terms script).complete = true ∧
      (ofTerms mode terms script).source.feed = .script rest := by
  obtain ⟨values, -, deals⟩ := drawn_of_complete mode terms source complete
  rw [(deals_length mode terms values _ deals).2.1] at feed
  exact of_terms_script mode terms values rest _ deals script feed

end Resolution

/-- A script that is long enough completes the roll of an expression, which takes the dice of its
schedule from the front. -/
theorem Expression.resolve_script (expression : Expression) (label : Option String)
    (values : List Int) (enough : expression.schedule.length ≤ values.length) :
    (expression.resolve (.script label values)).complete = true ∧
      Resolution.Deals expression.mode expression.terms
        (values.take expression.schedule.length)
        (expression.resolve (.script label values)).details ∧
      (expression.resolve (.script label values)).source.feed =
        .script (values.drop expression.schedule.length) := by
  have length : (values.take expression.schedule.length).length = expression.schedule.length := by
    rw [List.length_take, Nat.min_eq_left enough]
  obtain ⟨details, deals⟩ := Resolution.exists_deals _ _ _ length
  have feed : (Source.script label values).feed = .script
      (values.take expression.schedule.length ++ values.drop expression.schedule.length) := by
    rw [List.take_append_drop]
    rfl
  obtain ⟨same, complete, left⟩ := Resolution.of_terms_script _ _ _ _ details deals _ feed
  refine ⟨complete, ?_, left⟩
  unfold resolve
  rw [same]
  exact deals

namespace Feed

def after (feed : Feed) (sizes : List Nat) : Feed :=
  sizes.foldl (fun now sides => (now.draw sides).2) feed

def Endless (feed : Feed) : Prop :=
  ∀ sizes : List Nat, (∀ size ∈ sizes, 0 < size) → ∀ sides, 0 < sides →
    ∃ value, ((feed.after sizes).draw sides).1 = some value

theorem draw_endless (feed : Feed) (endless : feed.Endless) (sides : Nat) (positive : 0 < sides) :
    (∃ value, (feed.draw sides).1 = some value) ∧ (feed.draw sides).2.Endless := by
  refine ⟨endless [] (by simp) sides positive, fun sizes all next nextPositive => ?_⟩
  exact endless (sides :: sizes) (List.forall_mem_cons.mpr ⟨positive, all⟩) next nextPositive

theorem cycle_endless (value : Int) (rest left : List Int) :
    (cycle (value :: rest) left).Endless := by
  have step : ∀ sides left, ∃ answer later, (cycle (value :: rest) left).draw sides =
      (some answer, cycle (value :: rest) later) := by
    intro sides left
    cases left with
    | nil => exact ⟨value, rest, rfl⟩
    | cons first later => exact ⟨first, later, rfl⟩
  intro sizes
  induction sizes generalizing left with
  | nil =>
      intro _ sides _
      obtain ⟨answer, later, drawn⟩ := step sides left
      exact ⟨answer, congrArg Prod.fst drawn⟩
  | cons size sizes ih =>
      intro all sides positive
      obtain ⟨answer, later, drawn⟩ := step size left
      have again := ih later (fun next member => all next (List.mem_cons_of_mem size member)) sides
        positive
      simpa only [after, List.foldl_cons, drawn] using again

end Feed

theorem Source.draw_all_endless (sizes : List Nat) (positive : ∀ size ∈ sizes, 0 < size)
    (source : Source) (endless : source.feed.Endless) :
    ∃ values, (source.drawAll sizes).1 = some values := by
  induction sizes generalizing source with
  | nil => exact ⟨[], rfl⟩
  | cons size sizes ih =>
      obtain ⟨here, behind⟩ := List.forall_mem_cons.mp positive
      obtain ⟨⟨value, answered⟩, later⟩ := source.feed.draw_endless endless size here
      obtain ⟨values, found⟩ := ih behind (source.draw size).2 later
      have drawn : source.draw size = (some value, (source.draw size).2) := Prod.ext answered rfl
      refine ⟨value :: values, ?_⟩
      simp only [drawAll]
      rw [drawn]
      simp only [found, Option.map_some]

theorem Term.schedule_pos (mode : Option Mode) (term : Term) :
    ∀ size ∈ term.schedule mode, 0 < size := by
  intro size member
  cases term with
  | modifier value => cases member
  | pool dice =>
      by_cases edged : dice.Edged mode
      · rw [schedule_edged mode dice edged] at member
        revert size
        decide
      · rw [schedule_plain mode dice edged] at member
        rw [List.eq_of_mem_replicate member]
        exact dice.sides_pos

/-- A source that always answers completes every resolution. -/
theorem Resolution.of_terms_endless (mode : Option Mode) (terms : List Term) (source : Source)
    (endless : source.feed.Endless) : (ofTerms mode terms source).complete = true := by
  have positive : ∀ size ∈ terms.flatMap (Term.schedule mode), 0 < size := by
    intro size member
    obtain ⟨term, -, inside⟩ := List.mem_flatMap.mp member
    exact term.schedule_pos mode size inside
  obtain ⟨values, found⟩ := Source.draw_all_endless _ positive source endless
  obtain ⟨details, resolved, -⟩ :=
    of_terms_drawn mode terms source _ values (Prod.ext found rfl)
  rw [resolved]

end DiceRoller
