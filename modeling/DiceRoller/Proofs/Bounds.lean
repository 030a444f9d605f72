import DiceRoller.Proofs.Outcome
import DiceRoller.Proofs.Ranking
import DiceRoller.Proofs.Rolling

/-!
Bounds of a total. If every die of a size shows the face of that size, the total is a function of
the expression. When all dice lie between two such faces the total lies between the two scores, term
by term. So fair dice score at least what ones score and at most what the sizes themselves score,
and a source that answers only those reaches the bound.
-/

namespace DiceRoller

/-- A source answers dice of these sizes one after the other, each with a value fit for its size. -/
def Source.Answers (fit : Nat → Int → Prop) : List Nat → Source → Prop
  | [], _ => True
  | size :: sizes, source => ∃ value next, source.draw size = (some value, next) ∧
      fit size value ∧ Answers fit sizes next

/-- What a term scores when every die shows the face of its size. -/
def Term.score (mode : Option Mode) (face : Nat → Int) : Term → Int
  | modifier value => value
  | pool dice =>
      if dice.Edged mode then face 20 else dice.counted dice.count * face dice.sides

namespace Expression

def score (expression : Expression) (face : Nat → Int) : Int :=
  (expression.terms.map (Term.score expression.mode face)).sum

def lowest (expression : Expression) : Int :=
  expression.score fun _ => 1

def highest (expression : Expression) : Int :=
  expression.score fun size => size

end Expression

/-- A complete roll whose records, term by term, score between the faces of two dice. -/
structure Resolution.Between (expression : Expression) (low high : Nat → Int)
    (resolution : Resolution) : Prop where
  complete : resolution.complete = true
  records : List.Forall₂ (fun term detail =>
    Term.score expression.mode low term ≤ detail.subtotal ∧
      detail.subtotal ≤ Term.score expression.mode high term) expression.terms resolution.details
  total : expression.score low ≤ resolution.total ∧ resolution.total ≤ expression.score high

namespace Source

variable (fit : Nat → Int → Prop)

theorem answers_draw_all (sizes : List Nat) (source : Source) (answers : source.Answers fit sizes) :
    ∃ values next, source.drawAll sizes = (some values, next) ∧
      List.Forall₂ fit sizes values := by
  induction sizes generalizing source with
  | nil => exact ⟨[], source, rfl, .nil⟩
  | cons size sizes ih =>
      obtain ⟨value, next, drawn, here, behind⟩ := answers
      obtain ⟨values, last, drawnLater, later⟩ := ih next behind
      exact ⟨value :: values, last, by simp [drawAll, drawn, drawnLater], .cons here later⟩

theorem script_answers (sizes : List Nat) (values : List Int)
    (fits : List.Forall₂ fit sizes values) (script : Source) (feed : script.feed = .script values) :
    script.Answers fit sizes := by
  induction fits generalizing script with
  | nil => trivial
  | @cons size value sizes values here _ ih =>
      refine ⟨value, { script with feed := .script values, asked := size :: script.asked }, ?_,
        here, ih _ rfl⟩
      simp [draw, feed, Feed.draw]

theorem exists_answers (face : Nat → Int) (sizes : List Nat) :
    ∃ source : Source, source.Answers (fun size value => value = face size) sizes := by
  refine ⟨.script none (sizes.map face), script_answers _ sizes (sizes.map face) ?_ _ rfl⟩
  rw [List.forall₂_map_right_iff, List.forall₂_same]
  exact fun _ _ => rfl

end Source

theorem Mode.pick_between (mode : Mode) (first second low high : Int)
    (one : low ≤ first ∧ first ≤ high) (two : low ≤ second ∧ second ≤ high) :
    low ≤ mode.pick first second ∧ mode.pick first second ≤ high := by
  cases mode with
  | advantage => exact ⟨le_max_of_le_left one.1, max_le one.2 two.2⟩
  | disadvantage => exact ⟨le_min one.1 two.1, min_le_of_left_le one.2⟩

namespace Pool

theorem exists_counted (dice : Pool) (rolls : List Int) :
    ∃ values ⊆ rolls, values.length = dice.counted rolls.length ∧
      dice.subtotal rolls = values.sum := by
  cases selected : dice.selector with
  | none =>
      refine ⟨rolls, List.Subset.refl _, ?_, dice.subtotal_plain selected rolls⟩
      simp only [counted, selected]
  | some selector =>
      refine ⟨selector.part (Die.descending rolls), fun value member => ?_, ?_,
        dice.subtotal_selected selector selected rolls⟩
      · exact (Die.descending_perm rolls).mem_iff.mp
          ((selector.part_sublist _).subset member)
      · rw [selector.part_length, (Die.descending_perm rolls).length_eq]
        simp only [counted, selected]

theorem subtotal_between (dice : Pool) (rolls : List Int) (low high : Int)
    (all : ∀ value ∈ rolls, low ≤ value ∧ value ≤ high) :
    dice.counted rolls.length * low ≤ dice.subtotal rolls ∧
      dice.subtotal rolls ≤ dice.counted rolls.length * high := by
  obtain ⟨values, inside, count, sum⟩ := dice.exists_counted rolls
  have least := values.card_nsmul_le_sum low fun value member => (all value (inside member)).1
  have most := values.sum_le_card_nsmul high fun value member => (all value (inside member)).2
  rw [count, nsmul_eq_mul, ← sum] at least most
  exact ⟨least, most⟩

end Pool

section Between
variable (mode : Option Mode) (low high : Nat → Int)

theorem Term.deals_between (term : Term) (values : List Int) (detail : Detail)
    (deals : term.Deals mode values detail)
    (fits : List.Forall₂ (fun size value => low size ≤ value ∧ value ≤ high size)
      (term.schedule mode) values) :
    term.score mode low ≤ detail.subtotal ∧ detail.subtotal ≤ term.score mode high := by
  cases deals with
  | modifier value => exact ⟨le_refl value, le_refl value⟩
  | edge dice edge base first second edged _ =>
      rw [schedule_edged mode dice edged] at fits
      simp only [List.forall₂_cons, List.Forall₂.nil, and_true] at fits
      simp only [score, edged, if_true]
      exact edge.pick_between first second (low 20) (high 20) fits.2.1 fits.2.2
  | pool dice rolls plain length =>
      rw [schedule_plain mode dice plain] at fits
      simp only [score, plain, if_false, ← length]
      apply dice.subtotal_between values
      intro value member
      obtain ⟨size, inside, between⟩ := Outcome.exists_item_of_mem _ _ _ fits value member
      rw [← List.eq_of_mem_replicate inside]
      exact between

theorem Resolution.deals_between (terms : List Term) (values : List Int) (details : List Detail)
    (deals : Deals mode terms values details)
    (fits : List.Forall₂ (fun size value => low size ≤ value ∧ value ≤ high size)
      (terms.flatMap (Term.schedule mode)) values) :
    List.Forall₂ (fun term detail => Term.score mode low term ≤ detail.subtotal ∧
      detail.subtotal ≤ Term.score mode high term) terms details := by
  induction deals with
  | nil => exact .nil
  | cons term later values rest detail details here _ ih =>
      -- The dice of the first term answer its own schedule.
      have length := (Term.deals_length mode term values detail here).1
      have front := List.forall₂_take values.length fits
      have back := List.forall₂_drop values.length fits
      rw [List.flatMap_cons, List.take_left, length, List.take_left] at front
      rw [List.flatMap_cons, List.drop_left, length, List.drop_left] at back
      exact .cons (term.deals_between mode low high values detail here front) (ih back)

theorem Detail.total_between (terms : List Term) (details : List Detail)
    (records : List.Forall₂ (fun term detail => Term.score mode low term ≤ detail.subtotal ∧
      detail.subtotal ≤ Term.score mode high term) terms details) :
    (terms.map (Term.score mode low)).sum ≤ total details ∧
      total details ≤ (terms.map (Term.score mode high)).sum := by
  induction records with
  | nil => exact ⟨le_refl 0, le_refl 0⟩
  | cons here _ ih =>
      simp only [List.map_cons, List.sum_cons, total_cons]
      exact ⟨add_le_add here.1 ih.1, add_le_add here.2 ih.2⟩

end Between

namespace Expression

theorem resolve_between (expression : Expression) (low high : Nat → Int) (source : Source)
    (answers : source.Answers (fun size value => low size ≤ value ∧ value ≤ high size)
      expression.schedule) :
    (expression.resolve source).Between expression low high := by
  obtain ⟨values, next, drawn, fits⟩ := Source.answers_draw_all _ _ source answers
  obtain ⟨details, resolved, deals⟩ := Resolution.of_terms_drawn _ _ source next values drawn
  have records := Resolution.deals_between _ low high _ _ _ deals fits
  have whole : expression.resolve source = ⟨details, true, next⟩ := resolved
  rw [whole]
  exact ⟨rfl, records, Detail.total_between _ low high _ _ records⟩

theorem resolve_score (expression : Expression) (face : Nat → Int) (source : Source)
    (answers : source.Answers (fun size value => value = face size) expression.schedule) :
    (expression.resolve source).complete = true ∧
      (expression.resolve source).total = expression.score face := by
  have between := expression.resolve_between face face source (by
    simpa only [le_antisymm_iff, and_comm] using answers)
  exact ⟨between.complete, le_antisymm between.total.2 between.total.1⟩

/-- From any source with dice in range a roll is complete and every record and the total are within
the bounds; ones reach the lower bound of the total, dice that show their sizes the upper one, and
there are such sources. -/
theorem total_bounded (expression : Expression) :
    (∀ source : Source,
      source.Answers (fun size value => 1 ≤ value ∧ value ≤ size) expression.schedule →
      (expression.resolve source).Between expression (fun _ => 1) (fun size => size)) ∧
    (∀ source : Source, source.Answers (fun _ value => value = 1) expression.schedule →
      (expression.resolve source).complete = true ∧
        (expression.resolve source).total = expression.lowest) ∧
    (∀ source : Source, source.Answers (fun size value => value = size) expression.schedule →
      (expression.resolve source).complete = true ∧
        (expression.resolve source).total = expression.highest) ∧
    (∃ source : Source, source.Answers (fun _ value => value = 1) expression.schedule) ∧
    ∃ source : Source, source.Answers (fun size value => value = size) expression.schedule :=
  ⟨expression.resolve_between _ _, expression.resolve_score _, expression.resolve_score _,
    Source.exists_answers _ _, Source.exists_answers _ _⟩

/-- The better two of three dice and a d20 with advantage, less one. -/
theorem total_bounded_kept :
    let dice : Pool := ⟨3, 6, some ⟨.keepHigh, 2, by decide⟩, by decide, by decide⟩
    let roll : Expression :=
      ⟨[.pool dice, .pool ⟨1, 20, none, by decide, by decide⟩, .modifier (-1)], some .advantage⟩
    (roll.resolve (.script none [2, 5, 6, 9, 3, 14])).Between roll (fun _ => 1) (fun size => size) ∧
      (roll.resolve (.script none [1, 1, 1, 1, 1, 1])).total = 2 ∧
      (roll.resolve (.script none [6, 6, 6, 20, 20, 20])).total = 31 := by
  intro dice roll
  have schedule : roll.schedule = [6, 6, 6, 20, 20, 20] := rfl
  obtain ⟨between, lowest, highest, -⟩ := total_bounded roll
  rw [schedule] at between lowest highest
  refine ⟨between _ (Source.script_answers _ _ [2, 5, 6, 9, 3, 14] (by simp) _ rfl), ?_, ?_⟩
  · exact (lowest _ (Source.script_answers _ _ [1, 1, 1, 1, 1, 1] (by simp) _ rfl)).2
  · exact (highest _ (Source.script_answers _ _ [6, 6, 6, 20, 20, 20] (by simp) _ rfl)).2

end Expression

end DiceRoller
