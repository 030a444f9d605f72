import DiceRoller.Proofs.Expression.RoundTrip
import DiceRoller.Proofs.Serving
import DiceRoller.Settings.Basic
import Mathlib.Algebra.Order.BigOperators.Group.List
import Mathlib.Algebra.Order.Group.Nat

/-!
The work of one request. A text that is read under the limits of the settings has at most as many
terms as they allow, and each term asks for at most as many dice as they allow, or for the three of
an edge. A roll asks along its schedule until the source runs dry, so the limits bound what it asks
for whether it is finished or not.
-/

namespace DiceRoller

namespace Settings

/-- The most dice that one term asks for; an edge takes three of them whatever the limit is. -/
def diceOfTerm (settings : Settings) : Nat :=
  max 3 settings.diceCount.val

def diceOfRequest (settings : Settings) : Nat :=
  settings.terms.val * settings.diceOfTerm

end Settings

structure Served.Keeps (settings : Settings) (source : Source) (served : Served) : Prop where
  asked : ∃ requests, served.source.sizes = source.sizes ++ requests ∧
    requests.length ≤ settings.diceOfRequest ∧
    ∀ size ∈ requests, 1 ≤ size ∧ size ≤ settings.dieSides.val
  recorded : ∀ record, served.outcome = .ok record →
    1 ≤ record.details.length ∧ record.details.length ≤ settings.terms.val ∧
    ∀ dice rolls used subtotal, Detail.dice dice rolls used subtotal ∈ record.details →
      rolls.length ≤ settings.diceCount.val
  unread : ∀ error, served.outcome = .error (.unread error) → served.source = source

section Limited
variable (settings : Settings) (mode : Option Mode)

theorem Pool.within_settings_iff (dice : Pool) :
    (Term.pool dice).Within settings.limits ↔
      dice.count ≤ settings.diceCount.val ∧ dice.sides ≤ settings.dieSides.val := by
  simp [Term.Within, Settings.limits]

theorem Term.schedule_within (term : Term) (within : term.Within settings.limits) :
    (term.schedule mode).length ≤ settings.diceOfTerm ∧
      ∀ size ∈ term.schedule mode, size ≤ settings.dieSides.val := by
  cases term with
  | modifier value => simp [schedule]
  | pool dice =>
      obtain ⟨count, sides⟩ := (dice.within_settings_iff settings).mp within
      by_cases edged : dice.Edged mode
      · -- The dice of an edge have the size of the pool that they stand for.
        rw [edged.1.2.1] at sides
        rw [schedule_edged mode dice edged]
        exact ⟨Nat.le_max_left 3 _, by simpa using sides⟩
      · rw [schedule_plain mode dice edged, List.length_replicate]
        refine ⟨Nat.le_trans count (Nat.le_max_right 3 _), fun size member => ?_⟩
        rw [List.eq_of_mem_replicate member]
        exact sides

theorem Term.deals_within (term : Term) (values : List Int) (dice : Pool) (rolls used : List Int)
    (subtotal : Int) (within : term.Within settings.limits)
    (deals : term.Deals mode values (.dice dice rolls used subtotal)) :
    rolls.length ≤ settings.diceCount.val := by
  cases deals with
  | pool _ _ _ length =>
      rw [length]
      exact ((Pool.within_settings_iff settings dice).mp within).1

theorem Expression.terms_within (expression : Expression)
    (within : expression.Within settings.limits) :
    expression.terms.length ≤ settings.terms.val := by
  simpa [Settings.limits] using within.1

theorem Expression.schedule_within (expression : Expression)
    (within : expression.Within settings.limits) :
    expression.schedule.length ≤ settings.diceOfRequest ∧
      ∀ size ∈ expression.schedule, 1 ≤ size ∧ size ≤ settings.dieSides.val := by
  constructor
  · have dice := List.sum_le_card_nsmul
      (expression.terms.map fun term => (term.schedule expression.mode).length)
      settings.diceOfTerm (by
        intro length member
        obtain ⟨term, inside, rfl⟩ := List.mem_map.mp member
        exact (term.schedule_within settings expression.mode (within.2 term inside)).1)
    rw [List.length_map, Nat.nsmul_eq_mul] at dice
    rw [schedule, List.length_flatMap]
    exact Nat.le_trans dice (Nat.mul_le_mul_right _ (expression.terms_within settings within))
  · intro size member
    obtain ⟨term, inside, asked⟩ := List.mem_flatMap.mp member
    exact ⟨term.schedule_pos expression.mode size asked,
      (term.schedule_within settings expression.mode (within.2 term inside)).2 size asked⟩

theorem Expression.asked_within (expression : Expression) (source : Source)
    (within : expression.Within settings.limits) :
    ∃ requests, (expression.resolve source).source.sizes = source.sizes ++ requests ∧
      requests.length ≤ settings.diceOfRequest ∧
      ∀ size ∈ requests, 1 ≤ size ∧ size ≤ settings.dieSides.val := by
  obtain ⟨few, small⟩ := expression.schedule_within settings within
  obtain ⟨requests, asked, front, -⟩ :=
    Resolution.of_terms_sizes expression.mode expression.terms source
  exact ⟨requests, asked, Nat.le_trans front.length_le few,
    fun size member => small size (front.subset member)⟩

theorem Expression.details_within (expression : Expression) (source : Source)
    (nonempty : expression.terms ≠ []) (within : expression.Within settings.limits)
    (complete : (expression.resolve source).complete = true) :
    1 ≤ (expression.resolve source).details.length ∧
      (expression.resolve source).details.length ≤ settings.terms.val ∧
      ∀ dice rolls used subtotal,
        Detail.dice dice rolls used subtotal ∈ (expression.resolve source).details →
        rolls.length ≤ settings.diceCount.val := by
  obtain ⟨values, -, deals⟩ := Resolution.drawn_of_complete _ _ source complete
  obtain ⟨-, -, count⟩ := Resolution.deals_length _ _ _ _ deals
  refine ⟨?_, ?_, fun dice rolls used subtotal member => ?_⟩
  · exact Nat.le_trans (List.length_pos_iff.mpr nonempty) count.ge
  · exact Nat.le_trans count.le (expression.terms_within settings within)
  · obtain ⟨term, inside, own, dealt⟩ := Resolution.exists_deals_of_mem _ _ _ _ deals _ member
    exact term.deals_within settings _ own dice rolls used subtotal (within.2 term inside) dealt

end Limited

namespace Service

/-- Whatever the text is and whatever the source answers, a request keeps the limits of the
settings; one that is not read leaves the source alone. -/
theorem serve_keeps (settings : Settings) (text : String) (source : Source) :
    (serve settings.limits text source).Keeps settings source where
  asked := by
    cases read : Expression.read settings.limits text with
    | error error =>
        have same := serve_unread_source settings.limits text source error
          (serve_unread settings.limits text source error read)
        exact ⟨[], by rw [same, List.append_nil], Nat.zero_le _, by simp⟩
    | ok expression =>
        obtain ⟨-, within, -⟩ := Expression.read_small settings.limits text expression read
        rw [serve_source settings.limits text source expression read]
        exact expression.asked_within settings source within
  recorded record served := by
    obtain ⟨expression, read, faultless, rfl⟩ :=
      (serve_ok_iff settings.limits text source record).mp served
    obtain ⟨nonempty, within, -⟩ := Expression.read_small settings.limits text expression read
    obtain ⟨complete, -⟩ := (fault_none_iff _).mp faultless
    exact expression.details_within settings source nonempty within complete
  unread error refused := serve_unread_source settings.limits text source error refused

/-- With room for one die an edge may ask for three, here of a source that is dry at the second. -/
example : (serve
    (Settings.limits ⟨.info, .stdio, ⟨1, by decide⟩, ⟨20, by decide⟩, ⟨1, by decide⟩⟩)
    "d20 adv" (.script none [7])).source.sizes = [20, 20] := by
  decide +kernel

end Service

end DiceRoller
