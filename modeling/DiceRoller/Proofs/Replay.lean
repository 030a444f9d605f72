import DiceRoller.Proofs.Expression.RoundTrip
import DiceRoller.Proofs.Serving

/-!
Records can be replayed. A script that holds the dice of a record answers them in the order in
which they were drawn, so a roll of the printed expression from it makes the same record and
leaves nothing of the script.
-/

namespace DiceRoller

namespace Service

/-- A record is made again, as far as it does not name its text and its source, by a roll of its
own expression from a script of its dice, and the script is used up. -/
theorem serve_replay (limits : Limits) (text : String) (source : Source) (record : Record)
    (served : (serve limits text source).outcome = .ok record) (label : Option String) :
    ∃ again, (serve limits record.expression.text (.script label record.recorded)).outcome =
        .ok again ∧
      (serve limits record.expression.text (.script label record.recorded)).source.feed =
        .script [] ∧
      again.details = record.details ∧ again.total = record.total ∧
      again.explanation = record.explanation ∧ again.expression.mode = record.expression.mode ∧
      again.expression.text = record.expression.text := by
  obtain ⟨expression, read, faultless, rfl⟩ := (serve_ok_iff limits text source record).mp served
  obtain ⟨complete, writable⟩ := (fault_none_iff _).mp faultless
  have again := Expression.read_again limits text expression read
  generalize scripted : Source.script label (Record.recorded
    ⟨text, expression, source.label, (expression.resolve source).details⟩) = script
  have feed : script.feed =
      .script ((expression.resolve source).details.flatMap Detail.recorded ++ []) := by
    rw [← scripted, List.append_nil]
    rfl
  obtain ⟨details, finished, used⟩ :=
    Resolution.of_terms_repeats expression.mode expression.terms source complete script [] feed
  -- Whether a roll can be written depends on its records alone.
  have same : (expression.resolve script).isWritable = (expression.resolve source).isWritable := by
    unfold Resolution.isWritable Resolution.total Expression.resolve
    rw [details]
  have faultlessAgain : fault? (expression.resolve script) = none :=
    (fault_none_iff _).mpr ⟨finished, by rw [same, writable]⟩
  have outcome := (serve_ok_iff limits expression.text script _).mpr
    ⟨expression, again, faultlessAgain, rfl⟩
  refine ⟨_, outcome, ?_, details, ?_, ?_, rfl, rfl⟩
  · rw [serve_source limits _ script expression again]
    exact used
  · exact congrArg Detail.total details
  · exact congrArg Detail.report details

/-- A d20 under advantage with a modifier, rolled from a cycle of two. -/
theorem serve_replay_advantage :
    ∃ record, (serve .unlimited "1D20 + 02 adv" (.cycle none [7, 12])).outcome = .ok record ∧
      record.recorded = [7, 12, 7] ∧
      ∃ again, (serve .unlimited record.expression.text (.script none record.recorded)).outcome =
        .ok again ∧ again.details = record.details := by
  have read : Expression.read .unlimited "1D20 + 02 adv" =
      .ok ⟨[.pool ⟨1, 20, none, by decide, by decide⟩, .modifier 2], some .advantage⟩ := by
    decide +kernel
  have served := (serve_ok_iff .unlimited "1D20 + 02 adv" (.cycle none [7, 12]) _).mpr
    ⟨_, read, by decide +kernel, rfl⟩
  obtain ⟨again, outcome, -, details, -⟩ := serve_replay _ _ _ _ served none
  exact ⟨_, served, by decide, again, outcome, details⟩

end Service

end DiceRoller
