import DiceRoller.Proofs.Rolling
import DiceRoller.Service

/-!
One request, as it turns out: a text that is not read leaves the source alone, and an expression is
rolled until the source runs dry or the roll is found too long to be written.
-/

namespace DiceRoller.Service

theorem fault_none_iff (resolution : Resolution) :
    fault? resolution = none ↔ resolution.complete = true ∧ resolution.isWritable = true := by
  unfold fault?
  cases resolution.complete with
  | false => simp
  | true => cases resolution.isWritable <;> simp

theorem fault_of_endless (expression : Expression) (source : Source)
    (endless : source.feed.Endless) :
    fault? (expression.resolve source) =
      if (expression.resolve source).isWritable then none else some .unwritable := by
  have complete : (expression.resolve source).complete = true :=
    Resolution.of_terms_endless expression.mode expression.terms source endless
  simp only [fault?, complete, Bool.not_true, Bool.false_eq_true, if_false]

theorem serve_unread (limits : Limits) (text : String) (source : Source) (error : ReadError)
    (refused : Expression.read limits text = .error error) :
    (serve limits text source).outcome = .error (.unread error) := by
  simp only [serve, refused]

theorem serve_outcome (limits : Limits) (text : String) (source : Source) (expression : Expression)
    (read : Expression.read limits text = .ok expression) :
    (serve limits text source).outcome =
      (fault? (expression.resolve source)).elim
        (.ok ⟨text, expression, source.label, (expression.resolve source).details⟩) .error := by
  simp only [serve, read, roll]
  cases fault? (expression.resolve source) <;> rfl

theorem serve_ok_iff (limits : Limits) (text : String) (source : Source) (record : Record) :
    (serve limits text source).outcome = .ok record ↔
      ∃ expression, Expression.read limits text = .ok expression ∧
        fault? (expression.resolve source) = none ∧
        record = ⟨text, expression, source.label, (expression.resolve source).details⟩ := by
  cases read : Expression.read limits text with
  | error error => simp [serve_unread limits text source error read]
  | ok expression =>
      rw [serve_outcome limits text source expression read]
      simp only [Except.ok.injEq, exists_eq_left']
      cases fault? (expression.resolve source) with
      | some fault => simp
      | none => simp [eq_comm]

theorem serve_source (limits : Limits) (text : String) (source : Source) (expression : Expression)
    (read : Expression.read limits text = .ok expression) :
    (serve limits text source).source = (expression.resolve source).source := by
  simp only [serve, read, roll]
  cases fault? (expression.resolve source) <;> rfl

inductive Draws (source : Source) : Except RollFault Record → Source → Prop
  | unread (error : ReadError) : Draws source (.error (.unread error)) source
  | ranDry (sizes : List Nat) (next : Source) : source.drawAll sizes = (none, next) →
      Draws source (.error .ranDry) next
  | unwritable (sizes : List Nat) (values : List Int) (next : Source) :
      source.drawAll sizes = (some values, next) → Draws source (.error .unwritable) next
  | recorded (sizes : List Nat) (record : Record) (next : Source) :
      source.drawAll sizes = (some record.recorded, next) → Draws source (.ok record) next

theorem serve_draws (limits : Limits) (text : String) (source : Source) :
    Draws source (serve limits text source).outcome (serve limits text source).source := by
  cases read : Expression.read limits text with
  | error error =>
      simp only [serve, read]
      exact .unread error
  | ok expression =>
      rw [serve_source limits text source expression read,
        serve_outcome limits text source expression read]
      cases drawn : source.drawAll expression.schedule with
      | mk answer next =>
          cases answer with
          | none =>
              have dry := Resolution.of_terms_dry _ _ _ _ drawn
              have fault : fault? (expression.resolve source) = some .ranDry := by
                simp only [fault?, Expression.resolve, dry.1]
                rfl
              rw [fault, Expression.resolve, dry.2]
              exact .ranDry _ next drawn
          | some values =>
              obtain ⟨details, resolved, deals⟩ := Resolution.of_terms_drawn _ _ _ _ _ drawn
              have whole : expression.resolve source = ⟨details, true, next⟩ := resolved
              rw [whole]
              cases writable : Resolution.isWritable ⟨details, true, next⟩ with
              | false =>
                  simp only [fault?, writable]
                  exact .unwritable _ values next drawn
              | true =>
                  simp only [fault?, writable]
                  apply Draws.recorded expression.schedule _ next
                  rw [drawn, ← (Resolution.deals_length _ _ _ _ deals).2.1]
                  rfl

theorem serve_unread_source (limits : Limits) (text : String) (source : Source) (error : ReadError)
    (refused : (serve limits text source).outcome = .error (.unread error)) :
    (serve limits text source).source = source := by
  have draws := serve_draws limits text source
  rw [refused] at draws
  generalize (serve limits text source).source = next at draws ⊢
  cases draws
  rfl

end DiceRoller.Service
