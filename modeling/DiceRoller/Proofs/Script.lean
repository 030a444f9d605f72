import DiceRoller.Proofs.Rolling

/-!
What a scripted source answers. Its draws give the values of the script in order, a cycle over and
over, and each draw is counted. A source that has run dry answers nothing from then on.
-/

namespace DiceRoller

namespace Feed

/-- The first values that are written in a feed; a cycle repeats all of its values. -/
def first (count : Nat) : Feed → List Int
  | script left => left.take count
  | cycle all left => (left ++ (List.replicate count all).flatten).take count
  | generator _ => []

def Dry (feed : Feed) : Prop :=
  feed.isScripted = true ∧ ∀ sides, feed.draw sides = (none, feed)

theorem first_zero (feed : Feed) : feed.first 0 = [] := by
  cases feed <;> simp [first]

/-- As many rounds of a cycle as values are asked for are enough. -/
theorem take_rounds (count : Nat) (all left : List Int) :
    (left ++ (List.replicate (count + 1) all).flatten).take count =
      (left ++ (List.replicate count all).flatten).take count := by
  cases all with
  | nil => simp
  | cons value rest =>
      have long : count ≤ (left ++ (List.replicate count (value :: rest)).flatten).length := by
        have rounds : count ≤ count * (rest.length + 1) :=
          Nat.le_mul_of_pos_right count (Nat.succ_pos rest.length)
        simp only [List.length_append, List.length_flatten, List.map_replicate,
          List.sum_replicate_nat, List.length_cons]
        omega
      rw [List.replicate_succ', List.flatten_append, ← List.append_assoc,
        List.take_append_of_le_length long]

theorem first_draw (feed next : Feed) (sides count : Nat) (value : Int)
    (scripted : feed.isScripted = true) (drawn : feed.draw sides = (some value, next)) :
    next.isScripted = true ∧ feed.first (count + 1) = value :: next.first count := by
  cases feed with
  | generator state => cases scripted
  | script left =>
      cases left with
      | nil => cases drawn
      | cons given rest =>
          cases drawn
          exact ⟨rfl, rfl⟩
  | cycle all left =>
      cases left with
      | cons given rest =>
          cases drawn
          refine ⟨rfl, ?_⟩
          simp only [first, List.cons_append, List.take_succ_cons, take_rounds]
      | nil =>
          cases all with
          | nil => cases drawn
          | cons given rest =>
              cases drawn
              refine ⟨rfl, ?_⟩
              simp only [first, List.replicate_succ, List.flatten_cons, List.nil_append,
                List.cons_append, List.take_succ_cons]

theorem dry_of_draw (feed next : Feed) (sides : Nat) (scripted : feed.isScripted = true)
    (drawn : feed.draw sides = (none, next)) : next.Dry := by
  cases feed with
  | generator state => cases scripted
  | script left =>
      cases left with
      | cons given rest => cases drawn
      | nil =>
          cases drawn
          exact ⟨rfl, fun _ => rfl⟩
  | cycle all left =>
      cases left with
      | cons given rest => cases drawn
      | nil =>
          cases all with
          | cons given rest => cases drawn
          | nil =>
              cases drawn
              exact ⟨rfl, fun _ => rfl⟩

end Feed

namespace Source

/-- From one source to the next, the values in between were written first and are counted. -/
structure Takes (source : Source) (values : List Int) (next : Source) : Prop where
  scripted : next.isScripted = true
  drawn : next.drawn = source.drawn + values.length
  follows : ∀ count, source.feed.first (values.length + count) = values ++ next.feed.first count

theorem takes_nothing (source : Source) (scripted : source.isScripted = true) :
    source.Takes [] source :=
  ⟨scripted, rfl, fun count => by simp⟩

theorem takes_append (source middle next : Source) (values later : List Int)
    (first : source.Takes values middle) (second : middle.Takes later next) :
    source.Takes (values ++ later) next := by
  refine ⟨second.scripted, ?_, fun count => ?_⟩
  · rw [second.drawn, first.drawn, List.length_append, Nat.add_assoc]
  · rw [List.length_append, Nat.add_assoc, first.follows, second.follows, List.append_assoc]

theorem draw_all_takes (sizes : List Nat) (source next : Source) (values : List Int)
    (scripted : source.isScripted = true)
    (drawn : source.drawAll sizes = (some values, next)) : source.Takes values next := by
  induction sizes generalizing source values with
  | nil =>
      obtain ⟨rfl, rfl⟩ : [] = values ∧ source = next := by simpa [drawAll] using drawn
      exact source.takes_nothing scripted
  | cons size sizes ih =>
      cases answered : source.feed.draw size with
      | mk answer feed =>
          cases answer with
          | none => simp [drawAll, draw, answered] at drawn
          | some value =>
              simp only [drawAll, draw, answered, Prod.mk.injEq,
                Option.map_eq_some_iff] at drawn
              obtain ⟨⟨later, found, rfl⟩, last⟩ := drawn
              have opens := fun count =>
                Feed.first_draw source.feed feed size count value scripted answered
              obtain ⟨kept, counted, follows⟩ :=
                ih { source with feed := feed, asked := size :: source.asked } later
                  (opens 0).1 (Prod.ext found last)
              refine ⟨kept, ?_, fun more => ?_⟩
              · rw [counted, Source.drawn, Source.drawn, List.length_cons, List.length_cons]
                omega
              · rw [List.length_cons, Nat.add_right_comm, (opens _).2, follows, List.cons_append]

theorem draw_all_dry (sizes : List Nat) (source next : Source)
    (scripted : source.isScripted = true) (dry : source.drawAll sizes = (none, next)) :
    next.feed.Dry := by
  induction sizes generalizing source with
  | nil => simp [drawAll] at dry
  | cons size sizes ih =>
      cases answered : source.feed.draw size with
      | mk answer feed =>
          cases answer with
          | none =>
              simp only [drawAll, draw, answered, Prod.mk.injEq, true_and] at dry
              rw [← dry]
              exact Feed.dry_of_draw source.feed feed size scripted answered
          | some value =>
              simp only [drawAll, draw, answered, Prod.mk.injEq, Option.map_eq_none_iff] at dry
              have kept := (Feed.first_draw source.feed feed size 0 value scripted answered).1
              exact ih { source with feed := feed, asked := size :: source.asked } kept
                (Prod.ext dry.1 dry.2)

theorem draw_all_of_dry (sizes : List Nat) (source : Source) (dry : source.feed.Dry) :
    (source.drawAll sizes).2.feed.Dry ∧
      ((source.drawAll sizes).2.drawn ≠ source.drawn → (source.drawAll sizes).1 = none) := by
  cases sizes with
  | nil => exact ⟨dry, fun asked => absurd rfl asked⟩
  | cons size sizes =>
      have nothing := dry.2 size
      simp only [drawAll, draw, nothing]
      exact ⟨dry, fun _ => trivial⟩

end Source

end DiceRoller
