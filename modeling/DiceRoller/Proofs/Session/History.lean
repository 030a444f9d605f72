import DiceRoller.Proofs.Session.Dice

/-!
What was done last. Some steps of a session do something that gives a value, such as a load that
gives settings, and whether a step does depends on the state that it meets. If every state shows the
value that was done last so far, and one step keeps that up, then a whole session does.
-/

namespace DiceRoller.Session

theorem after_append (state : State) (before behind : List Step) :
    after (before ++ behind) state = after behind (after before state) :=
  List.foldl_append

section History
variable {Value : Type} (Does : State → Step → Value → Prop)

def DoneAt (start : State) (steps : List Step) (place : Nat) (value : Value) : Prop :=
  ∃ step, steps[place]? = some step ∧ Does (after (steps.take place) start) step value

/-- Nothing was done in a session, or what was done last gave this value. -/
def LastDone (start : State) (steps : List Step) : Option Value → Prop
  | none => ∀ place value, ¬ DoneAt Does start steps place value
  | some value => ∃ place, DoneAt Does start steps place value ∧
      ∀ later other, place < later → ¬ DoneAt Does start steps later other

/-- One step keeps up that states show the value that was done last. -/
structure Tracks (Shows : State → Option Value → Prop) : Prop where
  done : ∀ state step last value, Shows state last → Does state step value →
    Shows (perform step state).state (some value)
  kept : ∀ state step last, Shows state last → (∀ value, ¬ Does state step value) →
    Shows (perform step state).state last

variable (start : State) (steps : List Step) (step : Step)

theorem done_at_append (place : Nat) (value : Value) :
    DoneAt Does start (steps ++ [step]) place value ↔
      DoneAt Does start steps place value ∨
        place = steps.length ∧ Does (after steps start) step value := by
  unfold DoneAt
  -- The place is one of the earlier steps, the new step, or beyond the session.
  rcases Nat.lt_trichotomy place steps.length with earlier | rfl | beyond
  · rw [List.getElem?_append_left earlier, List.take_append_of_le_length earlier.le]
    simp [earlier.ne]
  · simp
  · have nothing : (steps ++ [step])[place]? = none := by
      rw [List.getElem?_eq_none_iff, List.length_append, List.length_singleton]
      omega
    simp [nothing, List.getElem?_eq_none beyond.le, beyond.ne']

theorem done_at_lt (place : Nat) (value : Value) (done : DoneAt Does start steps place value) :
    place < steps.length := by
  obtain ⟨step, found, -⟩ := done
  exact (List.getElem?_eq_some_iff.mp found).1

theorem last_done_kept (last : Option Value) (before : LastDone Does start steps last)
    (nothing : ∀ value, ¬ Does (after steps start) step value) :
    LastDone Does start (steps ++ [step]) last := by
  have same : ∀ place value, DoneAt Does start (steps ++ [step]) place value ↔
      DoneAt Does start steps place value := by
    intro place value
    rw [done_at_append]
    exact or_iff_left fun here => nothing value here.2
  cases last with
  | none => exact fun place value done => before place value ((same place value).mp done)
  | some value =>
      obtain ⟨place, done, final⟩ := before
      refine ⟨place, (same place value).mpr done, fun later other behind doneLater => ?_⟩
      exact final later other behind ((same later other).mp doneLater)

theorem last_done_here (value : Value) (does : Does (after steps start) step value) :
    LastDone Does start (steps ++ [step]) (some value) := by
  refine ⟨steps.length, (done_at_append ..).mpr (Or.inr ⟨rfl, does⟩), ?_⟩
  intro later other behind done
  have inside := done_at_lt Does start _ later other done
  rw [List.length_append, List.length_singleton] at inside
  omega

/-- Whatever came before it and behind it, a session shows what was done last. -/
theorem after_last_done {Shows : State → Option Value → Prop} (tracks : Tracks Does Shows)
    (fresh : Shows start none) :
    ∃ last, LastDone Does start steps last ∧ Shows (after steps start) last := by
  induction steps using List.reverseRecOn with
  | nil =>
      refine ⟨none, fun place value done => ?_, fresh⟩
      exact absurd (done_at_lt Does start [] place value done) (Nat.not_lt_zero place)
  | append_singleton steps step ih =>
      obtain ⟨last, before, shown⟩ := ih
      have next : after (steps ++ [step]) start =
          (perform step (after steps start)).state :=
        after_append start steps [step]
      rw [next]
      by_cases does : ∃ value, Does (after steps start) step value
      · obtain ⟨value, does⟩ := does
        exact ⟨some value, last_done_here Does start steps step value does,
          tracks.done _ step last value shown does⟩
      · have nothing := not_exists.mp does
        exact ⟨last, last_done_kept Does start steps step last before nothing,
          tracks.kept _ step last shown nothing⟩

end History

end DiceRoller.Session
