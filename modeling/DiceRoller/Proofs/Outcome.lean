import Mathlib.Data.List.Forall2

/-!
Computations that may be refused. A chain answers what its last step answers, and it is
refused by its first step that is refused. A list of items read from left to right answers
one value for each item, or it is refused by the leftmost item that is refused.
-/

namespace DiceRoller.Outcome
variable {Reason A B : Type}

theorem bind_ok_iff (first : Except Reason A) (next : A → Except Reason B) (value : B) :
    (first >>= next) = .ok value ↔ ∃ middle, first = .ok middle ∧ next middle = .ok value := by
  cases first with
  | error reason => simp [bind, Except.bind]
  | ok middle => simp [bind, Except.bind]

theorem bind_error_iff (first : Except Reason A) (next : A → Except Reason B) (reason : Reason) :
    (first >>= next) = .error reason ↔
      first = .error reason ∨ ∃ middle, first = .ok middle ∧ next middle = .error reason := by
  cases first with
  | error found => simp [bind, Except.bind]
  | ok middle => simp [bind, Except.bind]

theorem return_ok_iff (given value : A) :
    (pure given : Except Reason A) = .ok value ↔ given = value := by
  simp [pure, Except.pure]

theorem return_not_error (given : A) (reason : Reason) :
    (pure given : Except Reason A) ≠ .error reason := by
  simp [pure, Except.pure]

theorem throw_not_ok (reason : Reason) (value : A) :
    (throw reason : Except Reason A) ≠ .ok value := by
  simp [throw, throwThe, MonadExceptOf.throw]

theorem throw_error_iff (given reason : Reason) :
    (throw given : Except Reason A) = .error reason ↔ given = reason := by
  simp [throw, throwThe, MonadExceptOf.throw]

theorem exists_item_of_mem (related : A → B → Prop) (items : List A) (values : List B)
    (all : List.Forall₂ related items values) :
    ∀ value ∈ values, ∃ item ∈ items, related item value := by
  induction all with
  | nil => simp
  | @cons item value items values here _ ih =>
      intro found member
      rcases List.mem_cons.mp member with rfl | later
      · exact ⟨item, List.mem_cons_self, here⟩
      · obtain ⟨origin, inside, relates⟩ := ih found later
        exact ⟨origin, List.mem_cons_of_mem item inside, relates⟩

theorem mapM_ok_iff (read : A → Except Reason B) (items : List A) (values : List B) :
    items.mapM read = .ok values ↔
      List.Forall₂ (fun item value => read item = .ok value) items values := by
  induction items generalizing values with
  | nil =>
      rw [List.mapM_nil, return_ok_iff]
      cases values <;> simp
  | cons item rest ih =>
      rw [List.mapM_cons]
      simp only [bind_ok_iff, return_ok_iff, ih]
      constructor
      · rintro ⟨value, head, later, tail, rfl⟩
        exact .cons head tail
      · intro related
        cases related with
        | cons head tail => exact ⟨_, head, _, tail, rfl⟩

theorem mapM_exchange (read : A → Except Reason B) (before behind : List A) (item other : A)
    (values : List B) (same : ∀ value, read item = .ok value → read other = .ok value)
    (all : (before ++ item :: behind).mapM read = .ok values) :
    (before ++ other :: behind).mapM read = .ok values := by
  induction before generalizing values with
  | nil =>
      rw [List.nil_append, List.mapM_cons, bind_ok_iff] at all ⊢
      obtain ⟨value, here, rest⟩ := all
      exact ⟨value, same value here, rest⟩
  | cons first before ih =>
      rw [List.cons_append, List.mapM_cons] at all ⊢
      simp only [bind_ok_iff, return_ok_iff] at all ⊢
      obtain ⟨value, here, later, rest, rfl⟩ := all
      exact ⟨value, here, later, ih later rest, rfl⟩

theorem mapM_error_iff (read : A → Except Reason B) (items : List A) (reason : Reason) :
    items.mapM read = .error reason ↔
      ∃ before item after, items = before ++ item :: after ∧
        (∀ earlier ∈ before, ∃ value, read earlier = .ok value) ∧ read item = .error reason := by
  induction items with
  | nil => simp [return_not_error]
  | cons item rest ih =>
      rw [List.mapM_cons]
      simp only [bind_error_iff, return_not_error, and_false, exists_false, or_false, ih]
      -- The item in front is refused, or it is accepted and the refused one stands behind it.
      constructor
      · rintro (here | ⟨value, accepted, before, later, after, rfl, earlier, refused⟩)
        · exact ⟨[], item, rest, rfl, by simp, here⟩
        · refine ⟨item :: before, later, after, rfl, ?_, refused⟩
          intro given member
          rcases List.mem_cons.mp member with same | inside
          · exact ⟨value, same ▸ accepted⟩
          · exact earlier given inside
      · rintro ⟨before, later, after, split, earlier, refused⟩
        cases before with
        | nil =>
            obtain ⟨rfl, rfl⟩ := List.cons.inj split
            exact Or.inl refused
        | cons first before =>
            obtain ⟨rfl, rfl⟩ := List.cons.inj split
            obtain ⟨value, accepted⟩ := earlier item List.mem_cons_self
            refine Or.inr ⟨value, accepted, before, later, after, rfl, ?_, refused⟩
            intro given member
            exact earlier given (List.mem_cons_of_mem item member)

end DiceRoller.Outcome
