import Mathlib.Data.List.Basic

/-!
Pieces of a text between marks. A mark that does not occur in a piece ends it, so a text falls at
its marks into the same pieces however it was put together.
-/

namespace DiceRoller.Text

theorem cut_unique (mark : Char) (front other back behind : List Char)
    (clear : mark ∉ front) (clearOther : mark ∉ other)
    (same : front ++ mark :: back = other ++ mark :: behind) : front = other ∧ back = behind := by
  induction front generalizing other with
  | nil =>
      cases other with
      | nil => exact ⟨rfl, (List.cons.inj same).2⟩
      | cons c rest =>
          obtain ⟨rfl, -⟩ := List.cons.inj same
          exact absurd List.mem_cons_self clearOther
  | cons c rest ih =>
      cases other with
      | nil =>
          obtain ⟨rfl, -⟩ := List.cons.inj same
          exact absurd List.mem_cons_self clear
      | cons d later =>
          obtain ⟨rfl, tails⟩ := List.cons.inj same
          obtain ⟨rfl, backs⟩ := ih later (List.not_mem_of_not_mem_cons clear)
            (List.not_mem_of_not_mem_cons clearOther) tails
          exact ⟨rfl, backs⟩

theorem last_cut_unique (mark : Char) (front other back behind : List Char)
    (clear : mark ∉ back) (clearOther : mark ∉ behind)
    (same : front ++ mark :: back = other ++ mark :: behind) : front = other ∧ back = behind := by
  have backwards : back.reverse ++ mark :: front.reverse =
      behind.reverse ++ mark :: other.reverse := by
    simpa using congrArg List.reverse same
  obtain ⟨backs, fronts⟩ := cut_unique mark _ _ _ _ (by simpa using clear)
    (by simpa using clearOther) backwards
  exact ⟨List.reverse_injective fronts, List.reverse_injective backs⟩

/-- A piece can be told apart from the mark behind it. -/
structure IsPiece (mark : Char) (piece : List Char) : Prop where
  nonempty : piece ≠ []
  clear : mark ∉ piece

/-- Pieces between separators that open with the mark are found again. -/
theorem pieces_unique (mark : Char) (gap : List Char) (pieces others : List (List Char))
    (all : ∀ piece ∈ pieces, IsPiece mark piece) (allOthers : ∀ piece ∈ others, IsPiece mark piece)
    (same : (mark :: gap).intercalate pieces = (mark :: gap).intercalate others) :
    pieces = others := by
  induction pieces generalizing others with
  | nil =>
      cases others with
      | nil => rfl
      | cons other later =>
          have filled := (allOthers other List.mem_cons_self).nonempty
          cases later <;> simp [filled] at same
  | cons piece rest ih =>
      obtain ⟨here, behind⟩ := List.forall_mem_cons.mp all
      cases others with
      | nil => cases rest <;> simp [here.nonempty] at same
      | cons other later =>
          obtain ⟨hereOther, behindOther⟩ := List.forall_mem_cons.mp allOthers
          cases rest with
          | nil =>
              cases later with
              | nil => simpa using same
              | cons next more =>
                  -- The single piece would hold the mark behind the other one.
                  simp only [List.intercalate_singleton, List.intercalate_cons_cons] at same
                  exact absurd (by simp [same]) here.clear
          | cons next more =>
              cases later with
              | nil =>
                  simp only [List.intercalate_singleton, List.intercalate_cons_cons] at same
                  exact absurd (by simp [← same]) hereOther.clear
              | cons nextOther moreOther =>
                  simp only [List.intercalate_cons_cons, List.append_assoc,
                    List.cons_append] at same
                  obtain ⟨rfl, gaps⟩ := cut_unique mark _ _ _ _ here.clear hereOther.clear same
                  rw [ih _ behind behindOther (List.append_cancel_left gaps)]

end DiceRoller.Text
