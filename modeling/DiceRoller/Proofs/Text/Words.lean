import DiceRoller.Text.Blank
import Mathlib.Data.List.Induction

/-!
Words of a text. A blank parts the words on its left from the words on its right, a stretch
without blanks is a word of its own, and the words joined are the text less its blanks.
-/

namespace DiceRoller.Text

@[simp] theorem words_nil : words [] = [] := by
  simp [words]

theorem words_append_blank (left : List Char) (blank : Char) (right : List Char)
    (parts : isBlank blank = true) :
    words (left ++ blank :: right) = words left ++ words right := by
  unfold words
  rw [List.splitOnP_append_cons left right parts, List.filter_append]

theorem words_cons_blank (blank : Char) (text : List Char) (parts : isBlank blank = true) :
    words (blank :: text) = words text := by
  simpa using words_append_blank [] blank text parts

theorem words_blanks_append (blanks text : List Char) (parts : ∀ c ∈ blanks, isBlank c = true) :
    words (blanks ++ text) = words text := by
  induction blanks with
  | nil => rfl
  | cons blank rest ih =>
      obtain ⟨here, later⟩ := List.forall_mem_cons.mp parts
      rw [List.cons_append, words_cons_blank blank _ here, ih later]

theorem words_append_blanks (left blanks right : List Char) (nonempty : blanks ≠ [])
    (parts : ∀ c ∈ blanks, isBlank c = true) :
    words (left ++ (blanks ++ right)) = words left ++ words right := by
  cases blanks with
  | nil => exact absurd rfl nonempty
  | cons blank rest =>
      obtain ⟨here, later⟩ := List.forall_mem_cons.mp parts
      rw [List.cons_append, words_append_blank left blank _ here,
        words_blanks_append rest right later]

/-- Words end where a text ends in a blank, and where the text behind it opens with one. -/
theorem words_append_of_ends (left right : List Char)
    (ends : ∀ c ∈ left.getLast?, isBlank c = true) :
    words (left ++ right) = words left ++ words right := by
  rcases List.eq_nil_or_concat left with rfl | ⟨front, c, rfl⟩
  · simp
  · have parts : isBlank c = true := ends c (by simp)
    rw [List.concat_eq_append, List.append_assoc, words_append_blank front c [] parts,
      List.singleton_append, words_append_blank front c right parts, words_nil, List.append_nil]

theorem words_append_of_opens (left right : List Char)
    (opens : ∀ c ∈ right.head?, isBlank c = true) :
    words (left ++ right) = words left ++ words right := by
  cases right with
  | nil => simp
  | cons c rest =>
      have parts : isBlank c = true := opens c rfl
      rw [words_append_blank left c rest parts, words_cons_blank c rest parts]

theorem words_between (left middle right : List Char)
    (ends : ∀ c ∈ left.getLast?, isBlank c = true)
    (opens : ∀ c ∈ right.head?, isBlank c = true) :
    words (left ++ (middle ++ right)) = words left ++ (words middle ++ words right) := by
  rw [words_append_of_ends left _ ends, words_append_of_opens middle right opens]

theorem exists_last_word (text : List Char) :
    ∃ front word, text = front ++ word ∧ (∀ c ∈ front.getLast?, isBlank c = true) ∧
      ∀ c ∈ word, isBlank c = false := by
  induction text using List.reverseRecOn with
  | nil => exact ⟨[], [], rfl, by simp, by simp⟩
  | append_singleton text c ih =>
      by_cases blank : isBlank c = true
      · exact ⟨text ++ [c], [], by simp, by simpa using blank, by simp⟩
      · obtain ⟨front, word, rfl, ends, solid⟩ := ih
        refine ⟨front, word ++ [c], by simp, ends, ?_⟩
        rw [List.forall_mem_append, List.forall_mem_singleton]
        exact ⟨solid, Bool.eq_false_iff.mpr blank⟩

theorem exists_first_word (text : List Char) :
    ∃ word rest, text = word ++ rest ∧ (∀ c ∈ word, isBlank c = false) ∧
      ∀ c ∈ rest.head?, isBlank c = true := by
  induction text with
  | nil => exact ⟨[], [], rfl, by simp, by simp⟩
  | cons c text ih =>
      by_cases blank : isBlank c = true
      · exact ⟨[], c :: text, rfl, by simp, by simpa using blank⟩
      · obtain ⟨word, rest, rfl, solid, opens⟩ := ih
        refine ⟨c :: word, rest, rfl, ?_, opens⟩
        exact List.forall_mem_cons.mpr ⟨Bool.eq_false_iff.mpr blank, solid⟩

theorem words_single (word : List Char) (nonempty : word ≠ [])
    (solid : ∀ c ∈ word, isBlank c = false) : words word = [word] := by
  unfold words
  rw [List.splitOnP_eq_singleton solid]
  simp [nonempty]

theorem words_intercalate (blank : Char) (pieces : List (List Char))
    (parts : isBlank blank = true) :
    words ([blank].intercalate pieces) = pieces.flatMap words := by
  induction pieces with
  | nil => exact words_nil
  | cons piece rest ih =>
      cases rest with
      | nil => simp
      | cons next later =>
          rw [List.intercalate_cons_cons, List.append_assoc, List.singleton_append,
            words_append_blank piece blank _ parts, ih]
          rfl

theorem forall_intercalate (property : Char → Prop) (gap : List Char) (pieces : List (List Char))
    (here : ∀ c ∈ gap, property c) (inside : ∀ piece ∈ pieces, ∀ c ∈ piece, property c) :
    ∀ c ∈ gap.intercalate pieces, property c := by
  induction pieces with
  | nil => simp
  | cons piece rest ih =>
      obtain ⟨first, later⟩ := List.forall_mem_cons.mp inside
      cases rest with
      | nil => simpa using first
      | cons next more =>
          rw [List.intercalate_cons_cons, List.forall_mem_append, List.forall_mem_append]
          exact ⟨⟨first, here⟩, ih later⟩

theorem words_blank (text : List Char) (empty : ∀ c ∈ text, isBlank c = true) :
    words text = [] := by
  rw [← List.append_nil text, words_blanks_append text [] empty, words_nil]

theorem filter_solid (text : List Char) (solid : ∀ c ∈ text, isBlank c = false) :
    (text.filter fun c => !isBlank c) = text := by
  rw [List.filter_eq_self]
  exact fun c member => by simp [solid c member]

theorem words_flatten (text : List Char) :
    (words text).flatten = text.filter fun c => !isBlank c := by
  unfold words
  induction text with
  | nil => simp
  | cons c rest ih =>
      rw [List.splitOnP_cons_eq_if_modifyHead]
      by_cases parts : isBlank c = true
      · simpa [parts] using ih
      · -- The character joins the piece that the rest opens with.
        obtain ⟨first, later, split⟩ :=
          List.exists_cons_of_ne_nil (List.splitOnP_ne_nil isBlank rest)
        rw [split] at ih ⊢
        cases first with
        | nil => simpa [parts] using ih
        | cons d tail => simpa [parts] using ih

end DiceRoller.Text
