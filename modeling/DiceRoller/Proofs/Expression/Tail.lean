import DiceRoller.Expression.Phrase
import DiceRoller.Expression.Run

/-!
The tail of a notation is its longest ending in which every word is a mode word. The words
before it and the tail are determined by the words alone, and a phrase records the modes of the
tail. Unless they conflict, all of them are the first one.
-/

namespace DiceRoller

structure TailCut (words body tail : List (List Char)) : Prop where
  joined : body ++ tail = words
  modes : ∀ word ∈ tail, ∃ mode : Mode, word ∈ mode.words
  longest : ∀ ending, ending <:+ words → (∀ word ∈ ending, ∃ mode : Mode, word ∈ mode.words) →
    ending.length ≤ tail.length

theorem Mode.words_letters (mode : Mode) : ∀ word ∈ mode.words, ∀ c ∈ word,
    c.isDigit = false ∧ Run.isSign c = false := by
  have all : mode.words.all (fun word => word.all fun c => !c.isDigit && !Run.isSign c) = true := by
    cases mode <;> decide
  intro word member c inside
  simpa using List.all_eq_true.mp (List.all_eq_true.mp all word member) c inside

def Mode.NamedIn (mode : Mode) (tail : List (List Char)) : Prop :=
  ∃ word ∈ tail, word ∈ mode.words

theorem TailCut.of_plain_body (body tail : List (List Char))
    (plain : ∀ word ∈ body, ∀ mode : Mode, word ∉ mode.words)
    (modes : ∀ word ∈ tail, ∃ mode : Mode, word ∈ mode.words) :
    TailCut (body ++ tail) body tail where
  joined := rfl
  modes := modes
  longest ending inside all := by
    -- An ending beyond the tail would hold a word of the body.
    rcases List.suffix_or_suffix_of_suffix inside (List.suffix_append body tail) with
      shorter | longer
    · exact shorter.length_le
    · obtain ⟨extra, rfl⟩ := longer
      obtain ⟨before, whole⟩ := inside
      rw [← List.append_assoc, List.append_left_inj] at whole
      subst whole
      cases extra with
      | nil => exact Nat.le_refl _
      | cons word rest =>
          obtain ⟨mode, named⟩ := all word (by simp)
          exact absurd named (plain word (by simp) mode)

theorem TailCut.of_plain_word (word : List Char) (c : Char) (inside : c ∈ word)
    (plain : c.isDigit = true ∨ Run.isSign c = true) : TailCut [word] [word] [] := by
  refine TailCut.of_plain_body [word] [] (fun other member mode named => ?_) (by simp)
  rw [List.mem_singleton.mp member] at named
  obtain ⟨noDigit, noSign⟩ := mode.words_letters word named c inside
  rw [noDigit, noSign] at plain
  exact plain.elim Bool.noConfusion Bool.noConfusion

theorem Mode.exists_named (tail : List (List Char))
    (agreed : ¬ (advantage.NamedIn tail ∧ disadvantage.NamedIn tail)) :
    ∃ named : Option Mode, ∀ mode, named = some mode ↔ mode.NamedIn tail := by
  by_cases better : advantage.NamedIn tail
  · refine ⟨some advantage, fun mode => ?_⟩
    cases mode with
    | advantage => simp [better]
    | disadvantage => simpa using fun worse => agreed ⟨better, worse⟩
  · by_cases worse : disadvantage.NamedIn tail
    · refine ⟨some disadvantage, fun mode => ?_⟩
      cases mode with
      | advantage => simpa using better
      | disadvantage => simp [worse]
    · refine ⟨none, fun mode => ?_⟩
      cases mode with
      | advantage => simpa using better
      | disadvantage => simpa using worse

theorem Mode.of_word_iff (word : List Char) (mode : Mode) :
    Mode.ofWord? word = some mode ↔ word ∈ mode.words := by
  unfold Mode.ofWord?
  constructor
  · intro found
    simpa using List.find?_some found
  · intro member
    cases mode with
    | advantage =>
        rw [List.find?_cons_of_pos]
        simpa using member
    | disadvantage =>
        have apart : ∀ word ∈ Mode.disadvantage.words, word ∉ Mode.advantage.words := by
          decide
        rw [List.find?_cons_of_neg, List.find?_cons_of_pos]
        · simpa using member
        · simpa using apart word member

namespace Phrase

theorem is_mode_word_iff (word : List Char) :
    isModeWord word = true ↔ ∃ mode : Mode, word ∈ mode.words := by
  rw [isModeWord, Option.isSome_iff_exists]
  exact exists_congr fun mode => Mode.of_word_iff word mode

theorem of_words_cut (words : List (List Char)) :
    TailCut words (ofWords words).body (words.reverse.takeWhile isModeWord).reverse where
  joined := by
    rw [ofWords, ← List.reverse_append, List.takeWhile_append_dropWhile, List.reverse_reverse]
  modes word member :=
    (is_mode_word_iff word).mp
      (List.all_eq_true.mp List.all_takeWhile word (List.mem_reverse.mp member))
  longest ending := by
    rintro ⟨before, rfl⟩ modes
    have all : ∀ word ∈ ending.reverse, isModeWord word = true := fun word member =>
      (is_mode_word_iff word).mpr (modes word (List.mem_reverse.mp member))
    rw [List.reverse_append, List.takeWhile_append_of_pos all]
    simp

theorem cut_unique (words body tail body' tail' : List (List Char))
    (cut : TailCut words body tail) (cut' : TailCut words body' tail') :
    body = body' ∧ tail = tail' := by
  have short := cut'.longest tail ⟨body, cut.joined⟩ cut.modes
  have long := cut.longest tail' ⟨body', cut'.joined⟩ cut'.modes
  exact List.append_inj' (cut.joined.trans cut'.joined.symm) (Nat.le_antisymm short long)

theorem of_words_eq (words body tail : List (List Char)) (cut : TailCut words body tail) :
    (ofWords words).body = body ∧
      ∀ mode, mode ∈ (ofWords words).modes ↔ mode.NamedIn tail := by
  obtain ⟨rfl, rfl⟩ := cut_unique words _ _ _ _ cut (of_words_cut words)
  refine ⟨rfl, fun mode => ?_⟩
  simp only [Mode.NamedIn, ofWords, List.mem_filterMap, List.mem_reverse, Mode.of_word_iff]

theorem conflicting_iff (phrase : Phrase) :
    phrase.conflicting = true ↔ .advantage ∈ phrase.modes ∧ .disadvantage ∈ phrase.modes := by
  simp [conflicting]

theorem head_mode_iff (phrase : Phrase) (agreed : phrase.conflicting = false) (mode : Mode) :
    phrase.modes.head? = some mode ↔ mode ∈ phrase.modes := by
  have together : ∀ first second : Mode, first ∈ phrase.modes → second ∈ phrase.modes →
      first = second := by
    intro first second here there
    have apart : ¬ (.advantage ∈ phrase.modes ∧ .disadvantage ∈ phrase.modes) := by
      rw [← conflicting_iff, agreed]
      exact Bool.false_ne_true
    cases first <;> cases second
    · rfl
    · exact absurd ⟨here, there⟩ apart
    · exact absurd ⟨there, here⟩ apart
    · rfl
  constructor
  · exact fun first => List.mem_of_mem_head? first
  · intro member
    cases modes : phrase.modes with
    | nil => simp [modes] at member
    | cons first rest =>
        have same := together first mode (by simp [modes]) member
        rw [List.head?_cons, same]

end Phrase

end DiceRoller
