import DiceRoller.Proofs.Concatenation

/-!
Notations by their words. The words before the tail show no letter that only mode words have, so
wherever the words of a notation are cut in two or put together, each of them stays on its side of
the tail. What is read depends on the characters before the tail and on the modes that the tail
names.
-/

namespace DiceRoller

/-- The words of a notation: what they join to before the tail, and the tail. -/
structure Spoken (words : List (List Char)) (joined : List Char) (tail : List (List Char)) :
    Prop where
  split : ∃ body, words = body ++ tail ∧ body.flatten = joined
  notational : ∀ c ∈ joined, isNotational c = true
  modes : ∀ word ∈ tail, ∃ mode : Mode, word ∈ mode.words

namespace Spoken

theorem word_cases (before behind : List (List Char)) (word joined : List Char)
    (tail : List (List Char)) (spoken : Spoken (before ++ word :: behind) joined tail) :
    (∃ body, behind = body ++ tail ∧ joined = before.flatten ++ (word ++ body.flatten)) ∨
      ∃ body earlier, before = body ++ earlier ∧ tail = earlier ++ word :: behind ∧
        body.flatten = joined := by
  obtain ⟨body, whole, rfl⟩ := spoken.split
  rcases List.append_eq_append_iff.mp whole with ⟨more, rfl, rest⟩ | ⟨earlier, rfl, rest⟩
  · cases more with
    | nil => exact Or.inr ⟨before, [], by simp, rest.symm, by simp⟩
    | cons first more =>
        obtain ⟨rfl, rfl⟩ := List.cons.inj rest
        exact Or.inl ⟨more, rfl, by simp⟩
  · exact Or.inr ⟨body, earlier, rfl, rest, rfl⟩

theorem not_mode_word (word : List Char) (notational : ∀ c ∈ word, isNotational c = true)
    (mode : Mode) : word ∉ mode.words := by
  intro named
  obtain ⟨c, inside, other⟩ := mode.word_not_notational word named
  rw [notational c inside] at other
  exact Bool.noConfusion other

theorem of_mode_word (before behind : List (List Char)) (word joined : List Char)
    (tail : List (List Char)) (spoken : Spoken (before ++ word :: behind) joined tail)
    (mode : Mode) (named : word ∈ mode.words) :
    ∃ body earlier, before = body ++ earlier ∧ tail = earlier ++ word :: behind ∧
      body.flatten = joined := by
  rcases word_cases before behind word joined tail spoken with ⟨body, -, rfl⟩ | there
  · have shown : ∀ c ∈ word, isNotational c = true := fun c member =>
      spoken.notational c (by simp [member])
    exact absurd named (not_mode_word word shown mode)
  · exact there

theorem of_marked_word (before behind : List (List Char)) (word joined : List Char)
    (tail : List (List Char)) (spoken : Spoken (before ++ word :: behind) joined tail)
    (marked : ∃ c ∈ word, c.isDigit = true ∨ Run.isSign c = true) :
    ∃ body, behind = body ++ tail ∧ joined = before.flatten ++ (word ++ body.flatten) := by
  rcases word_cases before behind word joined tail spoken with here | ⟨-, earlier, -, rfl, -⟩
  · exact here
  · obtain ⟨mode, named⟩ := spoken.modes word (by simp)
    obtain ⟨c, inside, plain⟩ := marked
    obtain ⟨noDigit, noSign⟩ := mode.words_letters word named c inside
    rw [noDigit, noSign] at plain
    exact plain.elim Bool.noConfusion Bool.noConfusion

theorem cut_word (before behind : List (List Char)) (left right joined : List Char)
    (tail : List (List Char)) (spoken : Spoken (before ++ (left ++ right) :: behind) joined tail)
    (free : ¬ ((∃ mode : Mode, left ++ right ∈ mode.words) ∧
      ∀ word ∈ behind, ∃ mode : Mode, word ∈ mode.words)) :
    Spoken (before ++ left :: right :: behind) joined tail := by
  rcases word_cases before behind _ joined tail spoken with
    ⟨body, rfl, whole⟩ | ⟨-, earlier, -, rfl, -⟩
  · refine ⟨⟨before ++ left :: right :: body, by simp, ?_⟩, spoken.notational, spoken.modes⟩
    simp [whole]
  · refine absurd ⟨spoken.modes _ (by simp), fun word member => ?_⟩ free
    exact spoken.modes word (by simp [member])

theorem join_words (before behind : List (List Char)) (left right joined : List Char)
    (tail : List (List Char)) (spoken : Spoken (before ++ left :: right :: behind) joined tail)
    (free : ¬ ((∃ mode : Mode, right ∈ mode.words) ∧
      ∀ word ∈ behind, ∃ mode : Mode, word ∈ mode.words)) :
    Spoken (before ++ (left ++ right) :: behind) joined tail := by
  have cut : before ++ left :: right :: behind = (before ++ [left]) ++ right :: behind := by simp
  rw [cut] at spoken
  rcases word_cases (before ++ [left]) behind right joined tail spoken with
    ⟨body, rfl, whole⟩ | ⟨-, earlier, -, rfl, -⟩
  · refine ⟨⟨before ++ (left ++ right) :: body, by simp, ?_⟩, spoken.notational, spoken.modes⟩
    simp [whole]
  · refine absurd ⟨spoken.modes right (by simp), fun word member => ?_⟩ free
    exact spoken.modes word (by simp [member])

theorem of_mode_words (before behind : List (List Char)) (joined : List Char)
    (tail : List (List Char)) (spoken : Spoken (before ++ behind) joined tail)
    (modes : ∀ word ∈ behind, ∃ mode : Mode, word ∈ mode.words) :
    ∃ earlier, tail = earlier ++ behind := by
  cases behind with
  | nil => exact ⟨tail, by simp⟩
  | cons word behind =>
      obtain ⟨mode, named⟩ := modes word List.mem_cons_self
      obtain ⟨-, earlier, -, rfl, -⟩ :=
        of_mode_word before behind word joined tail spoken mode named
      exact ⟨earlier, rfl⟩

theorem reworded (before behind others : List (List Char)) (word joined : List Char)
    (tail : List (List Char)) (spoken : Spoken (before ++ word :: behind) joined tail)
    (mode : Mode) (named : word ∈ mode.words) (filled : others ≠ [])
    (all : ∀ other ∈ others, other ∈ mode.words) :
    ∃ changed, Spoken (before ++ (others ++ behind)) joined changed ∧
      ∀ found : Mode, found.NamedIn changed ↔ found.NamedIn tail := by
  obtain ⟨body, earlier, rfl, rfl, rfl⟩ :=
    of_mode_word before behind word joined tail spoken mode named
  refine ⟨earlier ++ (others ++ behind), ⟨⟨body, by simp, rfl⟩, spoken.notational, ?_⟩, ?_⟩
  · have modes := spoken.modes
    simp only [List.forall_mem_append, List.forall_mem_cons] at modes ⊢
    exact ⟨modes.1, fun other member => ⟨mode, all other member⟩, modes.2.2⟩
  · intro found
    -- The words that changed name their mode before and after, and no other one.
    have here : (∃ other ∈ others, other ∈ found.words) ↔ word ∈ found.words := by
      have only : ∀ other ∈ mode.words, other ∈ found.words ↔ found = mode := by
        intro other member
        rw [← Mode.of_word_iff] at member ⊢
        rw [member, Option.some.injEq, eq_comm]
      rw [only word named]
      constructor
      · rintro ⟨other, member, spelled⟩
        exact (only other (all other member)).mp spelled
      · rintro rfl
        obtain ⟨other, member⟩ := List.exists_mem_of_ne_nil others filled
        exact ⟨other, member, all other member⟩
    simp only [Mode.NamedIn, List.mem_append, List.mem_cons, or_and_right, exists_or,
      exists_eq_left, here]

/-- A plus at the front joins the first word, or it is a word of its own. -/
theorem words_behind_plus (text : List Char) :
    ∃ first later, Text.words text = first ++ later ∧
      Text.words ('+' :: text) = ('+' :: first.flatten) :: later ∧ first.length ≤ 1 := by
  obtain ⟨word, rest, rfl, solid, opens⟩ := Text.exists_first_word text
  have plus : Text.words ('+' :: (word ++ rest)) = ('+' :: word) :: Text.words rest := by
    have visible : ∀ c ∈ '+' :: word, Text.isBlank c = false :=
      List.forall_mem_cons.mpr ⟨rfl, solid⟩
    rw [← List.cons_append, Text.words_append_of_opens _ rest opens,
      Text.words_single _ (List.cons_ne_nil '+' word) visible]
    rfl
  rw [plus, Text.words_append_of_opens word rest opens]
  by_cases empty : word = []
  · subst empty
    exact ⟨[], Text.words rest, by simp, rfl, Nat.zero_le 1⟩
  · rw [Text.words_single word empty solid]
    exact ⟨[word], Text.words rest, rfl, by simp, Nat.le_refl 1⟩

theorem plus_omitted (text signed : List Char) (tail : List (List Char))
    (spoken : Spoken (Text.words ('+' :: text)) signed tail) :
    ∃ joined, signed = '+' :: joined ∧ Spoken (Text.words text) joined tail := by
  obtain ⟨first, later, words, wordsPlus, -⟩ := words_behind_plus text
  rw [wordsPlus] at spoken
  obtain ⟨body, rfl, rfl⟩ := of_marked_word [] later _ signed tail spoken
    ⟨'+', List.mem_cons_self, Or.inr rfl⟩
  refine ⟨first.flatten ++ body.flatten, rfl, ?_⟩
  rw [words]
  exact ⟨⟨first ++ body, by simp, by simp⟩,
    fun c member => spoken.notational c (List.mem_cons_of_mem '+' member), spoken.modes⟩

theorem plus_written (text joined : List Char) (tail : List (List Char))
    (spoken : Spoken (Text.words text) joined tail) (filled : joined ≠ []) :
    Spoken (Text.words ('+' :: text)) ('+' :: joined) tail := by
  obtain ⟨first, later, words, wordsPlus, single⟩ := words_behind_plus text
  rw [words] at spoken
  rw [wordsPlus]
  have notational : ∀ c ∈ '+' :: joined, isNotational c = true :=
    List.forall_mem_cons.mpr ⟨rfl, spoken.notational⟩
  obtain ⟨body, whole, rfl⟩ := spoken.split
  -- There is a word before the tail, so the word that the plus joins stands there too.
  have inside : ∃ more, body = first ++ more := by
    match first, single with
    | [], _ => exact ⟨body, rfl⟩
    | [word], _ =>
        cases body with
        | nil => exact absurd rfl filled
        | cons other body =>
            rw [(List.cons.inj whole).1]
            exact ⟨body, rfl⟩
  obtain ⟨more, rfl⟩ := inside
  rw [List.append_assoc, List.append_cancel_left_eq] at whole
  exact ⟨⟨('+' :: first.flatten) :: more, by simp [whole], by simp⟩, notational, spoken.modes⟩

theorem no_sigma (text joined : List Char) (tail : List (List Char))
    (spoken : Spoken (Text.words (Text.lower text)) joined tail) : Text.NoSigma text := by
  obtain ⟨body, whole, rfl⟩ := spoken.split
  intro c member
  by_cases blank : Text.isBlank c = true
  · exact not_small_sigma c (by simp [isNotational, blank])
  · have shown : c ∈ (Text.words (Text.lower text)).flatten := by
      rw [Text.words_flatten]
      exact List.mem_filter.mpr ⟨member, by simpa using blank⟩
    rw [whole, List.flatten_append] at shown
    rcases List.mem_append.mp shown with inBody | inTail
    · exact not_small_sigma c (spoken.notational c inBody)
    · obtain ⟨word, inside, found⟩ := List.mem_flatten.mp inTail
      obtain ⟨mode, named⟩ := spoken.modes word inside
      exact ((mode.word_visible word named).2 c found).2

end Spoken

/-- The last character is a digit or a sign, which no mode word has. -/
def EndsMarked (text : List Char) : Prop :=
  ∃ c ∈ text.getLast?, c.isDigit = true ∨ Run.isSign c = true

theorem EndsMarked.append (front text : List Char) (marked : EndsMarked text) :
    EndsMarked (front ++ text) := by
  obtain ⟨c, last, known⟩ := marked
  refine ⟨c, ?_, known⟩
  rw [List.getLast?_append, last]
  rfl

theorem visible_of_marked (c : Char) (marked : c.isDigit = true ∨ Run.isSign c = true) :
    Text.isBlank c = false := by
  rcases marked with digit | sign
  · exact (Item.digit_or_letter c (Or.inl digit)).2.1
  · rcases (Run.is_sign_iff c).mp sign with rfl | rfl <;> rfl

/-- The last word of a marked text grows by what stands behind the text, up to the next blank. -/
theorem words_behind_mark (text : List Char) (marked : EndsMarked text) :
    ∃ before word, (∃ c ∈ word, c.isDigit = true ∨ Run.isSign c = true) ∧
      before.flatten ++ word = text.filter (fun c => !Text.isBlank c) ∧
      ∀ more rest, (∀ c ∈ more, Text.isBlank c = false) →
        (∀ c ∈ rest.head?, Text.isBlank c = true) →
        Text.words (text ++ (more ++ rest)) = before ++ (word ++ more) :: Text.words rest := by
  obtain ⟨front, word, rfl, ends, solid⟩ := Text.exists_last_word text
  obtain ⟨c, last, mark⟩ := marked
  have filled : word ≠ [] := by
    rintro rfl
    rw [List.append_nil] at last
    have visible := visible_of_marked c mark
    rw [ends c last] at visible
    exact Bool.noConfusion visible
  rw [List.getLast?_append_of_ne_nil _ filled] at last
  refine ⟨Text.words front, word, ⟨c, List.mem_of_getLast? last, mark⟩, ?_, ?_⟩
  · rw [Text.words_flatten, List.filter_append, Text.filter_solid word solid]
  · intro more rest solidMore opens
    have whole : front ++ word ++ (more ++ rest) = front ++ ((word ++ more) ++ rest) := by simp
    have single := Text.words_single (word ++ more) (by simp [filled])
      (List.forall_mem_append.mpr ⟨solid, solidMore⟩)
    rw [whole, Text.words_append_of_ends front _ ends, Text.words_append_of_opens _ rest opens,
      single]
    rfl

theorem Spoken.behind_mark (text back joined : List Char) (tail : List (List Char))
    (marked : EndsMarked text) (spoken : Spoken (Text.words (text ++ back)) joined tail) :
    ∃ rest, joined = text.filter (fun c => !Text.isBlank c) ++ rest ∧
      rest ++ tail.flatten = back.filter (fun c => !Text.isBlank c) ∧
      ∀ other, EndsMarked other →
        (∀ c ∈ other.filter (fun c => !Text.isBlank c), isNotational c = true) →
        Spoken (Text.words (other ++ back)) (other.filter (fun c => !Text.isBlank c) ++ rest)
          tail := by
  obtain ⟨more, rest, rfl, solid, opens⟩ := Text.exists_first_word back
  obtain ⟨before, word, mark, shown, words⟩ := words_behind_mark text marked
  rw [words more rest solid opens] at spoken
  have markMore : ∃ c ∈ word ++ more, c.isDigit = true ∨ Run.isSign c = true := by
    obtain ⟨c, inside, known⟩ := mark
    exact ⟨c, List.mem_append_left more inside, known⟩
  obtain ⟨body, behind, rfl⟩ := of_marked_word before _ _ joined tail spoken markMore
  refine ⟨more ++ body.flatten, ?_, ?_, fun other markedOther notational => ?_⟩
  · rw [← shown]
    simp
  · rw [List.filter_append, Text.filter_solid more solid, ← Text.words_flatten rest, behind,
      List.flatten_append, List.append_assoc]
  · obtain ⟨beforeOther, wordOther, -, shownOther, wordsOther⟩ :=
      words_behind_mark other markedOther
    rw [wordsOther more rest solid opens, behind, ← shownOther]
    refine ⟨⟨beforeOther ++ (wordOther ++ more) :: body, by simp, by simp⟩, ?_, spoken.modes⟩
    rw [shownOther, List.forall_mem_append]
    exact ⟨notational, fun c member => spoken.notational c (by
      simp only [List.mem_append] at member ⊢
      tauto)⟩

def Spelt (text : List Char) (expression : Expression) : Prop :=
  ∃ joined tail, Spoken (Text.words (Text.lower text)) joined tail ∧
    Reader.terms .unlimited joined = .ok expression.terms ∧
    ∀ mode, expression.mode = some mode ↔ mode.NamedIn tail

theorem Expression.read_spelt_iff (text : String) (expression : Expression) :
    Expression.read .unlimited text = .ok expression ↔ Spelt text.toList expression := by
  constructor
  · intro read
    have cut := Phrase.of_words_cut (Text.words (Text.lower text.toList))
    obtain ⟨-, named, found⟩ := (read_ok_iff .unlimited text _ _ cut expression).mp read
    obtain ⟨items, sentence, -⟩ := (Reader.terms_unlimited_iff _ _).mp found
    refine ⟨_, _, ⟨⟨_, cut.joined.symm, rfl⟩, fun c member => ?_, cut.modes⟩, found, named⟩
    have shown := sentence_chars _ items sentence c member
    simpa [isNotational, or_assoc] using Or.inr shown
  · rintro ⟨joined, tail, spoken, found, named⟩
    obtain ⟨body, whole, rfl⟩ := spoken.split
    have plain : ∀ word ∈ body, ∀ mode : Mode, word ∉ mode.words := fun word member =>
      Spoken.not_mode_word word fun c inside =>
        spoken.notational c (List.mem_flatten_of_mem member inside)
    have cut := TailCut.of_plain_body body tail plain spoken.modes
    rw [← whole] at cut
    refine (read_ok_iff .unlimited text body tail cut expression).mpr ⟨?_, named, found⟩
    rintro ⟨better, worse⟩
    rw [← named] at better worse
    exact absurd (better.symm.trans worse) (by simp)

end DiceRoller
