import DiceRoller.Proofs.Expression.Printing

/-!
Printing and reading. The words of a printed expression are those of its terms and then its mode,
and the runs of it are the runs of its terms, so reading goes through the terms one by one.
-/

namespace DiceRoller

namespace Term

theorem magnitude_chars (term : Term) : ∀ c ∈ term.magnitude.toList,
    Run.isSign c = false ∧ Text.isBlank c = false ∧ Text.isPlain c = true :=
  fun c member => Item.digit_or_letter c
    (Item.spells_chars _ term.printed term.spells_printed c member)

theorem magnitude_ne_nil (term : Term) : term.magnitude.toList ≠ [] :=
  Item.spells_ne_nil _ term.printed term.spells_printed

theorem leading_toList (term : Term) : term.leading.toList =
    (if term.isNegative then ['-'] else []) ++ term.magnitude.toList := by
  cases term with
  | pool dice => rfl
  | modifier value =>
      by_cases negative : value < 0 <;> simp [leading, isNegative, magnitude, negative]

theorem following_toList (term : Term) :
    term.following.toList = term.signed.sign :: ' ' :: term.magnitude.toList := by
  cases term with
  | pool dice => simp [following, signed, SignedItem.sign, isNegative, magnitude]
  | modifier value =>
      by_cases negative : value < 0 <;>
        simp [following, signed, SignedItem.sign, isNegative, magnitude, negative]

theorem sign_chars (term : Term) :
    Text.isBlank term.signed.sign = false ∧ Text.isPlain term.signed.sign = true := by
  unfold SignedItem.sign
  split <;> decide

theorem leading_chars (term : Term) : ∀ c ∈ term.leading.toList,
    Text.isBlank c = false ∧ Text.isPlain c = true := by
  intro c member
  rw [leading_toList] at member
  rcases List.mem_append.mp member with sign | inside
  · split at sign
    · rw [List.mem_singleton.mp sign]
      decide
    · exact absurd sign List.not_mem_nil
  · exact (term.magnitude_chars c inside).2

theorem leading_words (term : Term) : Text.words term.leading.toList = [term.leading.toList] := by
  apply Text.words_single
  · simp [leading_toList, term.magnitude_ne_nil]
  · exact fun c member => (term.leading_chars c member).1

theorem following_words (term : Term) :
    Text.words term.following.toList = [[term.signed.sign], term.magnitude.toList] := by
  have sign : Text.words [term.signed.sign] = [[term.signed.sign]] := by
    apply Text.words_single _ (List.cons_ne_nil _ _)
    intro c member
    rw [List.mem_singleton.mp member]
    exact term.sign_chars.1
  have behind := Text.words_single term.magnitude.toList term.magnitude_ne_nil
    fun c member => (term.magnitude_chars c member).2.1
  have split := Text.words_append_blank [term.signed.sign] ' ' term.magnitude.toList rfl
  rw [following_toList, ← List.singleton_append, split, sign, behind]
  rfl

def words : List Term → List (List Char)
  | [] => []
  | first :: rest =>
      first.leading.toList :: rest.flatMap fun term => [[term.signed.sign], term.magnitude.toList]

theorem words_of_chunks (terms : List Term) :
    (chunks terms).flatMap (fun chunk => Text.words chunk.toList) = words terms := by
  cases terms with
  | nil => rfl
  | cons first rest =>
      simp only [chunks, words, List.flatMap_cons, List.flatMap_map, leading_words, following_words]
      rfl

theorem words_plain (terms : List Term) : ∀ word ∈ words terms, ∀ mode : Mode,
    word ∉ mode.words := by
  have digit : ∀ term : Term, ∃ c ∈ term.magnitude.toList, c.isDigit = true := fun term =>
    Item.spells_digit _ term.printed term.spells_printed
  have marked : ∀ word ∈ words terms, ∃ c ∈ word, c.isDigit = true ∨ Run.isSign c = true := by
    intro word member
    cases terms with
    | nil => exact absurd member List.not_mem_nil
    | cons first rest =>
        rcases List.mem_cons.mp member with rfl | later
        · obtain ⟨c, inside, found⟩ := digit first
          exact ⟨c, by simp [leading_toList, inside], Or.inl found⟩
        · obtain ⟨term, -, here⟩ := List.mem_flatMap.mp later
          rcases List.mem_pair.mp here with rfl | rfl
          · exact ⟨_, List.mem_singleton_self _, Or.inr term.signed.sign_is_sign⟩
          · obtain ⟨c, inside, found⟩ := digit term
            exact ⟨c, inside, Or.inl found⟩
  intro word member mode named
  obtain ⟨c, inside, found⟩ := marked word member
  obtain ⟨noDigit, noSign⟩ := mode.words_letters word named c inside
  rw [noDigit, noSign] at found
  simp at found

theorem rest_flatten (rest : List Term) :
    (rest.flatMap fun term => [[term.signed.sign], term.magnitude.toList]).flatten =
      (rest.map fun term => term.run.toList).flatten := by
  induction rest with
  | nil => rfl
  | cons term later ih =>
      rw [List.flatMap_cons, List.flatten_append, ih, List.map_cons, List.flatten_cons, run_toList]
      simp

theorem words_split (terms : List Term) (nonempty : terms ≠ []) :
    (words terms).flatten ≠ [] ∧
      Run.split (words terms).flatten = terms.map fun term => term.run.toList := by
  cases terms with
  | nil => exact absurd rfl nonempty
  | cons first rest =>
      have joined : (words (first :: rest)).flatten =
          first.leading.toList ++ (rest.map fun term => term.run.toList).flatten := by
        rw [words, List.flatten_cons, rest_flatten]
      obtain ⟨c, tail, shape⟩ := List.exists_cons_of_ne_nil first.magnitude_ne_nil
      have noSign : Run.isSign c = false := (first.magnitude_chars c (by simp [shape])).1
      rw [joined, leading_toList, Run.split_eq_iff, List.map_cons, List.flatten_cons, run_toList]
      refine ⟨by simp [shape], ?_, ?_⟩
      -- The plus that the printer leaves out in front is the one that the cut puts there.
      · simp only [signed, SignedItem.sign, shape]
        by_cases negative : first.isNegative = true
        · simp [negative, Run.signed, Run.isSign]
        · simp [negative, Run.signed, noSign]
      · intro run member
        rw [← run_toList, ← List.map_cons (f := fun term : Term => term.run.toList)] at member
        obtain ⟨term, -, rfl⟩ := List.mem_map.mp member
        exact SignedItem.spells_is_run _ term.signed term.signed_spells

theorem following_plain (term : Term) : ∀ c ∈ term.following.toList, Text.isPlain c = true := by
  intro c member
  rw [following_toList] at member
  rcases List.mem_cons.mp member with rfl | member
  · exact term.sign_chars.2
  · rcases List.mem_cons.mp member with rfl | inside
    · decide
    · exact (term.magnitude_chars c inside).2.2

theorem chunks_plain (terms : List Term) :
    ∀ chunk ∈ chunks terms, ∀ c ∈ chunk.toList, Text.isPlain c = true := by
  intro chunk member
  cases terms with
  | nil => exact absurd member List.not_mem_nil
  | cons first rest =>
      rcases List.mem_cons.mp member with rfl | later
      · exact fun c member => (first.leading_chars c member).2
      · obtain ⟨term, -, rfl⟩ := List.mem_map.mp later
        exact term.following_plain

end Term

namespace Expression

theorem text_toList (expression : Expression) : expression.text.toList =
    [' '].intercalate ((Term.chunks expression.terms ++
      expression.mode.toList.map Mode.short).map String.toList) :=
  String.toList_intercalate

theorem text_plain (expression : Expression) :
    ∀ c ∈ expression.text.toList, Text.isPlain c = true := by
  rw [text_toList]
  apply Text.forall_intercalate (fun c => Text.isPlain c = true) [' '] _
    (List.forall_mem_singleton.mpr rfl)
  intro piece member
  obtain ⟨chunk, printed, rfl⟩ := List.mem_map.mp member
  rcases List.mem_append.mp printed with ofTerm | ofMode
  · exact Term.chunks_plain expression.terms chunk ofTerm
  · obtain ⟨mode, -, rfl⟩ := List.mem_map.mp ofMode
    exact List.all_eq_true.mp (by cases mode <;> decide)

/-- The tail of a printed expression is its mode. -/
theorem text_cut (expression : Expression) :
    TailCut (Text.words (Text.lower expression.text.toList)) (Term.words expression.terms)
      (expression.mode.toList.map fun mode => mode.short.toList) := by
  have short : ∀ mode : Mode, Text.words mode.short.toList = [mode.short.toList] := by
    intro mode
    cases mode <;> decide
  have split : Text.words (Text.lower expression.text.toList) = Term.words expression.terms ++
      expression.mode.toList.map fun mode => mode.short.toList := by
    rw [Text.lower_plain _ expression.text_plain, text_toList, Text.words_intercalate ' ' _ rfl,
      List.map_append, List.flatMap_append, List.flatMap_map, Term.words_of_chunks]
    simp only [List.map_map, List.flatMap_map, Function.comp_apply, short]
    rw [List.map_eq_flatMap]
  rw [split]
  apply TailCut.of_plain_body _ _ (Term.words_plain expression.terms)
  intro word member
  obtain ⟨mode, -, rfl⟩ := List.mem_map.mp member
  exact ⟨mode, by cases mode <;> decide⟩

theorem text_named_iff (expression : Expression) (mode : Mode) :
    mode.NamedIn (expression.mode.toList.map fun mode => mode.short.toList) ↔
      expression.mode = some mode := by
  have own : ∀ first second : Mode, first.short.toList ∈ second.words ↔ first = second := by
    intro first second
    cases first <;> cases second <;> decide
  simp [Mode.NamedIn, own]

theorem text_agreed (expression : Expression) :
    ¬ (Mode.advantage.NamedIn (expression.mode.toList.map fun mode => mode.short.toList) ∧
      Mode.disadvantage.NamedIn (expression.mode.toList.map fun mode => mode.short.toList)) := by
  rw [text_named_iff, text_named_iff]
  rintro ⟨better, worse⟩
  rw [better] at worse
  exact absurd worse (by decide)

theorem text_terms (limits : Limits) (expression : Expression) (nonempty : expression.terms ≠ [])
    (few : ∀ bound ∈ limits.terms, (expression.terms.length : Int) ≤ bound) :
    Reader.terms limits (Term.words expression.terms).flatten =
      (expression.terms.map fun term => term.run.toList).mapM (Reader.run limits) := by
  obtain ⟨joined, split⟩ := Term.words_split expression.terms nonempty
  rw [Reader.terms_of_few limits _ joined, split]
  rw [split, List.length_map]
  exact few

theorem read_printed (limits : Limits) (expression : Expression) (nonempty : expression.terms ≠ [])
    (within : expression.Within limits) (small : ∀ term ∈ expression.terms, term.Small) :
    Expression.read limits expression.text = .ok expression := by
  rw [read_ok_iff limits _ _ _ expression.text_cut, text_terms limits expression nonempty within.1]
  refine ⟨expression.text_agreed, fun mode => (text_named_iff expression mode).symm, ?_⟩
  rw [Outcome.mapM_ok_iff, List.forall₂_map_left_iff, List.forall₂_same]
  exact fun term member => term.run_read limits (small term member) (within.2 term member)

theorem within_unlimited (expression : Expression) : expression.Within .unlimited :=
  ⟨by simp [Limits.unlimited], fun term _ => term.within_unlimited⟩

theorem read_blamed (expression : Expression) (before after : List Term) (term : Term)
    (terms : expression.terms = before ++ term :: after)
    (small : ∀ earlier ∈ before, earlier.Small) (large : ¬ term.Small) :
    Expression.read .unlimited expression.text = .error (.longNumber term.run) := by
  have nonempty : expression.terms ≠ [] := by simp [terms]
  have visible : expression.text.toList.all Text.isBlank = false := by
    rw [← Bool.not_eq_true]
    intro blank
    obtain ⟨nothing, -⟩ := blank_cut _ _ _ blank expression.text_cut
    exact (Term.words_split expression.terms nonempty).1 (by rw [nothing]; rfl)
  rw [read_error_iff .unlimited _ _ _ expression.text_cut]
  refine Or.inr ⟨visible, Or.inr ⟨expression.text_agreed, ?_⟩⟩
  rw [text_terms .unlimited expression nonempty expression.within_unlimited.1,
    Outcome.mapM_error_iff]
  refine ⟨_, _, _, by rw [terms, List.map_append, List.map_cons], ?_, term.run_blamed large⟩
  intro earlier member
  obtain ⟨first, here, rfl⟩ := List.mem_map.mp member
  exact ⟨first, first.run_read .unlimited (small first here) first.within_unlimited⟩

theorem read_small (limits : Limits) (text : String) (expression : Expression)
    (read : Expression.read limits text = .ok expression) :
    expression.terms ≠ [] ∧ expression.Within limits ∧ ∀ term ∈ expression.terms, term.Small := by
  have cut := Phrase.of_words_cut (Text.words (Text.lower text.toList))
  obtain ⟨-, -, found⟩ := (read_ok_iff limits text _ _ cut expression).mp read
  obtain ⟨few, items, sentence, related⟩ := (Reader.terms_ok_iff limits _ _).mp found
  have origin := Outcome.exists_item_of_mem _ items expression.terms related
  have lengths := ((sentence_iff_runs _ items).mp sentence).2.length_eq.trans related.length_eq
  refine ⟨?_, ⟨?_, ?_⟩, ?_⟩
  · intro empty
    rw [empty, List.length_nil, List.length_eq_zero_iff] at lengths
    exact Run.split_ne_nil _ lengths
  · rw [← lengths]
    exact few
  · intro term member
    obtain ⟨signed, -, reads⟩ := origin term member
    exact reads.within
  · intro term member
    obtain ⟨signed, inside, reads⟩ := origin term member
    apply signed.small_of_means term _ reads.admissible.1 reads.means
    exact fun digits number => (sentence_numbers _ items sentence signed inside digits number).2

theorem read_again (limits : Limits) (text : String) (expression : Expression)
    (read : Expression.read limits text = .ok expression) :
    Expression.read limits expression.text = .ok expression := by
  obtain ⟨nonempty, within, small⟩ := read_small limits text expression read
  exact read_printed limits expression nonempty within small

theorem read_empty (mode : Option Mode) :
    ∃ error, Expression.read .unlimited (Expression.text ⟨[], mode⟩) = .error error ∧
      (error = .blank ∨ error = .noTerms) := by
  cases mode with
  | none => exact ⟨.blank, by decide +kernel, Or.inl rfl⟩
  | some mode => exact ⟨.noTerms, by cases mode <;> decide +kernel, Or.inr rfl⟩

/-- Reading inverts printing on all expressions with terms and small numbers. With a number that
is not small the first such term is blamed, and an expression without terms is empty. A number with
more digits than a conversion takes is printed here all the same; no program could write it, so of
such an expression the second part says nothing that can be observed. -/
theorem read_text (expression : Expression) :
    (expression.terms ≠ [] → (∀ term ∈ expression.terms, term.Small) →
      Expression.read .unlimited expression.text = .ok expression) ∧
    ((∃ term ∈ expression.terms, ¬ term.Small) →
      ∃ before term after error, expression.terms = before ++ term :: after ∧
        (∀ earlier ∈ before, earlier.Small) ∧ ¬ term.Small ∧
        Expression.read .unlimited expression.text = .error error ∧
        error.rejection = .aboveLimit ∧ error.fragment? = some term.run) ∧
    (expression.terms = [] →
      ∃ error, Expression.read .unlimited expression.text = .error error ∧
        error.rejection = .malformedNotation ∧
        "[EMPTY_EXPRESSION]".toList <+: error.message.toList) := by
  refine ⟨?_, ?_, ?_⟩
  · exact fun nonempty small =>
      read_printed .unlimited expression nonempty expression.within_unlimited small
  · intro found
    obtain ⟨before, term, after, terms, small, large⟩ := Term.exists_first_large _ found
    have blamed := read_blamed expression before after term terms small large
    exact ⟨before, term, after, _, terms, small, large, blamed, rfl, rfl⟩
  · intro empty
    obtain ⟨terms, mode⟩ := expression
    obtain rfl : terms = [] := empty
    obtain ⟨error, refused, rfl | rfl⟩ := read_empty mode
    · exact ⟨_, refused, rfl, by decide⟩
    · exact ⟨_, refused, rfl, by decide⟩

/-- A plain d20 less five under advantage, and a modifier one above the largest small number. -/
theorem read_text_d20 :
    Expression.read .unlimited
        (Expression.text ⟨[.pool ⟨1, 20, none, by decide, by decide⟩, .modifier (-5)],
          some .advantage⟩) =
      .ok ⟨[.pool ⟨1, 20, none, by decide, by decide⟩, .modifier (-5)], some .advantage⟩ ∧
    ∃ error, Expression.read .unlimited (Expression.text ⟨[.modifier 1000000000], none⟩) =
      .error error ∧ error.rejection = .aboveLimit := by
  constructor
  · exact (read_text _).1 (by simp) (by decide)
  · obtain ⟨_, _, _, error, -, -, -, refused, above, -⟩ :=
      (read_text ⟨[.modifier 1000000000], none⟩).2.1 ⟨_, List.mem_cons_self, by decide⟩
    exact ⟨error, refused, above⟩

end Expression

end DiceRoller
