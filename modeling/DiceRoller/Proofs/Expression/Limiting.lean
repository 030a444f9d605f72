import DiceRoller.Proofs.Expression.Conversion
import DiceRoller.Proofs.Expression.RoundTrip

/-!
Limits while reading. A limit changes nothing of an answer, it can only refuse it: what is read
under limits is what is read without them, or the refusal is one of a limit. Which expressions are
refused depends on their terms alone. The refusal tells the limit, unless the first limit that is
exceeded has too many digits for that.
-/

namespace DiceRoller

def ReadError.OfLimit (error : ReadError) : Prop :=
  error.rejection = .aboveLimit ∨ error = .unwritableLimit

theorem ReadError.beyond_of_limit (bound : Int) (tell : Numeral.Writable → ReadError)
    (tells : ∀ told, (tell told).rejection = .aboveLimit) : (beyond bound tell).OfLimit := by
  rcases beyond_cases tell bound with ⟨told, -, same⟩ | ⟨-, same⟩
  · rw [same]
    exact Or.inl (tells told)
  · exact Or.inr same

namespace Reader

/-- The limited answer is the free one, or a limit refuses it. -/
def Filtered {A : Type} (free limited : Except ReadError A) : Prop :=
  limited = free ∨ ∃ error, limited = .error error ∧ error.OfLimit

variable {A B : Type}

theorem filtered_same (answer : Except ReadError A) : Filtered answer answer :=
  Or.inl rfl

theorem filtered_bind (free limited : Except ReadError A) (next later : A → Except ReadError B)
    (first : Filtered free limited) (rest : ∀ value, Filtered (next value) (later value)) :
    Filtered (free >>= next) (limited >>= later) := by
  rcases first with rfl | ⟨error, rfl, above⟩
  · cases limited with
    | error error => exact Or.inl rfl
    | ok value => exact rest value
  · exact Or.inr ⟨error, rfl, above⟩

theorem filtered_mapM (free limited : A → Except ReadError B) (items : List A)
    (each : ∀ item, Filtered (free item) (limited item)) :
    Filtered (items.mapM free) (items.mapM limited) := by
  induction items with
  | nil => exact filtered_same _
  | cons item rest ih =>
      rw [List.mapM_cons, List.mapM_cons]
      apply filtered_bind _ _ _ _ (each item)
      intro value
      exact filtered_bind _ _ _ _ ih fun values => filtered_same _

theorem filtered_within_limit (measure : Measure) (value : Nat) (limit : Option Int)
    (run : String) :
    Filtered (withinLimit measure value none run) (withinLimit measure value limit run) := by
  unfold withinLimit
  cases Limits.exceeded? limit value with
  | none => exact filtered_same _
  | some bound => exact Or.inr ⟨_, rfl, ReadError.beyond_of_limit bound _ fun _ => rfl⟩

theorem filtered_pool (limits : Limits) (run : String) (count sides : List Char)
    (spelling : Option SelectorSpelling) :
    Filtered (pool .unlimited run count sides spelling) (pool limits run count sides spelling) := by
  unfold pool
  apply filtered_bind _ _ _ _ (filtered_same _)
  intro given
  apply filtered_bind _ _ _ _ (filtered_same _)
  intro faces
  by_cases positive : 0 < faces
  · -- Only the two checks in the middle know the limits.
    rw [dif_pos positive, dif_pos positive]
    apply filtered_bind _ _ _ _ (filtered_within_limit _ _ _ _)
    intro _
    apply filtered_bind _ _ _ _ (filtered_within_limit _ _ _ _)
    intro _
    exact filtered_same _
  · rw [dif_neg positive, dif_neg positive]
    exact filtered_same _

theorem filtered_item (limits : Limits) (run : String) (negative : Bool) (given : Item) :
    Filtered (item .unlimited run negative given) (item limits run negative given) := by
  cases given with
  | flat digits => exact filtered_same _
  | dice count sides spelling =>
      cases negative with
      | true => exact filtered_same (.error (.subtractedPool run))
      | false =>
          exact filtered_bind _ _ _ _ (filtered_pool limits run count sides spelling) fun _ =>
            filtered_same _

theorem filtered_run (limits : Limits) (chars : List Char) :
    Filtered (run .unlimited chars) (run limits chars) := by
  unfold run
  cases Item.ofChars? chars.tail with
  | none => exact filtered_same _
  | some spelling => exact filtered_item limits _ _ spelling

theorem filtered_terms (limits : Limits) (joined : List Char) :
    Filtered (terms .unlimited joined) (terms limits joined) := by
  by_cases empty : joined = []
  · subst empty
    exact filtered_same _
  · rw [terms_unlimited_eq joined empty]
    cases above : Limits.exceeded? limits.terms (Run.split joined).length with
    | some bound =>
        rw [terms_of_many limits joined empty bound above]
        exact Or.inr ⟨_, rfl, ReadError.beyond_of_limit bound _ fun _ => rfl⟩
    | none =>
        rw [terms_of_few limits joined empty ((Limits.exceeded_none_iff _ _).mp above)]
        exact filtered_mapM _ _ _ (filtered_run limits)

theorem filtered_phrase (limits : Limits) (spoken : Phrase) :
    Filtered (phrase .unlimited spoken) (phrase limits spoken) := by
  unfold phrase
  cases spoken.conflicting with
  | true => exact filtered_same (.error .conflictingModes)
  | false =>
      exact filtered_bind _ _ _ _ (filtered_terms limits spoken.joined) fun _ => filtered_same _

end Reader

theorem SignedItem.reads_limited_iff (limits : Limits) (signed : SignedItem) (term : Term) :
    signed.Reads limits term ↔ signed.Reads .unlimited term ∧ term.Within limits := by
  constructor
  · rintro ⟨convertible, admissible, means, within⟩
    exact ⟨⟨convertible, admissible, means, term.within_unlimited⟩, within⟩
  · rintro ⟨⟨convertible, admissible, means, -⟩, within⟩
    exact ⟨convertible, admissible, means, within⟩

namespace Expression

theorem read_filtered (limits : Limits) (text : String) :
    Reader.Filtered (Expression.read .unlimited text) (Expression.read limits text) := by
  unfold Expression.read
  by_cases blank : text.toList.all Text.isBlank = true
  · rw [if_pos blank, if_pos blank]
    exact Reader.filtered_same _
  · rw [if_neg blank, if_neg blank]
    exact Reader.filtered_phrase limits _

theorem read_within (limits : Limits) (text : String) (expression : Expression)
    (read : Expression.read .unlimited text = .ok expression) (within : expression.Within limits) :
    Expression.read limits text = .ok expression := by
  have cut := Phrase.of_words_cut (Text.words (Text.lower text.toList))
  obtain ⟨agreed, modes, found⟩ := (read_ok_iff .unlimited text _ _ cut expression).mp read
  obtain ⟨items, sentence, related⟩ := (Reader.terms_unlimited_iff _ _).mp found
  -- There is one run for each term, so the bound on the terms bounds the runs.
  have lengths := ((sentence_iff_runs _ items).mp sentence).2.length_eq.trans related.length_eq
  have limited : List.Forall₂ (SignedItem.Reads limits) items expression.terms := by
    rw [List.forall₂_iff_zip] at related ⊢
    refine ⟨related.1, fun member => ?_⟩
    exact (SignedItem.reads_limited_iff limits _ _).mpr
      ⟨related.2 member, within.2 _ (List.of_mem_zip member).2⟩
  refine (read_ok_iff limits text _ _ cut expression).mpr ⟨agreed, modes, ?_⟩
  refine (Reader.terms_ok_iff limits _ _).mpr ⟨?_, items, sentence, limited⟩
  rw [lengths]
  exact within.1

/-- The error with which a limit refuses the text: it tells the limit, or the first limit that is
exceeded cannot be told. -/
def RefusedByLimit (limits : Limits) (text : String) (error : ReadError) : Prop :=
  error.rejection = .aboveLimit ∧ ¬ Untold limits text ∨
    error = .unwritableLimit ∧ Untold limits text

theorem refused_by_limit (limits : Limits) (text : String) (error : ReadError)
    (refused : Expression.read limits text = .error error) (limit : error.OfLimit) :
    RefusedByLimit limits text error := by
  unfold RefusedByLimit
  rw [← read_untold_iff, refused]
  rcases limit with above | rfl
  · refine Or.inl ⟨above, fun untold => ?_⟩
    cases untold
    cases above
  · exact Or.inr ⟨rfl, rfl⟩

theorem refused_beyond (limits : Limits) (text : String) (expression : Expression)
    (read : Expression.read .unlimited text = .ok expression)
    (beyond : ¬ expression.Within limits) :
    ∃ error, Expression.read limits text = .error error ∧ RefusedByLimit limits text error := by
  rcases read_filtered limits text with same | ⟨error, refused, limit⟩
  · have limited := same.trans read
    exact absurd (read_small limits text expression limited).2.1 beyond
  · exact ⟨error, refused, refused_by_limit limits text error refused limit⟩

/-- Limits only filter: an expression within them is read as without them, any other one is
refused for a limit, and what is refused without limits keeps its fault or is refused for one. A
refusal for a limit tells it, as far as the limits have not too many digits for that. -/
theorem read_limited (limits : Limits) (text : String) :
    (∀ expression, Expression.read .unlimited text = .ok expression →
      (expression.Within limits → Expression.read limits text = .ok expression) ∧
      (¬ expression.Within limits → ∃ error, Expression.read limits text = .error error ∧
        RefusedByLimit limits text error)) ∧
    (∀ fault, Expression.read .unlimited text = .error fault →
      ∃ error, Expression.read limits text = .error error ∧
        (error = fault ∨ RefusedByLimit limits text error)) ∧
    (limits.Writable → ¬ Untold limits text) := by
  refine ⟨?_, ?_, not_untold_of_writable limits text⟩
  · intro expression read
    exact ⟨read_within limits text expression read, refused_beyond limits text expression read⟩
  · intro fault refused
    rcases read_filtered limits text with same | ⟨error, limited, limit⟩
    · exact ⟨fault, same.trans refused, Or.inl rfl⟩
    · exact ⟨error, limited, Or.inr (refused_by_limit limits text error limited limit)⟩

/-- Two pools with room for two dice and with room for one, and a pool before a run that is no
item. -/
theorem read_limited_pools :
    Expression.read ⟨some 2, some 8, some 2⟩ "0d8 + 2d6" =
        .ok ⟨[.pool ⟨1, 8, none, by decide, by decide⟩, .pool ⟨2, 6, none, by decide, by decide⟩],
          none⟩ ∧
      (∃ error, Expression.read ⟨some 1, none, none⟩ "0d8 + 2d6" = .error error ∧
        RefusedByLimit ⟨some 1, none, none⟩ "0d8 + 2d6" error) ∧
      (∃ error, Expression.read ⟨some 1, none, none⟩ "2d6 + x" = .error error ∧
        (error = .malformed "+x" ∨ RefusedByLimit ⟨some 1, none, none⟩ "2d6 + x" error)) ∧
      ¬ Untold ⟨some 1, none, none⟩ "2d6 + x" := by
  have read : Expression.read .unlimited "0d8 + 2d6" =
      .ok ⟨[.pool ⟨1, 8, none, by decide, by decide⟩, .pool ⟨2, 6, none, by decide, by decide⟩],
        none⟩ := by
    decide +kernel
  have refused : Expression.read .unlimited "2d6 + x" = .error (.malformed "+x") := by
    decide +kernel
  refine ⟨?_, ?_, (read_limited _ _).2.1 _ refused, (read_limited _ _).2.2 ?_⟩
  · apply ((read_limited _ _).1 _ read).1
    refine ⟨by decide, ?_⟩
    simp [Term.Within]
  · apply ((read_limited _ _).1 _ read).2
    intro within
    have few := (within.2 _ (List.mem_cons_of_mem _ List.mem_cons_self)).1 1 rfl
    exact absurd few (by decide)
  · exact ⟨by decide +kernel, by decide +kernel, by decide +kernel⟩

/-- A single die under a limit on the dice that is below zero and has too many digits. -/
theorem dice_limit_untold :
    Expression.read .unlimited "d6" =
        .ok ⟨[.pool ⟨1, 6, none, by decide, by decide⟩], none⟩ ∧
      ¬ Expression.Within ⟨some (-Numeral.tooLarge), none, none⟩
        ⟨[.pool ⟨1, 6, none, by decide, by decide⟩], none⟩ ∧
      ¬ ∃ error, Expression.read ⟨some (-Numeral.tooLarge), none, none⟩ "d6" = .error error ∧
        error.rejection = .aboveLimit := by
  have refused : Expression.read ⟨some (-Numeral.tooLarge), none, none⟩ "d6" =
      .error .unwritableLimit := by
    decide +kernel
  refine ⟨by decide +kernel, fun within => ?_, ?_⟩
  · have few := (within.2 _ List.mem_cons_self).1 _ rfl
    exact absurd few (by decide +kernel)
  · rintro ⟨error, other, above⟩
    rw [refused] at other
    cases other
    cases above

end Expression

end DiceRoller
