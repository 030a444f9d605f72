import DiceRoller.Proofs.Codes
import DiceRoller.Proofs.Text.Settled

/-!
Where a notation is refused. Four faults are faults of the notation as a whole, and the first of
them wins over what comes later. Any other fault is that of the leftmost run that cannot be read.
A run that is cut out of a notation is a notation of its own, and it is answered alone as it is
answered in its place. A limit that is exceeded and has too many digits to be told is met at the
same places as one that is told; the refusal only fails to say what is at fault.
-/

namespace DiceRoller

namespace Reader
open Outcome
variable {A B : Type}

def Blames (run : String) (answer : Except ReadError A) : Prop :=
  ∀ error, answer = .error error →
    error.fragment? = some run ∨ error.rejection = .unreadableNumber

theorem blames_ok (run : String) (value : A) : Blames run (.ok value) := by
  intro error refused
  cases refused

theorem blames_error (run : String) (error : ReadError) (blamed : error.fragment? = some run) :
    Blames run (.error error : Except ReadError A) := by
  intro other refused
  cases refused
  exact Or.inl blamed

theorem blames_bind (run : String) (first : Except ReadError A) (next : A → Except ReadError B)
    (here : Blames run first) (later : ∀ value, Blames run (next value)) :
    Blames run (first >>= next) := by
  intro error refused
  rcases (bind_error_iff first next error).mp refused with before | ⟨value, -, after⟩
  · exact here error before
  · exact later value error after

theorem number_blames (run : String) (digits : List Char) : Blames run (number run digits) := by
  unfold number
  split
  · exact blames_error run _ rfl
  · split
    · intro error refused
      cases refused
      exact Or.inr rfl
    · exact blames_ok run _

theorem within_limit_blames (measure : Measure) (value : Nat) (limit : Option Int)
    (run : String) : Blames run (withinLimit measure value limit run) := by
  unfold withinLimit
  split
  next bound _ =>
    rcases ReadError.beyond_cases (fun told => .aboveLimit measure value told run) bound with
      ⟨told, -, same⟩ | ⟨-, same⟩
    · rw [same]
      exact blames_error run _ rfl
    · rw [same]
      intro error refused
      cases refused
      exact Or.inr rfl
  next => exact blames_ok run _

theorem selector_blames (run : String) (spelling : Option SelectorSpelling) :
    Blames run (selector run spelling) := by
  intro error refused
  obtain ⟨given, -, long⟩ := (selector_error_iff run spelling error).mp refused
  exact number_blames run given.size error long

theorem pool_blames (limits : Limits) (run : String) (count sides : List Char)
    (spelling : Option SelectorSpelling) : Blames run (pool limits run count sides spelling) := by
  refine blames_bind run _ _ (number_blames run count) fun given => ?_
  refine blames_bind run _ _ (number_blames run sides) fun faces => ?_
  split
  · refine blames_bind run _ _ (within_limit_blames _ _ _ run) fun _ => ?_
    refine blames_bind run _ _ (within_limit_blames _ _ _ run) fun _ => ?_
    exact blames_bind run _ _ (selector_blames run spelling) fun chosen => blames_ok run _
  · exact blames_error run _ rfl

theorem item_blames (limits : Limits) (run : String) (negative : Bool) (given : Item) :
    Blames run (item limits run negative given) := by
  cases given with
  | flat digits =>
      exact blames_bind run _ _ (number_blames run digits) fun value => blames_ok run _
  | dice count sides spelling =>
      cases negative with
      | true => exact blames_error run (.subtractedPool run) rfl
      | false =>
          exact blames_bind run _ _ (pool_blames limits run count sides spelling) fun dice =>
            blames_ok run _

theorem run_blames (limits : Limits) (chars : List Char) :
    Blames (String.ofList chars) (run limits chars) := by
  unfold run
  split
  · exact item_blames limits _ _ _
  · exact blames_error _ _ rfl

theorem run_limits (limits : Limits) (terms : Option Int) (chars : List Char) :
    run { limits with terms } chars = run limits chars :=
  rfl

theorem terms_run (limits : Limits) (chars : List Char) (isRun : Run.IsRun chars)
    (one : ∀ bound ∈ limits.terms, 1 ≤ bound) :
    terms limits chars = [chars].mapM (run limits) := by
  have split := Run.split_run chars isRun
  obtain ⟨sign, rest, opens, -⟩ := isRun
  rw [terms_of_few limits chars (by simp [opens]) (by rw [split]; exact one), split]

end Reader

namespace Expression

theorem run_letters (text : List Char) (body tail : List (List Char))
    (cut : TailCut (Text.words (Text.lower text)) body tail) :
    ∀ chars ∈ Run.split body.flatten, ∀ c ∈ chars, Text.Settled c ∧ Text.isBlank c = false := by
  apply Run.forall_split
  · exact ⟨Text.settled_of_plain '+' (by decide), by decide⟩
  · intro c member
    have found : c ∈ (Text.words (Text.lower text)).flatten := by
      rw [← cut.joined, List.flatten_append]
      exact List.mem_append_left _ member
    rw [Text.words_flatten, List.mem_filter] at found
    exact ⟨Text.lower_all_settled text c found.1, by simpa using found.2⟩

theorem run_cut (chars : List Char) (isRun : Run.IsRun chars)
    (letters : ∀ c ∈ chars, Text.Settled c ∧ Text.isBlank c = false) :
    TailCut (Text.words (Text.lower (String.ofList chars).toList)) [chars] [] := by
  obtain ⟨sign, rest, rfl, isSign, -⟩ := isRun
  rw [String.toList_ofList, Text.lower_settled _ fun c member => (letters c member).1,
    Text.words_single _ (List.cons_ne_nil sign rest) fun c member => (letters c member).2]
  exact TailCut.of_plain_word _ sign List.mem_cons_self (Or.inr isSign)

theorem read_run (limits : Limits) (chars : List Char) (isRun : Run.IsRun chars)
    (letters : ∀ c ∈ chars, Text.Settled c ∧ Text.isBlank c = false)
    (one : ∀ bound ∈ limits.terms, 1 ≤ bound) :
    Expression.read limits (String.ofList chars) =
      (Reader.run limits chars).map fun term => ⟨[term], none⟩ := by
  have cut := run_cut chars isRun letters
  have unnamed : ∀ mode : Mode, ¬ mode.NamedIn [] := by simp [Mode.NamedIn]
  have terms := Reader.terms_run limits chars isRun one
  cases answer : Reader.run limits chars with
  | error error =>
      have visible : (String.ofList chars).toList.all Text.isBlank = false := by
        obtain ⟨sign, rest, opens, -⟩ := isRun
        rw [String.toList_ofList, opens]
        simp [(letters sign (by simp [opens])).2]
      refine (read_error_iff limits _ _ _ cut error).mpr
        (Or.inr ⟨visible, Or.inr ⟨fun both => unnamed _ both.1, ?_⟩⟩)
      rw [List.flatten_singleton, terms]
      exact (Outcome.mapM_error_iff _ _ _).mpr ⟨[], chars, [], rfl, by simp, answer⟩
  | ok term =>
      refine (read_ok_iff limits _ _ _ cut _).mpr
        ⟨fun both => unnamed _ both.1, fun mode => by simp [unnamed mode], ?_⟩
      rw [List.flatten_singleton, terms]
      exact (Outcome.mapM_ok_iff _ _ _).mpr (.cons answer .nil)

/-- The run is refused with the error wherever it stands: the error blames it, unless it is about a
limit that cannot be told, and it is also the error of the run alone, under any limit on the terms
that has room for one. -/
structure RefusedAlone (limits : Limits) (chars : List Char) (error : ReadError) : Prop where
  blamed : error.fragment? = some (String.ofList chars) ∨ error = .unwritableLimit
  alone : ∀ terms : Option Int, (∀ bound ∈ terms, 1 ≤ bound) →
    Expression.read { limits with terms } (String.ofList chars) = .error error

/-- Why a notation with the words of `body` before those of `tail` is refused. The checks come in
this order, and each one is made only if those before it are passed. -/
inductive Refused (limits : Limits) (text : String) (body tail : List (List Char)) :
    ReadError → Prop
  | blank : text.toList.all Text.isBlank = true → Refused limits text body tail .blank
  | conflicting : text.toList.all Text.isBlank = false →
      Mode.advantage.NamedIn tail ∧ Mode.disadvantage.NamedIn tail →
      Refused limits text body tail .conflictingModes
  | nothing : text.toList.all Text.isBlank = false →
      ¬ (Mode.advantage.NamedIn tail ∧ Mode.disadvantage.NamedIn tail) → body.flatten = [] →
      Refused limits text body tail .noTerms
  | crowded (limit : Numeral.Writable) : text.toList.all Text.isBlank = false →
      ¬ (Mode.advantage.NamedIn tail ∧ Mode.disadvantage.NamedIn tail) → body.flatten ≠ [] →
      limit.val ∈ limits.terms → limit.val < (Run.split body.flatten).length →
      Refused limits text body tail (.tooManyTerms (Run.split body.flatten).length limit)
  | crowdedUntold : text.toList.all Text.isBlank = false →
      ¬ (Mode.advantage.NamedIn tail ∧ Mode.disadvantage.NamedIn tail) → body.flatten ≠ [] →
      Limits.Untold limits.terms (Run.split body.flatten).length →
      Refused limits text body tail .unwritableLimit
  | run (before after : List (List Char)) (chars : List Char) (error : ReadError) :
      text.toList.all Text.isBlank = false →
      ¬ (Mode.advantage.NamedIn tail ∧ Mode.disadvantage.NamedIn tail) → body.flatten ≠ [] →
      (∀ bound ∈ limits.terms, ((Run.split body.flatten).length : Int) ≤ bound) →
      Run.split body.flatten = before ++ chars :: after →
      (∀ earlier ∈ before, ∃ term,
        Expression.read limits (String.ofList earlier) = .ok ⟨[term], none⟩) →
      RefusedAlone limits chars error → Refused limits text body tail error

section Pieces
variable (limits : Limits) (text : List Char) (body tail : List (List Char))
  (cut : TailCut (Text.words (Text.lower text)) body tail)
include cut

/-- A run of a notation is answered alone as it is answered in its place. -/
theorem read_piece (chars : List Char) (piece : chars ∈ Run.split body.flatten)
    (terms : Option Int) (one : ∀ bound ∈ terms, 1 ≤ bound) :
    Expression.read { limits with terms } (String.ofList chars) =
      (Reader.run limits chars).map fun term => ⟨[term], none⟩ := by
  have isRun := ((Run.split_eq_iff body.flatten _).mp rfl).2 chars piece
  rw [read_run { limits with terms } chars isRun (run_letters text body tail cut chars piece) one,
    Reader.run_limits]

theorem accepted_alone_iff (one : ∀ bound ∈ limits.terms, 1 ≤ bound) (runs : List (List Char))
    (pieces : ∀ chars ∈ runs, chars ∈ Run.split body.flatten) :
    (∀ chars ∈ runs, ∃ term, Expression.read limits (String.ofList chars) = .ok ⟨[term], none⟩) ↔
      ∀ chars ∈ runs, ∃ term, Reader.run limits chars = .ok term := by
  refine forall₂_congr fun chars member => exists_congr fun term => ?_
  rw [read_piece limits text body tail cut chars (pieces chars member) limits.terms one]
  cases Reader.run limits chars <;> simp [Except.map]

/-- An error that is not about an overlong number is that of the run in its place just when it is
that of the run alone. -/
theorem refused_alone_iff (chars : List Char) (piece : chars ∈ Run.split body.flatten)
    (error : ReadError) :
    RefusedAlone limits chars error ↔
      (∀ length, error ≠ .unreadableNumber length) ∧ Reader.run limits chars = .error error := by
  have alone := read_piece limits text body tail cut chars piece
  constructor
  · rintro ⟨blamed, refused⟩
    have unlimited := (alone none (by simp)).symm.trans (refused none (by simp))
    constructor
    · rintro length rfl
      rcases blamed with blamed | blamed <;> cases blamed
    · cases answer : Reader.run limits chars with
      | error found => simpa [answer, Except.map] using unlimited
      | ok term => simp [answer, Except.map] at unlimited
  · rintro ⟨readable, refused⟩
    constructor
    · rcases Reader.run_blames limits chars error refused with blamed | unconverted
      · exact Or.inl blamed
      · cases error with
        | unreadableNumber length => exact absurd rfl (readable length)
        | unwritableLimit => exact Or.inr rfl
        | _ => cases unconverted
    · intro terms one
      rw [alone terms one, refused]
      rfl

end Pieces

theorem room_for_one (limits : Limits) (joined : List Char)
    (few : ∀ bound ∈ limits.terms, ((Run.split joined).length : Int) ≤ bound) :
    ∀ bound ∈ limits.terms, 1 ≤ bound := by
  intro bound member
  have positive := List.length_pos_of_ne_nil (Run.split_ne_nil joined)
  have above := few bound member
  omega

theorem refused_of_read (limits : Limits) (text : String) (body tail : List (List Char))
    (cut : TailCut (Text.words (Text.lower text.toList)) body tail) (error : ReadError)
    (readable : ∀ length, error ≠ .unreadableNumber length)
    (refused : Expression.read limits text = .error error) :
    Refused limits text body tail error := by
  rcases (read_error_iff limits text body tail cut error).mp refused with
    ⟨blank, rfl⟩ | ⟨visible, ⟨both, rfl⟩ | ⟨agreed, refusedTerms⟩⟩
  · exact .blank blank
  · exact .conflicting visible both
  rcases (Reader.terms_error_iff limits _ error).mp refusedTerms with
    ⟨empty, rfl⟩ | ⟨nonempty, ⟨bound, above, rfl⟩ |
      ⟨few, before, chars, after, split, read, here⟩⟩
  · exact .nothing visible agreed empty
  · obtain ⟨member, exceeded⟩ := (Limits.exceeded_some_iff _ _ bound).mp above
    rcases ReadError.beyond_cases (.tooManyTerms (Run.split body.flatten).length) bound with
      ⟨limit, rfl, same⟩ | ⟨long, same⟩
    · rw [same]
      exact .crowded limit visible agreed nonempty member exceeded
    · rw [same]
      exact .crowdedUntold visible agreed nonempty ⟨bound, member, exceeded, long⟩
  · have one := room_for_one limits body.flatten few
    refine .run before after chars error visible agreed nonempty few split ?_ ?_
    · refine (accepted_alone_iff limits text.toList body tail cut one before ?_).mpr read
      exact fun earlier member => by simp [split, member]
    · exact (refused_alone_iff limits text.toList body tail cut chars (by simp [split]) error).mpr
        ⟨readable, here⟩

theorem read_of_refused (limits : Limits) (text : String) (body tail : List (List Char))
    (cut : TailCut (Text.words (Text.lower text.toList)) body tail) (error : ReadError)
    (refused : Refused limits text body tail error) :
    Expression.read limits text = .error error := by
  rw [read_error_iff limits text body tail cut]
  cases refused with
  | blank blank => exact Or.inl ⟨blank, rfl⟩
  | conflicting visible both => exact Or.inr ⟨visible, Or.inl ⟨both, rfl⟩⟩
  | nothing visible agreed empty =>
      refine Or.inr ⟨visible, Or.inr ⟨agreed, ?_⟩⟩
      exact (Reader.terms_error_iff limits _ _).mpr (Or.inl ⟨empty, rfl⟩)
  | crowded limit visible agreed nonempty member exceeded =>
      refine Or.inr ⟨visible, Or.inr ⟨agreed, ?_⟩⟩
      have above := (Limits.exceeded_some_iff limits.terms _ limit.val).mpr ⟨member, exceeded⟩
      rw [Reader.terms_of_many limits _ nonempty _ above, ReadError.beyond_writable]
  | crowdedUntold visible agreed nonempty untold =>
      refine Or.inr ⟨visible, Or.inr ⟨agreed, ?_⟩⟩
      exact (Reader.terms_untold_iff limits _).mpr (Or.inl ⟨nonempty, untold⟩)
  | run before after chars _ visible agreed nonempty few split accepted refused =>
      have one := room_for_one limits body.flatten few
      refine Or.inr ⟨visible, Or.inr ⟨agreed, ?_⟩⟩
      refine (Reader.terms_error_iff limits _ _).mpr (Or.inr ⟨nonempty, Or.inr ⟨few, before, chars,
        after, split, ?_, ?_⟩⟩)
      · refine (accepted_alone_iff limits text.toList body tail cut one before ?_).mp accepted
        exact fun earlier member => by simp [split, member]
      · exact ((refused_alone_iff limits text.toList body tail cut chars (by simp [split])
          error).mp refused).2

end Expression

structure ReadError.BlamesAll (error : ReadError) (rejection : Rejection) (code : String) :
    Prop where
  rejection : error.rejection = rejection
  opens : code.toList <+: error.message.toList
  fragment : error.fragment? = none

theorem ReadError.blames_all (error : ReadError) (code : String) (known : error.code? = some code)
    (whole : error.fragment? = none) : error.BlamesAll error.rejection code :=
  ⟨rfl, message_opens error code known, whole⟩

/-- What a notation with readable numbers is refused for: the first of four faults of the whole
notation, or the fault of its leftmost run that is refused alone as well. The rejection carries a
code, unless the fault is a limit that cannot be told, and there is none such among limits of few
digits. -/
theorem Expression.read_refused (limits : Limits) (text : String) (body tail : List (List Char))
    (convertible : Numeral.Convertible (text.toList.filter fun c => !Text.isBlank c))
    (cut : TailCut (Text.words (Text.lower text.toList)) body tail) :
    (∀ error, Expression.read limits text = .error error ↔
      Expression.Refused limits text body tail error) ∧
    (∀ error, Expression.read limits text = .error error →
      (error.rejection = .malformedNotation ∨ error.rejection = .aboveLimit) ∧
          ¬ Expression.Untold limits text ∨
        error = .unwritableLimit ∧ Expression.Untold limits text) ∧
    (limits.Writable → ¬ Expression.Untold limits text) ∧
    ReadError.blank.BlamesAll .malformedNotation "[EMPTY_EXPRESSION]" ∧
    ReadError.conflictingModes.BlamesAll .malformedNotation "[CONFLICTING_MODE]" ∧
    ReadError.noTerms.BlamesAll .malformedNotation "[EMPTY_EXPRESSION]" ∧
    ∀ found limit,
      (ReadError.tooManyTerms found limit).BlamesAll .aboveLimit "[LIMIT_EXCEEDED]" := by
  have readable : ∀ error, Expression.read limits text = .error error →
      ∀ length, error ≠ .unreadableNumber length := by
    rintro error refused length rfl
    exact not_overlong_of_convertible limits text convertible
      ((read_unreadable_iff limits text).mp ⟨length, refused⟩)
  refine ⟨fun error => ⟨fun refused => ?_, ?_⟩, fun error refused => ?_,
    not_untold_of_writable limits text, ReadError.blank.blames_all _ rfl rfl,
    ReadError.conflictingModes.blames_all _ rfl rfl, ReadError.noTerms.blames_all _ rfl rfl,
    fun found limit => (ReadError.tooManyTerms found limit).blames_all _ rfl rfl⟩
  · exact refused_of_read limits text body tail cut error (readable error refused) refused
  · exact read_of_refused limits text body tail cut error
  · rw [← read_untold_iff, refused]
    cases error with
    | unreadableNumber length => exact absurd rfl (readable _ refused length)
    | unwritableLimit => exact Or.inr ⟨rfl, rfl⟩
    | _ => exact Or.inl ⟨by simp [ReadError.rejection], by simp⟩

/-- The second of three runs has no sides; the third one is no item, and nobody looks at it. -/
theorem Expression.read_refused_no_sides :
    TailCut (Text.words (Text.lower "2d6 + 3D0kh1 - x ADV".toList))
        ["2d6".toList, "+".toList, "3d0kh1".toList, "-".toList, "x".toList] ["adv".toList] ∧
      Expression.Refused ⟨some 10, some 100, some 3⟩ "2d6 + 3D0kh1 - x ADV"
        ["2d6".toList, "+".toList, "3d0kh1".toList, "-".toList, "x".toList] ["adv".toList]
        (.noSides "+3d0kh1") := by
  have body : (Phrase.ofWords (Text.words (Text.lower "2d6 + 3D0kh1 - x ADV".toList))).body =
      ["2d6".toList, "+".toList, "3d0kh1".toList, "-".toList, "x".toList] := by
    decide +kernel
  have tail : ((Text.words (Text.lower "2d6 + 3D0kh1 - x ADV".toList)).reverse.takeWhile
      Phrase.isModeWord).reverse = ["adv".toList] := by
    decide +kernel
  have cut := Phrase.of_words_cut (Text.words (Text.lower "2d6 + 3D0kh1 - x ADV".toList))
  rw [body, tail] at cut
  have convertible := Numeral.convertible_of_length
    ("2d6 + 3D0kh1 - x ADV".toList.filter fun c => !Text.isBlank c) (by decide +kernel)
  have refused : Expression.read ⟨some 10, some 100, some 3⟩ "2d6 + 3D0kh1 - x ADV" =
      .error (.noSides "+3d0kh1") := by
    decide +kernel
  exact ⟨cut, ((read_refused ⟨some 10, some 100, some 3⟩ _ _ _ convertible cut).1 _).mp refused⟩

/-- A single term under a limit on the terms that is below zero and has too many digits. -/
theorem Expression.terms_limit_untold :
    Numeral.Convertible ("1".toList.filter fun c => !Text.isBlank c) ∧
      ∃ error, Expression.read ⟨none, none, some (-Numeral.tooLarge)⟩ "1" = .error error ∧
        ¬ (error.rejection = .malformedNotation ∨ error.rejection = .aboveLimit) := by
  have refused : Expression.read ⟨none, none, some (-Numeral.tooLarge)⟩ "1" =
      .error .unwritableLimit := by
    decide +kernel
  exact ⟨Numeral.convertible_of_length _ (by decide +kernel), _, refused, by decide⟩

end DiceRoller
