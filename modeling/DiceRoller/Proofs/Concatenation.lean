import DiceRoller.Proofs.Expression.Acceptance
import DiceRoller.Proofs.Rolling

/-!
Notations put together. A notation without a mode, another one that opens with a sign, and perhaps a
mode word at the end are read as the terms of both. The whole is rolled as its two parts are, each
with the mode word behind it, one after the other from one source.
-/

namespace DiceRoller

def Run.OpensSigned (text : List Char) : Prop :=
  ∃ sign ∈ text.find? fun c => !Text.isBlank c, isSign sign = true

/-- Nothing, or blanks and behind them one mode word, in letters of either case. -/
inductive ModeEnding : List Char → Option Mode → Prop
  | nothing : ModeEnding [] none
  | word (blanks word : List Char) (mode : Mode) : blanks ≠ [] →
      (∀ c ∈ blanks, Text.isBlank c = true) → Text.lower word ∈ mode.words →
      ModeEnding (blanks ++ word) (some mode)

def isNotational (c : Char) : Bool :=
  Text.isBlank c || Run.isSign c || c.isDigit || ['d', 'h', 'k', 'l'].contains c

theorem not_small_sigma (c : Char) (notational : isNotational c = true) :
    Text.isSmallSigma c = false := by
  rw [← Bool.not_eq_true]
  intro small
  have codes : c.toNat = 0x3C2 ∨ c.toNat = 0x3C3 := by simpa [Text.isSmallSigma] using small
  rcases codes with code | code
  · rw [← Char.ofNat_toNat c, code] at notational
    exact absurd notational (by decide)
  · rw [← Char.ofNat_toNat c, code] at notational
    exact absurd notational (by decide)

theorem Mode.word_not_notational (mode : Mode) :
    ∀ word ∈ mode.words, ∃ c ∈ word, isNotational c = false := by
  have all : mode.words.all (fun word => word.any fun c => !isNotational c) = true := by
    cases mode <;> decide
  intro word member
  simpa using List.all_eq_true.mp all word member

theorem Mode.word_visible (mode : Mode) : ∀ word ∈ mode.words,
    word ≠ [] ∧ ∀ c ∈ word, Text.isBlank c = false ∧ Text.isSmallSigma c = false := by
  have all : mode.words.all (fun word => !word.isEmpty &&
      word.all fun c => !Text.isBlank c && !Text.isSmallSigma c) = true := by
    cases mode <;> decide
  intro word member
  simpa using List.all_eq_true.mp all word member

/-- A text is read as these terms, and nothing in it could be a part of a mode word. -/
structure Bare (text : List Char) (terms : List Term) : Prop where
  notational : ∀ c ∈ Text.lower text, isNotational c = true
  read : Reader.terms .unlimited ((Text.lower text).filter fun c => !Text.isBlank c) = .ok terms

namespace Bare

theorem no_sigma (text : List Char) (terms : List Term) (bare : Bare text terms) :
    Text.NoSigma text :=
  fun c member => not_small_sigma c (bare.notational c member)

theorem words_plain (text : List Char) (terms : List Term) (bare : Bare text terms) :
    ∀ word ∈ Text.words (Text.lower text), ∀ mode : Mode, word ∉ mode.words := by
  intro word member mode named
  obtain ⟨c, inside, other⟩ := mode.word_not_notational word named
  have shown := List.mem_flatten.mpr ⟨word, member, inside⟩
  rw [Text.words_flatten] at shown
  have notational := bare.notational c (List.mem_filter.mp shown).1
  rw [other] at notational
  exact Bool.noConfusion notational

end Bare

theorem Expression.bare_of_read (text : String) (expression : Expression)
    (read : Expression.read .unlimited text = .ok expression) (plain : expression.mode = none) :
    Bare text.toList expression.terms := by
  have cut := Phrase.of_words_cut (Text.words (Text.lower text.toList))
  obtain ⟨-, named, found⟩ := (read_ok_iff .unlimited text _ _ cut expression).mp read
  -- A word of the tail would name a mode, so all words stand before the tail.
  have nothing : ((Text.words (Text.lower text.toList)).reverse.takeWhile
      Phrase.isModeWord).reverse = [] := by
    rw [List.eq_nil_iff_forall_not_mem]
    intro word member
    obtain ⟨mode, spelled⟩ := cut.modes word member
    have some := (named mode).mpr ⟨word, member, spelled⟩
    rw [plain] at some
    cases some
  have whole := cut.joined
  rw [nothing, List.append_nil] at whole
  rw [whole, Text.words_flatten] at found
  refine ⟨fun c member => ?_, found⟩
  obtain ⟨items, sentence, -⟩ := (Reader.terms_unlimited_iff _ _).mp found
  by_cases blank : Text.isBlank c = true
  · simp [isNotational, blank]
  · have kept : c ∈ (Text.lower text.toList).filter fun c => !Text.isBlank c :=
      List.mem_filter.mpr ⟨member, by simpa using blank⟩
    have shown := sentence_chars _ items sentence c kept
    simpa [isNotational, blank, or_assoc] using shown

theorem no_sigma_blanks (blanks : List Char) (parts : ∀ c ∈ blanks, Text.isBlank c = true) :
    Text.NoSigma blanks := by
  intro c member
  rw [Text.lower_blanks blanks parts] at member
  exact not_small_sigma c (by simp [isNotational, parts c member])

theorem ModeEnding.words_append (text ending : List Char) (mode : Option Mode)
    (ends : ModeEnding ending mode) (none : Text.NoSigma text) :
    ∃ tail, Text.words (Text.lower (text ++ ending)) = Text.words (Text.lower text) ++ tail ∧
      (∀ word ∈ tail, ∃ mode : Mode, word ∈ mode.words) ∧
      ∀ named, mode = some named ↔ named.NamedIn tail := by
  cases ends with
  | nothing => exact ⟨[], by simp, by simp, by simp [Mode.NamedIn]⟩
  | word blanks word mode nonempty parts spelled =>
      obtain ⟨filled, visible⟩ := mode.word_visible _ spelled
      have noneBlanks := no_sigma_blanks blanks parts
      have noneWord : Text.NoSigma word := fun c member => (visible c member).2
      refine ⟨[Text.lower word], ?_, ?_, fun named => ?_⟩
      · rw [Text.lower_append text _ none (.append blanks word noneBlanks noneWord),
          Text.lower_append blanks word noneBlanks noneWord, Text.lower_blanks blanks parts,
          Text.words_append_blanks _ blanks _ nonempty parts,
          Text.words_single _ filled fun c member => (visible c member).1]
      · intro found member
        rw [List.mem_singleton.mp member]
        exact ⟨mode, spelled⟩
      · rw [← Mode.of_word_iff] at spelled
        simp only [Mode.NamedIn, List.mem_singleton, exists_eq_left, ← Mode.of_word_iff, spelled]

theorem lower_char_sign (c : Char) :
    ∀ letter ∈ Text.lowerChar c, Run.isSign letter = Run.isSign c := by
  have clear : Text.lowerRuns.all (fun run => run.clearOf 0x2B 0x2D) = true := by
    decide +kernel
  have outside : ∀ letter : Char, ¬ (0x2B ≤ letter.toNat ∧ letter.toNat ≤ 0x2D) →
      Run.isSign letter = false := by
    intro letter away
    rw [← Bool.not_eq_true]
    intro sign
    rcases (Run.is_sign_iff letter).mp sign with rfl | rfl <;> exact away (by decide)
  intro letter member
  unfold Text.lowerChar at member
  split at member
  next ascii =>
    rw [List.mem_singleton.mp member]
    rcases Text.ascii_lower_cases c with ⟨-, above, -, lowered⟩ | ⟨-, same⟩
    · rw [outside c (by omega), outside c.toLower (by omega)]
    · rw [same]
  next beyond =>
    rw [outside c (by omega)]
    split at member
    next => rcases List.mem_pair.mp member with rfl | rfl <;> decide
    next =>
      rw [List.mem_singleton.mp member]
      rcases Text.shifted_cases Text.lowerRuns c with same | ⟨run, inside, covered, moved⟩
      · rw [same, outside c (by omega)]
      · rw [moved]
        have away := List.all_eq_true.mp clear run inside
        exact outside _ (run.outside_of_clear c 0x2B 0x2D (by decide) covered away).2

theorem Run.opens_signed_iff (text : List Char) (none : Text.NoSigma text) :
    Run.OpensSigned text ↔ ∃ sign rest,
      (Text.lower text).filter (fun c => !Text.isBlank c) = sign :: rest ∧
        Run.isSign sign = true := by
  obtain ⟨blanks, visible, rfl, parts, opens⟩ : ∃ blanks visible, text = blanks ++ visible ∧
      (∀ c ∈ blanks, Text.isBlank c = true) ∧ ∀ c ∈ visible.head?, Text.isBlank c = false :=
    ⟨text.takeWhile Text.isBlank, text.dropWhile Text.isBlank,
      List.takeWhile_append_dropWhile.symm, fun c member => List.mem_takeWhile_imp member,
      fun c first => by
        have stop := List.head?_dropWhile_not Text.isBlank text
        rw [first] at stop
        simpa using stop⟩
  have skipped : blanks.filter (fun c => !Text.isBlank c) = [] := by
    rw [List.filter_eq_nil_iff]
    exact fun c member => by simp [parts c member]
  have hidden : blanks.find? (fun c => !Text.isBlank c) = Option.none := by
    rw [List.find?_eq_none]
    exact fun c member => by simp [parts c member]
  rw [Text.lower_cut blanks visible none, Text.lower_blanks blanks parts, List.filter_append,
    skipped, List.nil_append]
  unfold OpensSigned
  rw [List.find?_append, hidden, Option.none_or]
  cases visible with
  | nil => simp [Text.lower, Text.lowerFrom]
  | cons c rest =>
      have seen : Text.isBlank c = false := opens c rfl
      obtain ⟨-, noneVisible⟩ := Text.NoSigma.of_append blanks (c :: rest) none
      obtain ⟨noneFirst, -⟩ := Text.NoSigma.of_append [c] rest noneVisible
      have first : Text.lower [c] = Text.lowerChar c := by simpa using Text.lower_each [c] noneFirst
      -- The first visible character is a sign just when the first one of its lower case is.
      have solid := Text.lower_solid [c] (List.forall_mem_singleton.mpr seen)
      have filled := Text.lower_ne_nil [c] (List.cons_ne_nil c [])
      rw [first] at solid filled
      obtain ⟨letter, more, shape⟩ := List.exists_cons_of_ne_nil filled
      have kept : Run.isSign letter = Run.isSign c := lower_char_sign c letter (by simp [shape])
      have visible : Text.isBlank letter = false := solid letter (by simp [shape])
      rw [← List.singleton_append, Text.lower_cut [c] rest noneVisible, first, shape]
      simp [seen, visible, kept]

namespace Bare

theorem read_ending (text ending : String) (terms : List Term) (mode : Option Mode)
    (bare : Bare text.toList terms) (ends : ModeEnding ending.toList mode) :
    Expression.read .unlimited (text ++ ending) = .ok ⟨terms, mode⟩ := by
  obtain ⟨tail, words, modes, named⟩ :=
    ModeEnding.words_append text.toList _ mode ends (no_sigma _ terms bare)
  have cut := TailCut.of_plain_body _ tail (words_plain _ terms bare) modes
  rw [← words, ← String.toList_append] at cut
  rw [Expression.read_ok_iff .unlimited _ _ tail cut, Text.words_flatten, ← named, ← named]
  refine ⟨?_, named, bare.read⟩
  rintro ⟨better, worse⟩
  rw [better] at worse
  exact absurd worse (by decide)

/-- Bare texts are put together when the second one opens with a sign. -/
theorem append (front back : List Char) (terms others : List Term) (bareFront : Bare front terms)
    (bareBack : Bare back others) (opens : Run.OpensSigned back) :
    Bare (front ++ back) (terms ++ others) := by
  have low := Text.lower_append front back (no_sigma front terms bareFront)
    (no_sigma back others bareBack)
  constructor
  · intro c member
    rw [low] at member
    rcases List.mem_append.mp member with before | behind
    · exact bareFront.notational c before
    · exact bareBack.notational c behind
  · have readFront := bareFront.read
    have readBack := bareBack.read
    have nonempty : (Text.lower front).filter (fun c => !Text.isBlank c) ≠ [] := by
      intro empty
      rw [empty] at readFront
      cases readFront
    obtain ⟨sign, rest, shape, isSign⟩ :=
      (Run.opens_signed_iff back (no_sigma back others bareBack)).mp opens
    rw [low, List.filter_append]
    rw [Reader.terms_unlimited_eq _ nonempty] at readFront
    rw [Reader.terms_unlimited_eq _ (by simp [shape])] at readBack
    rw [Reader.terms_unlimited_eq _ (by simp [nonempty]),
      Run.split_append _ _ nonempty ⟨sign, rest, shape, isSign⟩, List.mapM_append, readFront,
      readBack]
    rfl

end Bare

/-- A resolution is two in turn, of which the second one starts with the source that the first one
leaves. Unless the first one runs dry, it asks for the dice of both and records them. -/
structure Resolution.InTurn (source : Source) (first second whole : Resolution) : Prop where
  complete : whole.complete = true ↔ first.complete = true ∧ second.complete = true
  details : first.complete = true → whole.details = first.details ++ second.details
  total : first.complete = true → whole.total = first.total + second.total
  left : first.complete = true → whole.source = second.source
  dry : first.complete = false → whole = first
  sizes : ∃ requests later, first.source.sizes = source.sizes ++ requests ∧
    second.source.sizes = first.source.sizes ++ later ∧
    (first.complete = true → whole.source.sizes = source.sizes ++ (requests ++ later))

theorem Resolution.in_turn (mode : Option Mode) (front back : List Term) (source : Source) :
    InTurn source (ofTerms mode front source)
      (ofTerms mode back (ofTerms mode front source).source)
      (ofTerms mode (front ++ back) source) := by
  obtain ⟨requests, asked, -⟩ := of_terms_sizes mode front source
  obtain ⟨later, askedLater, -⟩ := of_terms_sizes mode back (ofTerms mode front source).source
  have whole := of_terms_append mode front back source
  cases first : (ofTerms mode front source).complete with
  | false =>
      rw [first, if_neg Bool.false_ne_true] at whole
      rw [whole]
      exact {
        complete := by simp [first]
        details := by simp [first]
        total := by simp [first]
        left := by simp [first]
        dry := fun _ => rfl
        sizes := ⟨requests, later, asked, askedLater, by simp [first]⟩ }
  | true =>
      rw [first, if_pos rfl] at whole
      rw [whole]
      have both := askedLater
      rw [asked, List.append_assoc] at both
      exact {
        complete := by simp [first]
        details := fun _ => rfl
        total := fun _ => Detail.total_append _ _
        left := fun _ => rfl
        dry := by simp [first]
        sizes := ⟨requests, later, asked, askedLater, fun _ => both⟩ }

/-- Two notations without modes, the second of which opens with a sign, are read together as the
terms of both, also with one mode word at the end of the whole. The whole is rolled as the first one
and then the second one, each with the mode word at its own end. -/
theorem Expression.concatenation_in_turn (front back ending : String) (first second : Expression)
    (mode : Option Mode) (readFront : Expression.read .unlimited front = .ok first)
    (plainFront : first.mode = none) (readBack : Expression.read .unlimited back = .ok second)
    (plainBack : second.mode = none) (opens : Run.OpensSigned back.toList)
    (ends : ModeEnding ending.toList mode) :
    Expression.read .unlimited (front ++ back ++ ending) =
        .ok ⟨first.terms ++ second.terms, mode⟩ ∧
      Expression.read .unlimited (front ++ ending) = .ok ⟨first.terms, mode⟩ ∧
      Expression.read .unlimited (back ++ ending) = .ok ⟨second.terms, mode⟩ ∧
      ∀ source, Resolution.InTurn source (Expression.resolve ⟨first.terms, mode⟩ source)
        (Expression.resolve ⟨second.terms, mode⟩
          (Expression.resolve ⟨first.terms, mode⟩ source).source)
        (Expression.resolve ⟨first.terms ++ second.terms, mode⟩ source) := by
  have bareFront := bare_of_read front first readFront plainFront
  have bareBack := bare_of_read back second readBack plainBack
  have bareWhole : Bare (front ++ back).toList (first.terms ++ second.terms) := by
    rw [String.toList_append]
    exact Bare.append _ _ _ _ bareFront bareBack opens
  exact ⟨Bare.read_ending _ ending _ mode bareWhole ends,
    Bare.read_ending front ending _ mode bareFront ends,
    Bare.read_ending back ending _ mode bareBack ends,
    Resolution.in_turn mode first.terms second.terms⟩

/-- A pool and then a d20 with a modifier, the d20 under advantage. -/
theorem Expression.concatenation_in_turn_advantage :
    Expression.read .unlimited "2D6 + d20 -1 Adv" =
        .ok ⟨[.pool ⟨2, 6, none, by decide, by decide⟩,
          .pool ⟨1, 20, none, by decide, by decide⟩, .modifier (-1)], some .advantage⟩ ∧
      ∀ source, Resolution.InTurn source
        (Expression.resolve ⟨[.pool ⟨2, 6, none, by decide, by decide⟩], some .advantage⟩ source)
        (Expression.resolve
          ⟨[.pool ⟨1, 20, none, by decide, by decide⟩, .modifier (-1)], some .advantage⟩
          (Expression.resolve ⟨[.pool ⟨2, 6, none, by decide, by decide⟩], some .advantage⟩
            source).source)
        (Expression.resolve ⟨[.pool ⟨2, 6, none, by decide, by decide⟩,
          .pool ⟨1, 20, none, by decide, by decide⟩, .modifier (-1)], some .advantage⟩ source) := by
  have front : Expression.read .unlimited "2D6" =
      .ok ⟨[.pool ⟨2, 6, none, by decide, by decide⟩], none⟩ := by
    decide +kernel
  have back : Expression.read .unlimited " + d20 -1" =
      .ok ⟨[.pool ⟨1, 20, none, by decide, by decide⟩, .modifier (-1)], none⟩ := by
    decide +kernel
  have opens : Run.OpensSigned " + d20 -1".toList := ⟨'+', by decide, by decide⟩
  have ends : ModeEnding " Adv".toList (some .advantage) :=
    .word [' '] "Adv".toList .advantage (by decide) (List.forall_mem_singleton.mpr rfl) (by decide)
  obtain ⟨read, -, -, turns⟩ := concatenation_in_turn "2D6" " + d20 -1" " Adv" _ _
    (some .advantage) front rfl back rfl opens ends
  exact ⟨read, turns⟩

end DiceRoller
