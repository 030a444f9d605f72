import DiceRoller.Proofs.Expression.Limiting
import DiceRoller.Proofs.Expression.Spelling
import DiceRoller.Proofs.Expression.Spoken
import Mathlib.Logic.Relation

/-!
Spellings of one notation. It may be written in letters of either case, with more or fewer blanks
where they do not touch the mode words behind it, with other spellings of its items, with or without
the plus of its first item, and with its mode words in any form. However often it is respelled, it
is read as the same expression.
-/

namespace DiceRoller

/-- Blanks and mode words, parted from what stands before them. -/
structure Trailing (text : List Char) : Prop where
  parted : ∀ c ∈ text.head?, Text.isBlank c = true
  modes : ∀ word ∈ Text.words (Text.lower text), ∃ mode : Mode, word ∈ mode.words

structure TrailingWord (mode : Mode) (before word behind : List Char) : Prop where
  parted : ∀ c ∈ before.getLast?, Text.isBlank c = true
  named : Text.lower word ∈ mode.words
  trailing : Trailing behind

/-- The two texts meet inside a word of the tail. -/
def MeetInTail (before behind : List Char) : Prop :=
  ∃ mode front first second rest, before = front ++ first ∧ behind = second ++ rest ∧
    first ≠ [] ∧ second ≠ [] ∧ TrailingWord mode front (first ++ second) rest

/-- Put together, a word of the tail is glued to what stands before it. -/
def GlueTail (before behind : List Char) : Prop :=
  (∃ c ∈ before.getLast?, Text.isBlank c = false) ∧
    ∃ (mode : Mode) (word rest : List Char), behind = word ++ rest ∧
      Text.lower word ∈ mode.words ∧ Trailing rest

/-- The text of one item, with letters of either case and with blanks, but none behind it. -/
structure Item.Shown (shown : List Char) (item : Item) : Prop where
  spells : Item.Spells ((Text.lower shown).filter fun c => !Text.isBlank c) item
  closed : ∀ c ∈ shown.getLast?, Text.isBlank c = false

/-- The places of an item: at the front or behind a sign, and before a sign or the tail. -/
structure ItemPlace (before behind : List Char) : Prop where
  opening : Run.Opening before
  closing : Run.OpensSigned behind ∨ Trailing behind

/-- One change of the spelling. -/
inductive Respelled : List Char → List Char → Prop
  | letters (text other : List Char) : other.map Char.toLower = text.map Char.toLower →
      Respelled text other
  | blankInserted (before behind : List Char) (blank : Char) : Text.isBlank blank = true →
      ¬ MeetInTail before behind → Respelled (before ++ behind) (before ++ blank :: behind)
  | blankDeleted (before behind : List Char) (blank : Char) : Text.isBlank blank = true →
      ¬ GlueTail before behind → Respelled (before ++ blank :: behind) (before ++ behind)
  | item (before shown other behind : List Char) (given changed : Item) :
      ItemPlace before behind → given.Shown shown → changed.Shown other →
      given.Respells changed → (∀ digits ∈ changed.numbers, digits.length ≤ Numeral.mostDigits) →
      Respelled (before ++ (shown ++ behind)) (before ++ (other ++ behind))
  | plusWritten (blanks behind : List Char) : (∀ c ∈ blanks, Text.isBlank c = true) →
      ¬ Run.OpensSigned behind → Respelled (blanks ++ behind) (blanks ++ '+' :: behind)
  | plusOmitted (blanks behind : List Char) : (∀ c ∈ blanks, Text.isBlank c = true) →
      Respelled (blanks ++ '+' :: behind) (blanks ++ behind)
  | modeWord (mode : Mode) (before word other behind : List Char) :
      TrailingWord mode before word behind → Text.lower other ∈ mode.words →
      Respelled (before ++ (word ++ behind)) (before ++ (other ++ behind))
  | modeRepeated (mode : Mode) (before word blanks other behind : List Char) :
      TrailingWord mode before word behind → blanks ≠ [] →
      (∀ c ∈ blanks, Text.isBlank c = true) → Text.lower other ∈ mode.words →
      Respelled (before ++ (word ++ behind)) (before ++ (word ++ (blanks ++ (other ++ behind))))

theorem Mode.no_sigma (mode : Mode) (word : List Char) (named : Text.lower word ∈ mode.words) :
    Text.NoSigma word :=
  fun c member => ((mode.word_visible _ named).2 c member).2

theorem Mode.words_lower (mode : Mode) (word : List Char) (named : Text.lower word ∈ mode.words) :
    Text.words (Text.lower word) = [Text.lower word] := by
  obtain ⟨filled, visible⟩ := mode.word_visible _ named
  exact Text.words_single _ filled fun c member => (visible c member).1

namespace Item.Shown
variable {shown : List Char} {item : Item}

theorem notational (shows : item.Shown shown) :
    ∀ c ∈ (Text.lower shown).filter (fun c => !Text.isBlank c), isNotational c = true := by
  intro c member
  rcases Item.spells_chars _ item shows.spells c member with digit | letter
  · simp [isNotational, digit]
  · simpa [isNotational] using Or.inr letter

theorem no_sigma (shows : item.Shown shown) : Text.NoSigma shown := by
  intro c member
  by_cases blank : Text.isBlank c = true
  · exact not_small_sigma c (by simp [isNotational, blank])
  · apply not_small_sigma c
    exact shows.notational c (List.mem_filter.mpr ⟨member, by simpa using blank⟩)

theorem ends_marked (shows : item.Shown shown) : EndsMarked (Text.lower shown) := by
  have none := shows.no_sigma
  obtain ⟨spells, closed⟩ := shows
  obtain ⟨digit, last, isDigit⟩ := Item.spells_last _ item spells
  refine ⟨digit, ?_, Or.inl isDigit⟩
  rcases List.eq_nil_or_concat shown with rfl | ⟨front, c, rfl⟩
  · cases last
  · rw [List.concat_eq_append] at none closed last ⊢
    have visible : Text.isBlank c = false := closed c (by simp)
    have solid := Text.lower_solid [c] (List.forall_mem_singleton.mpr visible)
    have filled := Text.lower_ne_nil [c] (List.cons_ne_nil c [])
    rw [Text.lower_cut front [c] none] at last ⊢
    rw [List.filter_append, Text.filter_solid _ solid,
      List.getLast?_append_of_ne_nil _ filled] at last
    rwa [List.getLast?_append_of_ne_nil _ filled]

end Item.Shown

theorem Run.opening_lower (before : List Char) (none : Text.NoSigma before)
    (opening : Run.Opening before) :
    Run.Opening ((Text.lower before).filter fun c => !Text.isBlank c) := by
  rcases opening with rfl | ⟨front, sign, rfl, isSign⟩
  · exact Or.inl rfl
  · have visible := visible_of_marked sign (Or.inr isSign)
    have same : Text.lower [sign] = [sign] := by
      rcases (Run.is_sign_iff sign).mp isSign with rfl | rfl <;> decide
    refine Or.inr ⟨(Text.lower front).filter fun c => !Text.isBlank c, sign, ?_, isSign⟩
    rw [Text.lower_cut front [sign] none, same, List.filter_append]
    simp [visible]

theorem Run.closing_of_place (text behind rest joined : List Char) (tail : List (List Char))
    (none : Text.NoSigma behind) (closing : Run.OpensSigned behind ∨ Trailing behind)
    (spoken : Spoken (Text.words (text ++ Text.lower behind)) joined tail)
    (whole : rest ++ tail.flatten = (Text.lower behind).filter fun c => !Text.isBlank c) :
    Run.Closing rest := by
  rcases closing with opens | ⟨parted, modes⟩
  · obtain ⟨sign, later, shape, isSign⟩ := (Run.opens_signed_iff behind none).mp opens
    rw [shape] at whole
    cases rest with
    | nil => exact Or.inl rfl
    | cons c rest =>
        obtain ⟨rfl, -⟩ := List.cons.inj whole
        exact Or.inr ⟨c, rest, rfl, isSign⟩
  · -- The tail has all the words behind the item, so nothing is left of them.
    rw [Text.words_append_of_opens text _ (Text.lower_opens behind none parted)] at spoken
    obtain ⟨earlier, rfl⟩ := spoken.of_mode_words _ _ joined tail modes
    rw [← Text.words_flatten, List.flatten_append, ← List.append_assoc] at whole
    have nothing := List.append_left_eq_self.mp whole
    exact Or.inl (List.append_eq_nil_iff.mp nothing).1

structure Meeting (before behind front first second rest : List Char) : Prop where
  left : before = front ++ first
  right : behind = second ++ rest
  filled : first ≠ [] ∧ second ≠ []
  solid : (∀ c ∈ first, Text.isBlank c = false) ∧ ∀ c ∈ second, Text.isBlank c = false
  ends : ∀ c ∈ front.getLast?, Text.isBlank c = true
  opens : ∀ c ∈ rest.head?, Text.isBlank c = true

namespace Meeting
variable {before behind front first second rest : List Char}

theorem words_eq (meets : Meeting before behind front first second rest)
    (none : Text.NoSigma (before ++ behind)) :
    Text.words (Text.lower (before ++ behind)) = Text.words (Text.lower front) ++
        (Text.lower first ++ Text.lower second) :: Text.words (Text.lower rest) ∧
      Text.words (Text.lower before) = Text.words (Text.lower front) ++ [Text.lower first] ∧
      Text.words (Text.lower behind) = Text.lower second :: Text.words (Text.lower rest) := by
  obtain ⟨rfl, rfl, ⟨filledFirst, filledSecond⟩, ⟨solidFirst, solidSecond⟩, ends, opens⟩ := meets
  obtain ⟨noneBefore, noneBehind⟩ := Text.NoSigma.of_append _ _ none
  obtain ⟨noneFront, -⟩ := Text.NoSigma.of_append _ _ noneBefore
  obtain ⟨-, noneRest⟩ := Text.NoSigma.of_append _ _ noneBehind
  have endsLow := Text.lower_ends front noneFront ends
  have opensLow := Text.lower_opens rest noneRest opens
  have lowFirst := Text.lower_solid first solidFirst
  have lowSecond := Text.lower_solid second solidSecond
  have some := Text.lower_ne_nil first filledFirst
  rw [Text.lower_cut _ _ none, Text.lower_cut _ _ noneBefore, Text.lower_cut _ _ noneBehind]
  refine ⟨?_, ?_, ?_⟩
  · rw [List.append_assoc, ← List.append_assoc (Text.lower first),
      Text.words_between _ _ _ endsLow opensLow,
      Text.words_single _ (by simp [some]) (List.forall_mem_append.mpr ⟨lowFirst, lowSecond⟩)]
    rfl
  · rw [Text.words_append_of_ends _ _ endsLow, Text.words_single _ some lowFirst]
  · rw [Text.words_append_of_opens _ _ opensLow,
      Text.words_single _ (Text.lower_ne_nil second filledSecond) lowSecond]
    rfl

end Meeting

/-- Unless a word lies across, the words of the whole are those of its parts. -/
theorem meeting_cases (before behind : List Char) (none : Text.NoSigma (before ++ behind)) :
    Text.words (Text.lower (before ++ behind)) =
        Text.words (Text.lower before) ++ Text.words (Text.lower behind) ∨
      ∃ front first second rest, Meeting before behind front first second rest := by
  obtain ⟨noneBefore, noneBehind⟩ := Text.NoSigma.of_append before behind none
  obtain ⟨front, first, left, ends, solidFirst⟩ := Text.exists_last_word before
  obtain ⟨second, rest, right, solidSecond, opens⟩ := Text.exists_first_word behind
  by_cases emptyFirst : first = []
  · rw [emptyFirst, List.append_nil] at left
    rw [← left] at ends
    left
    rw [Text.lower_cut before behind none,
      Text.words_append_of_ends _ _ (Text.lower_ends before noneBefore ends)]
  · by_cases emptySecond : second = []
    · rw [emptySecond, List.nil_append] at right
      rw [← right] at opens
      left
      rw [Text.lower_cut before behind none,
        Text.words_append_of_opens _ _ (Text.lower_opens behind noneBehind opens)]
    · exact Or.inr ⟨front, first, second, rest, left, right, ⟨emptyFirst, emptySecond⟩,
        ⟨solidFirst, solidSecond⟩, ends, opens⟩

theorem words_lower_blank (before behind : List Char) (blank : Char)
    (none : Text.NoSigma (before ++ behind)) (parts : Text.isBlank blank = true) :
    Text.words (Text.lower (before ++ blank :: behind)) =
      Text.words (Text.lower before) ++ Text.words (Text.lower behind) := by
  obtain ⟨noneBefore, noneBehind⟩ := Text.NoSigma.of_append before behind none
  have single : ∀ c ∈ [blank], Text.isBlank c = true := List.forall_mem_singleton.mpr parts
  have noneBlank := no_sigma_blanks [blank] single
  rw [← List.singleton_append,
    Text.lower_append before _ noneBefore (.append [blank] behind noneBlank noneBehind),
    Text.lower_append [blank] behind noneBlank noneBehind, Text.lower_blanks [blank] single]
  exact Text.words_append_blank _ blank _ parts

theorem no_sigma_plus : Text.NoSigma ['+'] := by
  have same : Text.lower ['+'] = ['+'] := by decide
  unfold Text.NoSigma
  rw [same]
  exact List.forall_mem_singleton.mpr rfl

theorem lower_plus (text : List Char) (none : Text.NoSigma text) :
    Text.lower ('+' :: text) = '+' :: Text.lower text :=
  Text.lower_append ['+'] text no_sigma_plus none

theorem words_lower_blanks (blanks text : List Char)
    (parts : ∀ c ∈ blanks, Text.isBlank c = true) (none : Text.NoSigma text) :
    Text.words (Text.lower (blanks ++ text)) = Text.words (Text.lower text) := by
  rw [Text.lower_append blanks text (no_sigma_blanks blanks parts) none,
    Text.lower_blanks blanks parts, Text.words_blanks_append blanks _ parts]

namespace Spelt
variable {expression : Expression}

theorem of_words (text other : List Char) (spelt : Spelt text expression)
    (same : Text.words (Text.lower other) = Text.words (Text.lower text)) :
    Spelt other expression := by
  obtain ⟨joined, tail, spoken, read⟩ := spelt
  rw [← same] at spoken
  exact ⟨joined, tail, spoken, read⟩

theorem no_sigma (text : List Char) (spelt : Spelt text expression) : Text.NoSigma text := by
  obtain ⟨joined, tail, spoken, -⟩ := spelt
  exact spoken.no_sigma text joined tail

theorem item (before shown other behind : List Char) (given changed : Item)
    (place : ItemPlace before behind) (shows : given.Shown shown) (showsOther : changed.Shown other)
    (respells : given.Respells changed)
    (fits : ∀ digits ∈ changed.numbers, digits.length ≤ Numeral.mostDigits)
    (spelt : Spelt (before ++ (shown ++ behind)) expression) :
    Spelt (before ++ (other ++ behind)) expression := by
  have none := spelt.no_sigma
  obtain ⟨noneBefore, noneRest⟩ := Text.NoSigma.of_append before _ none
  obtain ⟨-, noneBehind⟩ := Text.NoSigma.of_append shown behind noneRest
  have noneShown := Text.NoSigma.append before shown noneBefore shows.no_sigma
  have noneOther := Text.NoSigma.append before other noneBefore showsOther.no_sigma
  obtain ⟨joined, tail, spoken, found, named⟩ := spelt
  rw [← List.append_assoc, Text.lower_append _ behind noneShown noneBehind,
    Text.lower_cut before shown noneShown] at spoken
  obtain ⟨rest, rfl, whole, exchange⟩ :=
    spoken.behind_mark _ _ joined tail (shows.ends_marked.append (Text.lower before))
  have closing := Run.closing_of_place _ behind rest _ tail noneBehind place.closing spoken whole
  have opening := Run.opening_lower before noneBefore place.opening
  have notational : ∀ c ∈ (Text.lower before ++ Text.lower other).filter
      (fun c => !Text.isBlank c), isNotational c = true := by
    intro c member
    rw [List.filter_append] at member
    rcases List.mem_append.mp member with inBefore | inOther
    · exact spoken.notational c (by simp [List.mem_filter.mp inBefore])
    · exact showsOther.notational c inOther
  have changes := exchange _ (showsOther.ends_marked.append (Text.lower before)) notational
  rw [List.filter_append, List.append_assoc] at found
  have read := Reader.terms_respelled _ rest _ _ given changed _ opening closing shows.spells
    showsOther.spells respells fits found
  rw [← List.append_assoc, ← List.filter_append] at read
  rw [← Text.lower_cut before other noneOther] at changes read
  rw [← Text.lower_append _ behind noneOther noneBehind, List.append_assoc] at changes
  exact ⟨_, tail, changes, read, named⟩

theorem blank_inserted (before behind : List Char) (blank : Char)
    (parts : Text.isBlank blank = true) (free : ¬ MeetInTail before behind)
    (spelt : Spelt (before ++ behind) expression) :
    Spelt (before ++ blank :: behind) expression := by
  have none := spelt.no_sigma
  have words := words_lower_blank before behind blank none parts
  rcases meeting_cases before behind none with same | ⟨front, first, second, rest, meets⟩
  · exact spelt.of_words _ _ (words.trans same.symm)
  · obtain ⟨whole, wordsBefore, wordsBehind⟩ := meets.words_eq none
    obtain ⟨joined, tail, spoken, read⟩ := spelt
    rw [whole] at spoken
    refine ⟨joined, tail, ?_, read⟩
    rw [words, wordsBefore, wordsBehind, List.append_assoc]
    apply spoken.cut_word
    rintro ⟨⟨mode, named⟩, modes⟩
    obtain ⟨rfl, rfl, ⟨filledFirst, filledSecond⟩, -, ends, opens⟩ := meets
    refine free ⟨mode, front, first, second, rest, rfl, rfl, filledFirst, filledSecond, ends, ?_,
      opens, modes⟩
    obtain ⟨noneBefore, noneBehind⟩ := Text.NoSigma.of_append _ _ none
    obtain ⟨-, noneFirst⟩ := Text.NoSigma.of_append _ _ noneBefore
    obtain ⟨noneSecond, -⟩ := Text.NoSigma.of_append _ _ noneBehind
    rwa [Text.lower_append first second noneFirst noneSecond]

theorem blank_deleted (before behind : List Char) (blank : Char)
    (parts : Text.isBlank blank = true) (free : ¬ GlueTail before behind)
    (spelt : Spelt (before ++ blank :: behind) expression) :
    Spelt (before ++ behind) expression := by
  have noneBlank := spelt.no_sigma
  obtain ⟨noneBefore, noneRest⟩ := Text.NoSigma.of_append before _ noneBlank
  obtain ⟨-, noneBehind⟩ := Text.NoSigma.of_append [blank] behind noneRest
  have none := Text.NoSigma.append before behind noneBefore noneBehind
  have words := words_lower_blank before behind blank none parts
  rcases meeting_cases before behind none with same | ⟨front, first, second, rest, meets⟩
  · exact spelt.of_words _ _ (same.trans words.symm)
  · obtain ⟨whole, wordsBefore, wordsBehind⟩ := meets.words_eq none
    obtain ⟨joined, tail, spoken, read⟩ := spelt
    rw [words, wordsBefore, wordsBehind, List.append_assoc] at spoken
    refine ⟨joined, tail, ?_, read⟩
    rw [whole]
    apply spoken.join_words
    rintro ⟨⟨mode, named⟩, modes⟩
    obtain ⟨rfl, rfl, ⟨filled, -⟩, ⟨solid, -⟩, -, opens⟩ := meets
    refine free ⟨⟨first.getLast filled, ?_, solid _ (List.getLast_mem filled)⟩, mode, second, rest,
      rfl, named, opens, modes⟩
    rw [List.getLast?_append_of_ne_nil front filled, List.getLast?_eq_some_getLast filled]
    rfl

theorem plus_written (blanks behind : List Char) (parts : ∀ c ∈ blanks, Text.isBlank c = true)
    (unsigned : ¬ Run.OpensSigned behind) (spelt : Spelt (blanks ++ behind) expression) :
    Spelt (blanks ++ '+' :: behind) expression := by
  obtain ⟨-, none⟩ := Text.NoSigma.of_append blanks behind spelt.no_sigma
  obtain ⟨joined, tail, spoken, read, named⟩ := spelt
  rw [words_lower_blanks blanks behind parts none] at spoken
  have filled : joined ≠ [] := by
    rintro rfl
    cases read
  have plain : ∀ c ∈ joined.head?, Run.isSign c = false := by
    intro c first
    obtain ⟨rest, rfl⟩ := List.head?_eq_some_iff.mp first
    rw [← Bool.not_eq_true]
    intro isSign
    obtain ⟨body, whole, joins⟩ := spoken.split
    refine unsigned ((Run.opens_signed_iff behind none).mpr ⟨c, rest ++ tail.flatten, ?_, isSign⟩)
    rw [← Text.words_flatten, whole, List.flatten_append, joins]
    rfl
  refine ⟨'+' :: joined, tail, ?_, (Reader.terms_plus_iff joined _).mpr ⟨read, plain⟩, named⟩
  have nonePlus : Text.NoSigma ('+' :: behind) := .append ['+'] behind no_sigma_plus none
  rw [words_lower_blanks blanks _ parts nonePlus, lower_plus behind none]
  exact spoken.plus_written _ joined tail filled

theorem plus_omitted (blanks behind : List Char) (parts : ∀ c ∈ blanks, Text.isBlank c = true)
    (spelt : Spelt (blanks ++ '+' :: behind) expression) :
    Spelt (blanks ++ behind) expression := by
  obtain ⟨-, nonePlus⟩ := Text.NoSigma.of_append blanks _ spelt.no_sigma
  obtain ⟨-, none⟩ := Text.NoSigma.of_append ['+'] behind nonePlus
  obtain ⟨signed, tail, spoken, read, named⟩ := spelt
  rw [words_lower_blanks blanks _ parts nonePlus, lower_plus behind none] at spoken
  obtain ⟨joined, rfl, omitted⟩ := spoken.plus_omitted _ signed tail
  refine ⟨joined, tail, ?_, ((Reader.terms_plus_iff joined _).mp read).1, named⟩
  rwa [words_lower_blanks blanks behind parts none]

theorem reworded (mode : Mode) (before word changed behind : List Char)
    (place : TrailingWord mode before word behind) (noneChanged : Text.NoSigma changed)
    (filled : Text.words (Text.lower changed) ≠ [])
    (all : ∀ other ∈ Text.words (Text.lower changed), other ∈ mode.words)
    (spelt : Spelt (before ++ (word ++ behind)) expression) :
    Spelt (before ++ (changed ++ behind)) expression := by
  obtain ⟨noneBefore, noneRest⟩ := Text.NoSigma.of_append before _ spelt.no_sigma
  obtain ⟨noneWord, noneBehind⟩ := Text.NoSigma.of_append word behind noneRest
  have ends := Text.lower_ends before noneBefore place.parted
  have opens := Text.lower_opens behind noneBehind place.trailing.parted
  obtain ⟨joined, tail, spoken, read, named⟩ := spelt
  rw [Text.lower_append before _ noneBefore noneRest,
    Text.lower_append word behind noneWord noneBehind, Text.words_between _ _ _ ends opens,
    mode.words_lower word place.named] at spoken
  obtain ⟨other, changes, modes⟩ := spoken.reworded _ _ _ _ joined tail mode place.named filled all
  refine ⟨joined, other, ?_, read, fun found => (named found).trans (modes found).symm⟩
  rwa [Text.lower_append before _ noneBefore (.append changed behind noneChanged noneBehind),
    Text.lower_append changed behind noneChanged noneBehind, Text.words_between _ _ _ ends opens]

theorem mode_word (mode : Mode) (before word other behind : List Char)
    (place : TrailingWord mode before word behind) (spelled : Text.lower other ∈ mode.words)
    (spelt : Spelt (before ++ (word ++ behind)) expression) :
    Spelt (before ++ (other ++ behind)) expression := by
  have single := mode.words_lower other spelled
  apply spelt.reworded mode before word other behind place (mode.no_sigma other spelled)
  · rw [single]
    exact List.cons_ne_nil _ _
  · rw [single]
    exact List.forall_mem_singleton.mpr spelled

theorem mode_repeated (mode : Mode) (before word blanks other behind : List Char)
    (place : TrailingWord mode before word behind) (apart : blanks ≠ [])
    (parts : ∀ c ∈ blanks, Text.isBlank c = true) (spelled : Text.lower other ∈ mode.words)
    (spelt : Spelt (before ++ (word ++ behind)) expression) :
    Spelt (before ++ (word ++ (blanks ++ (other ++ behind)))) expression := by
  have noneWord := mode.no_sigma word place.named
  have noneOther := mode.no_sigma other spelled
  have noneBlanks := no_sigma_blanks blanks parts
  have both : Text.words (Text.lower (word ++ (blanks ++ other))) =
      [Text.lower word, Text.lower other] := by
    rw [Text.lower_append word _ noneWord (.append blanks other noneBlanks noneOther),
      Text.lower_append blanks other noneBlanks noneOther, Text.lower_blanks blanks parts,
      Text.words_append_blanks _ blanks _ apart parts, mode.words_lower word place.named,
      mode.words_lower other spelled]
    rfl
  have noneBoth := Text.NoSigma.append word _ noneWord (.append blanks other noneBlanks noneOther)
  have whole : before ++ (word ++ (blanks ++ (other ++ behind))) =
      before ++ ((word ++ (blanks ++ other)) ++ behind) := by simp
  rw [whole]
  apply spelt.reworded mode before word (word ++ (blanks ++ other)) behind place noneBoth
  · rw [both]
    exact List.cons_ne_nil _ _
  · rw [both]
    intro found member
    rcases List.mem_pair.mp member with rfl | rfl
    · exact place.named
    · exact spelled

theorem respelled (text other : List Char) (step : Respelled text other)
    (spelt : Spelt text expression) : Spelt other expression := by
  cases step with
  | letters text other same =>
      apply spelt.of_words
      rw [Text.lower_same_letters text other same]
  | blankInserted before behind blank parts free =>
      exact spelt.blank_inserted before behind blank parts free
  | blankDeleted before behind blank parts free =>
      exact spelt.blank_deleted before behind blank parts free
  | item before shown other behind given changed place shows showsOther respells fits =>
      exact spelt.item before shown other behind given changed place shows showsOther respells fits
  | plusWritten blanks behind parts unsigned =>
      exact spelt.plus_written blanks behind parts unsigned
  | plusOmitted blanks behind parts => exact spelt.plus_omitted blanks behind parts
  | modeWord mode before word other behind place spelled =>
      exact spelt.mode_word mode before word other behind place spelled
  | modeRepeated mode before word blanks other behind place apart parts spelled =>
      exact spelt.mode_repeated mode before word blanks other behind place apart parts spelled

end Spelt

/-- What is read under any limits is read under them in every other spelling. -/
theorem Expression.read_respelled (limits : Limits) (text other : String) (expression : Expression)
    (read : Expression.read limits text = .ok expression)
    (steps : Relation.ReflTransGen Respelled text.toList other.toList) :
    Expression.read limits other = .ok expression := by
  have within := (read_small limits text expression read).2.1
  have free : Expression.read .unlimited text = .ok expression := by
    rcases read_filtered limits text with same | ⟨error, limited, -⟩
    · exact same.symm.trans read
    · rw [read] at limited
      cases limited
  have spelt : Spelt other.toList expression := by
    generalize other.toList = last at steps
    induction steps with
    | refl => exact (read_spelt_iff text expression).mp free
    | tail _ step ih => exact ih.respelled _ _ step
  exact read_within limits other expression ((read_spelt_iff other expression).mpr spelt) within

/-- A die that gets a count, the plus in front of it, and a mode that is named once more. -/
theorem Expression.read_respelled_die :
    let expression : Expression :=
      ⟨[.pool ⟨1, 6, none, by decide, by decide⟩, .modifier 1], some .advantage⟩
    Expression.read ⟨some 1, some 6, some 2⟩ "d6 + 1 Adv" = .ok expression ∧
      Relation.ReflTransGen Respelled "d6 + 1 Adv".toList "+0 1D6 + 1 Adv\tadvantage".toList ∧
      Expression.read ⟨some 1, some 6, some 2⟩ "+0 1D6 + 1 Adv\tadvantage" = .ok expression := by
  intro expression
  have read : Expression.read ⟨some 1, some 6, some 2⟩ "d6 + 1 Adv" = .ok expression := by
    decide +kernel
  have place : ItemPlace [] " + 1 Adv".toList := ⟨.inl rfl, .inl ⟨'+', by decide, by decide⟩⟩
  have sides : Numeral.Spelled ['6'] := ⟨by decide, List.all_eq_true.mp rfl⟩
  have shows : Item.Shown "d6".toList (.dice [] ['6'] none) :=
    ⟨.plain [] ['6'] (by simp) sides, by rintro c ⟨⟩; rfl⟩
  have showsOther : Item.Shown "0 1D6".toList (.dice ['0', '1'] ['6'] none) :=
    ⟨.plain ['0', '1'] ['6'] (List.all_eq_true.mp rfl) sides, by rintro c ⟨⟩; rfl⟩
  have counted : Respelled "d6 + 1 Adv".toList "0 1D6 + 1 Adv".toList :=
    .item [] "d6".toList "0 1D6".toList " + 1 Adv".toList _ _ place shows showsOther
      (.single [] ['0', '1'] ['6'] none ⟨0, .inl rfl⟩ ⟨1, .inr rfl⟩) (by decide)
  have unsigned : ¬ Run.OpensSigned "0 1D6 + 1 Adv".toList := by
    rintro ⟨sign, first, isSign⟩
    obtain rfl : '0' = sign := Option.some.inj first
    exact absurd isSign (by decide)
  have signed : Respelled "0 1D6 + 1 Adv".toList "+0 1D6 + 1 Adv".toList :=
    .plusWritten [] "0 1D6 + 1 Adv".toList (by simp) unsigned
  have trailing : TrailingWord .advantage "+0 1D6 + 1 ".toList "Adv".toList [] :=
    ⟨by rintro c ⟨⟩; rfl, by decide, by simp, by simp [Text.lower, Text.lowerFrom]⟩
  have twice : Respelled "+0 1D6 + 1 Adv".toList "+0 1D6 + 1 Adv\tadvantage".toList :=
    .modeRepeated .advantage _ _ ['\t'] "advantage".toList [] trailing (by decide)
      (List.forall_mem_singleton.mpr rfl) (by decide)
  have steps := Relation.ReflTransGen.head counted (.head signed (.single twice))
  exact ⟨read, steps, read_respelled _ "d6 + 1 Adv" _ expression read steps⟩

end DiceRoller
