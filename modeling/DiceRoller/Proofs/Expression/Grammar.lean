import DiceRoller.Expression.Item
import DiceRoller.Proofs.Expression.Runs
import DiceRoller.Proofs.Text.Digits

/-!
The grammar of dice notation, and what a sentence of it stands for. An item is digits alone, or
digits that may be absent, a d, digits, and perhaps the letters of a selector and its digits. A
sentence is a row of items, each behind its sign, and the first item may go without one. Every
text is spelled by at most one item, and the items of a sentence are spelled by its runs.
-/

namespace DiceRoller

inductive Item.Spells : List Char → Item → Prop where
  | flat (digits : List Char) : Numeral.Spelled digits → Spells digits (.flat digits)
  | plain (count sides : List Char) : (∀ c ∈ count, c.isDigit = true) → Numeral.Spelled sides →
      Spells (count ++ 'd' :: sides) (.dice count sides none)
  | selected (count sides : List Char) (kind : SelectorKind) (size : List Char) :
      (∀ c ∈ count, c.isDigit = true) → Numeral.Spelled sides → Numeral.Spelled size →
      Spells (count ++ 'd' :: (sides ++ (kind.letters ++ size)))
        (.dice count sides (some ⟨kind, size⟩))

/-- The numbers of an item, in the order in which they are read. -/
def Item.numbers : Item → List (List Char)
  | .flat digits => [digits]
  | .dice count sides none => [count, sides]
  | .dice count sides (some selector) => [count, sides, selector.size]

theorem Item.forall_dice_numbers (count sides : List Char) (spelling : Option SelectorSpelling)
    (property : List Char → Prop) :
    (∀ digits ∈ (Item.dice count sides spelling).numbers, property digits) ↔
      property count ∧ property sides ∧ ∀ given ∈ spelling, property given.size := by
  cases spelling <;> simp [numbers]

structure SignedItem where
  negative : Bool
  item : Item
  deriving DecidableEq, Repr

namespace SignedItem

def sign (signed : SignedItem) : Char :=
  if signed.negative then '-' else '+'

def Spells (run : List Char) (signed : SignedItem) : Prop :=
  ∃ body, run = signed.sign :: body ∧ Item.Spells body signed.item

def Admissible (signed : SignedItem) : Prop :=
  (∀ digits ∈ signed.item.numbers, Numeral.Short digits) ∧
    match signed.item with
    | .flat _ => True
    | .dice _ sides _ => signed.negative = false ∧ Numeral.value sides ≠ 0

end SignedItem

/-- `(sign item)*` -/
inductive Row : List Char → List SignedItem → Prop where
  | nil : Row [] []
  | cons (run rest : List Char) (signed : SignedItem) (later : List SignedItem) :
      signed.Spells run → Row rest later → Row (run ++ rest) (signed :: later)

/-- `sign? item (sign item)*` -/
inductive Sentence : List Char → List SignedItem → Prop where
  | signed (run rest : List Char) (first : SignedItem) (later : List SignedItem) :
      first.Spells run → Row rest later → Sentence (run ++ rest) (first :: later)
  | unsigned (body rest : List Char) (item : Item) (later : List SignedItem) :
      Item.Spells body item → Row rest later → Sentence (body ++ rest) (⟨false, item⟩ :: later)

/-- A selector of size zero stands for no selector. -/
def SelectorSpelling.Means : Option SelectorSpelling → Option Selector → Prop
  | none, selector => selector = none
  | some spelling, none => Numeral.value spelling.size = 0
  | some spelling, some selector =>
      selector.kind = spelling.kind ∧ selector.size = Numeral.value spelling.size

/-- A count of zero, like an absent one, stands for a single die. -/
def SignedItem.Means : SignedItem → Term → Prop
  | ⟨negative, .flat digits⟩, .modifier value =>
      value = if negative then -(Numeral.value digits : Int) else Numeral.value digits
  | ⟨_, .dice count sides spelling⟩, .pool pool =>
      pool.count = (if Numeral.value count = 0 then 1 else Numeral.value count) ∧
        pool.sides = Numeral.value sides ∧ SelectorSpelling.Means spelling pool.selector
  | _, _ => False

namespace Item

theorem takeWhile_digits (digits : List Char) (c : Char) (rest : List Char)
    (all : ∀ c ∈ digits, c.isDigit = true) (stop : c.isDigit = false) :
    (digits ++ c :: rest).takeWhile Char.isDigit = digits := by
  rw [List.takeWhile_append_of_pos all]
  simp [stop]

theorem dropWhile_digits (digits : List Char) (c : Char) (rest : List Char)
    (all : ∀ c ∈ digits, c.isDigit = true) (stop : c.isDigit = false) :
    (digits ++ c :: rest).dropWhile Char.isDigit = c :: rest := by
  rw [List.dropWhile_append_of_pos all]
  simp [stop]

theorem digits_cases (text : List Char) :
    (∀ c ∈ text, c.isDigit = true) ∨ ∃ digits c rest, text = digits ++ c :: rest ∧
      (∀ c ∈ digits, c.isDigit = true) ∧ c.isDigit = false := by
  induction text with
  | nil => exact Or.inl (by simp)
  | cons c rest ih =>
      by_cases digit : c.isDigit = true
      · rcases ih with all | ⟨digits, d, tail, rfl, all, stop⟩
        · exact Or.inl (List.forall_mem_cons.mpr ⟨digit, all⟩)
        · exact Or.inr ⟨c :: digits, d, tail, rfl, List.forall_mem_cons.mpr ⟨digit, all⟩, stop⟩
      · exact Or.inr ⟨[], c, rest, rfl, by simp, by simpa using digit⟩

theorem dice_of_digits (count sides : List Char) (all : ∀ c ∈ sides, c.isDigit = true) :
    diceOfChars? count sides = if sides.isEmpty then none else some (.dice count sides none) := by
  simp only [diceOfChars?, List.takeWhile_eq_self_iff.mpr all, List.dropWhile_eq_nil_iff.mpr all]

theorem dice_of_digits_cons (count sides : List Char) (c : Char) (tail : List Char)
    (all : ∀ c ∈ sides, c.isDigit = true) (stop : c.isDigit = false) :
    diceOfChars? count (sides ++ c :: tail) = if sides.isEmpty then none
      else (SelectorSpelling.ofChars? (c :: tail)).map fun selector =>
        .dice count sides (some selector) := by
  simp only [diceOfChars?, takeWhile_digits sides c tail all stop,
    dropWhile_digits sides c tail all stop]

theorem of_digits (digits : List Char) (all : ∀ c ∈ digits, c.isDigit = true) :
    ofChars? digits = if digits.isEmpty then none else some (.flat digits) := by
  simp only [ofChars?, List.takeWhile_eq_self_iff.mpr all, List.dropWhile_eq_nil_iff.mpr all]

theorem of_digits_d (digits rest : List Char) (all : ∀ c ∈ digits, c.isDigit = true) :
    ofChars? (digits ++ 'd' :: rest) = diceOfChars? digits rest := by
  simp only [ofChars?, takeWhile_digits digits 'd' rest all rfl,
    dropWhile_digits digits 'd' rest all rfl]

theorem of_digits_other (digits : List Char) (c : Char) (rest : List Char)
    (all : ∀ c ∈ digits, c.isDigit = true) (stop : c.isDigit = false) (other : c ≠ 'd') :
    ofChars? (digits ++ c :: rest) = none := by
  simp only [ofChars?, dropWhile_digits digits c rest all stop]
  split
  next ended => exact absurd ended (List.cons_ne_nil c rest)
  next here => exact absurd (List.cons.inj here).1 other
  next => rfl

theorem letters_of_code (code : List Char) (kind : SelectorKind)
    (known : SelectorKind.ofLetters? code = some kind) : code = kind.letters := by
  unfold SelectorKind.ofLetters? at known
  split at known
  all_goals cases known
  all_goals rfl

theorem selector_of_chars_iff (tail : List Char) (selector : SelectorSpelling) :
    SelectorSpelling.ofChars? tail = some selector ↔
      tail = selector.kind.letters ++ selector.size ∧ Numeral.Spelled selector.size := by
  constructor
  · intro found
    unfold SelectorSpelling.ofChars? at found
    split at found
    next first second size =>
      split at found
      next digits =>
        obtain ⟨kind, known, rfl⟩ := Option.map_eq_some_iff.mp found
        simp only [Bool.and_eq_true, Bool.not_eq_true', List.all_eq_true] at digits
        refine ⟨?_, List.isEmpty_eq_false_iff.mp digits.1, digits.2⟩
        rw [← letters_of_code _ _ known]
        rfl
      next => exact absurd found (by simp)
    next => exact absurd found (by simp)
  · rintro ⟨rfl, spelled⟩
    obtain ⟨kind, size⟩ := selector
    have digits : (!size.isEmpty && size.all Char.isDigit) = true := by
      simp only [Bool.and_eq_true, Bool.not_eq_true', List.all_eq_true]
      exact ⟨List.isEmpty_eq_false_iff.mpr spelled.nonempty, spelled.all⟩
    cases kind <;> simp [SelectorKind.letters, SelectorSpelling.ofChars?, digits,
      SelectorKind.ofLetters?]

theorem dice_of_chars_iff (count rest : List Char) (item : Item) :
    diceOfChars? count rest = some item ↔
      (Numeral.Spelled rest ∧ item = .dice count rest none) ∨
      ∃ sides kind size, Numeral.Spelled sides ∧ Numeral.Spelled size ∧
        rest = sides ++ (SelectorKind.letters kind ++ size) ∧
        item = .dice count sides (some ⟨kind, size⟩) := by
  constructor
  · intro found
    rcases digits_cases rest with all | ⟨sides, c, tail, rfl, all, stop⟩
    · rw [dice_of_digits count rest all] at found
      by_cases empty : rest.isEmpty = true
      · simp [empty] at found
      · simp only [empty, Bool.false_eq_true, if_false, Option.some.injEq] at found
        exact Or.inl ⟨⟨by simpa using empty, all⟩, found.symm⟩
    · rw [dice_of_digits_cons count sides c tail all stop] at found
      by_cases empty : sides.isEmpty = true
      · simp [empty] at found
      · simp only [empty, Bool.false_eq_true, if_false] at found
        obtain ⟨selector, known, rfl⟩ := Option.map_eq_some_iff.mp found
        obtain ⟨split, size⟩ := (selector_of_chars_iff _ selector).mp known
        exact Or.inr ⟨sides, selector.kind, selector.size, ⟨by simpa using empty, all⟩, size,
          by rw [split], rfl⟩
  · rintro (⟨spelled, rfl⟩ | ⟨sides, kind, size, spelled, sizeSpelled, rfl, rfl⟩)
    · rw [dice_of_digits count rest spelled.all]
      simp [spelled.nonempty]
    · have known := (selector_of_chars_iff (kind.letters ++ size) ⟨kind, size⟩).mpr
        ⟨rfl, sizeSpelled⟩
      obtain ⟨c, tail, split, stop⟩ : ∃ c tail,
          kind.letters ++ size = c :: tail ∧ c.isDigit = false := by
        cases kind <;> exact ⟨_, _, rfl, rfl⟩
      rw [split] at known ⊢
      rw [dice_of_digits_cons count sides c tail spelled.all stop]
      simp [spelled.nonempty, known]

/-- Reading an item inverts its spelling. -/
theorem of_chars_iff (body : List Char) (item : Item) :
    ofChars? body = some item ↔ Spells body item := by
  constructor
  · intro found
    -- Digits alone are a flat number; otherwise the first other character has to be the d.
    rcases digits_cases body with all | ⟨digits, c, rest, rfl, all, stop⟩
    · rw [of_digits body all] at found
      by_cases empty : body.isEmpty = true
      · simp [empty] at found
      · simp only [empty, Bool.false_eq_true, if_false, Option.some.injEq] at found
        rw [← found]
        exact .flat body ⟨by simpa using empty, all⟩
    · by_cases letter : c = 'd'
      · subst letter
        rw [of_digits_d digits rest all] at found
        rcases (dice_of_chars_iff digits rest item).mp found with
          ⟨spelled, rfl⟩ | ⟨sides, kind, size, spelled, sizeSpelled, rfl, rfl⟩
        · exact .plain digits rest all spelled
        · exact .selected digits sides kind size all spelled sizeSpelled
      · rw [of_digits_other digits c rest all stop letter] at found
        exact absurd found (by simp)
  · intro spells
    cases spells with
    | flat _ spelled =>
        rw [of_digits body spelled.all]
        simp [spelled.nonempty]
    | plain count sides all spelled =>
        rw [of_digits_d count sides all]
        exact (dice_of_chars_iff count sides _).mpr (Or.inl ⟨spelled, rfl⟩)
    | selected count sides kind size all spelled sizeSpelled =>
        rw [of_digits_d count _ all]
        exact (dice_of_chars_iff count _ _).mpr
          (Or.inr ⟨sides, kind, size, spelled, sizeSpelled, rfl, rfl⟩)

theorem spells_chars (body : List Char) (item : Item) (spells : Spells body item) :
    ∀ c ∈ body, c.isDigit = true ∨ c ∈ ['d', 'h', 'k', 'l'] := by
  have letters : ∀ kind : SelectorKind, ∀ c ∈ kind.letters, c ∈ ['d', 'h', 'k', 'l'] := by
    intro kind
    cases kind <;> simp [SelectorKind.letters]
  intro c member
  cases spells with
  | flat _ spelled => exact Or.inl (spelled.all c member)
  | plain count sides all spelled =>
      rcases List.mem_append.mp member with inCount | inRest
      · exact Or.inl (all c inCount)
      · rcases List.mem_cons.mp inRest with rfl | inSides
        · exact Or.inr List.mem_cons_self
        · exact Or.inl (spelled.all c inSides)
  | selected count sides kind size all spelled sizeSpelled =>
      rcases List.mem_append.mp member with inCount | inRest
      · exact Or.inl (all c inCount)
      · rcases List.mem_cons.mp inRest with rfl | inRest
        · exact Or.inr List.mem_cons_self
        · rcases List.mem_append.mp inRest with inSides | inRest
          · exact Or.inl (spelled.all c inSides)
          · rcases List.mem_append.mp inRest with inLetters | inSize
            · exact Or.inr (letters kind c inLetters)
            · exact Or.inl (sizeSpelled.all c inSize)

theorem digit_or_letter (c : Char) (known : c.isDigit = true ∨ c ∈ ['d', 'h', 'k', 'l']) :
    Run.isSign c = false ∧ Text.isBlank c = false ∧ Text.isPlain c = true := by
  rcases known with digit | letter
  · have zero : '0'.toNat = 48 := rfl
    have nine : '9'.toNat = 57 := rfl
    have bounds := Char.isDigit_iff_toNat.mp digit
    refine ⟨?_, ?_, ?_⟩
    · simp only [Run.isSign, Bool.or_eq_false_iff, beq_eq_false_iff_ne]
      constructor
      · rintro rfl
        exact absurd digit (by decide)
      · rintro rfl
        exact absurd digit (by decide)
    · simp [Text.isBlank, Text.isWhiteSpace]
      omega
    · rcases Text.ascii_lower_cases c with ⟨-, above, -⟩ | ⟨small, -⟩
      · omega
      · simp only [Text.isPlain, small, Bool.not_false, Bool.and_true, decide_eq_true_eq]
        omega
  · simp only [List.mem_cons, List.not_mem_nil, or_false] at letter
    rcases letter with rfl | rfl | rfl | rfl
    all_goals decide

theorem spells_plain (body : List Char) (item : Item) (spells : Spells body item) :
    ∀ c ∈ body, Run.isSign c = false :=
  fun c member => (digit_or_letter c (spells_chars body item spells c member)).1

theorem spells_digit (body : List Char) (item : Item) (spells : Spells body item) :
    ∃ c ∈ body, c.isDigit = true := by
  have first : ∀ digits, Numeral.Spelled digits → ∃ c ∈ digits, c.isDigit = true := by
    intro digits spelled
    obtain ⟨c, member⟩ := List.exists_mem_of_ne_nil digits spelled.nonempty
    exact ⟨c, member, spelled.all c member⟩
  cases spells with
  | flat _ spelled => exact first body spelled
  | plain count sides all spelled =>
      obtain ⟨c, member, digit⟩ := first sides spelled
      exact ⟨c, by simp [member], digit⟩
  | selected count sides kind size all spelled sizeSpelled =>
      obtain ⟨c, member, digit⟩ := first sides spelled
      exact ⟨c, by simp [member], digit⟩

theorem spells_ne_nil (body : List Char) (item : Item) (spells : Spells body item) : body ≠ [] := by
  cases spells with
  | flat _ spelled => exact spelled.nonempty
  | plain count sides => simp
  | selected count sides kind size => simp

theorem spells_unique (body : List Char) (item other : Item) (spells : Spells body item)
    (spellsOther : Spells body other) : item = other := by
  rw [← of_chars_iff] at spells spellsOther
  rw [spells] at spellsOther
  exact Option.some.inj spellsOther

theorem spells_last (body : List Char) (item : Item) (spells : Spells body item) :
    ∃ c ∈ body.getLast?, c.isDigit = true := by
  have number : ∃ front digits, body = front ++ digits ∧ Numeral.Spelled digits := by
    cases spells with
    | flat _ spelled => exact ⟨[], body, rfl, spelled⟩
    | plain count sides _ spelled => exact ⟨count ++ ['d'], sides, by simp, spelled⟩
    | selected count sides kind size _ _ spelled =>
        exact ⟨count ++ 'd' :: (sides ++ kind.letters), size, by simp, spelled⟩
  obtain ⟨front, digits, rfl, spelled⟩ := number
  have last := List.getLast?_eq_some_getLast spelled.nonempty
  refine ⟨digits.getLast spelled.nonempty, ?_, spelled.all _ (List.getLast_mem spelled.nonempty)⟩
  rw [List.getLast?_append_of_ne_nil front spelled.nonempty, last]
  rfl

theorem spells_numbers (body : List Char) (item : Item) (spells : Spells body item) :
    ∀ digits ∈ item.numbers, digits <:+: body ∧ ∀ c ∈ digits, c.isDigit = true := by
  intro digits member
  cases spells with
  | flat _ spelled =>
      rw [List.mem_singleton.mp member]
      exact ⟨List.infix_rfl, spelled.all⟩
  | plain count sides all spelled =>
      rcases List.mem_pair.mp member with rfl | rfl
      · exact ⟨List.infix_append_left, all⟩
      · exact ⟨⟨count ++ ['d'], [], by simp⟩, spelled.all⟩
  | selected count sides kind size all spelled sizeSpelled =>
      simp only [numbers, List.mem_cons, List.not_mem_nil, or_false] at member
      rcases member with rfl | rfl | rfl
      · exact ⟨List.infix_append_left, all⟩
      · exact ⟨⟨count ++ ['d'], kind.letters ++ size, by simp⟩, spelled.all⟩
      · exact ⟨⟨count ++ 'd' :: (sides ++ kind.letters), [], by simp⟩, sizeSpelled.all⟩

end Item

theorem SignedItem.sign_is_sign (signed : SignedItem) : Run.isSign signed.sign = true := by
  cases signed with
  | mk negative item => cases negative <;> rfl

theorem SignedItem.spells_is_run (run : List Char) (signed : SignedItem)
    (spells : signed.Spells run) : Run.IsRun run := by
  obtain ⟨body, rfl, spelled⟩ := spells
  exact ⟨signed.sign, body, rfl, signed.sign_is_sign, Item.spells_plain body _ spelled⟩

theorem SignedItem.spells_unique (run : List Char) (signed other : SignedItem)
    (spells : signed.Spells run) (spellsOther : other.Spells run) : signed = other := by
  obtain ⟨body, rfl, spelled⟩ := spells
  obtain ⟨bodyOther, same, spelledOther⟩ := spellsOther
  obtain ⟨sign, rfl⟩ := List.cons.inj same
  have items := Item.spells_unique body _ _ spelled spelledOther
  obtain ⟨negative, item⟩ := signed
  obtain ⟨negativeOther, itemOther⟩ := other
  cases negative <;> cases negativeOther <;> simp_all [SignedItem.sign]

theorem row_iff (text : List Char) (items : List SignedItem) :
    Row text items ↔ ∃ runs, text = runs.flatten ∧
      List.Forall₂ SignedItem.Spells runs items := by
  constructor
  · intro row
    induction row with
    | nil => exact ⟨[], rfl, .nil⟩
    | cons run rest signed later spells _ ih =>
        obtain ⟨runs, rfl, related⟩ := ih
        exact ⟨run :: runs, rfl, .cons spells related⟩
  · rintro ⟨runs, rfl, related⟩
    induction related with
    | nil => exact .nil
    | cons spells _ ih => exact .cons _ _ _ _ spells ih

theorem row_numbers (text : List Char) (items : List SignedItem) (row : Row text items) :
    ∀ signed ∈ items, ∀ digits ∈ signed.item.numbers,
      digits <:+: text ∧ ∀ c ∈ digits, c.isDigit = true := by
  induction row with
  | nil => simp
  | cons run rest first later spells _ ih =>
      obtain ⟨body, rfl, spelled⟩ := spells
      intro signed member digits number
      rcases List.mem_cons.mp member with rfl | behind
      · obtain ⟨inside, all⟩ := Item.spells_numbers body _ spelled digits number
        have inRun := inside.trans (List.suffix_cons signed.sign body).isInfix
        exact ⟨inRun.trans List.infix_append_left, all⟩
      · obtain ⟨inside, all⟩ := ih signed behind digits number
        exact ⟨inside.trans List.infix_append_right, all⟩

theorem sentence_numbers (text : List Char) (items : List SignedItem)
    (sentence : Sentence text items) :
    ∀ signed ∈ items, ∀ digits ∈ signed.item.numbers,
      digits <:+: text ∧ ∀ c ∈ digits, c.isDigit = true := by
  cases sentence with
  | signed run rest first later spells row =>
      exact row_numbers _ _ (.cons run rest first later spells row)
  | unsigned body rest item later spelled row =>
      intro signed member digits number
      rcases List.mem_cons.mp member with rfl | behind
      · obtain ⟨inside, all⟩ := Item.spells_numbers body _ spelled digits number
        exact ⟨inside.trans List.infix_append_left, all⟩
      · obtain ⟨inside, all⟩ := row_numbers rest later row signed behind digits number
        exact ⟨inside.trans List.infix_append_right, all⟩

theorem row_chars (text : List Char) (items : List SignedItem) (row : Row text items) :
    ∀ c ∈ text, Run.isSign c = true ∨ c.isDigit = true ∨ c ∈ ['d', 'h', 'k', 'l'] := by
  induction row with
  | nil => simp
  | cons run rest first later spells _ ih =>
      obtain ⟨body, rfl, spelled⟩ := spells
      intro c member
      rcases List.mem_append.mp member with here | behind
      · rcases List.mem_cons.mp here with rfl | inBody
        · exact Or.inl first.sign_is_sign
        · exact Or.inr (Item.spells_chars body _ spelled c inBody)
      · exact ih c behind

theorem sentence_chars (text : List Char) (items : List SignedItem)
    (sentence : Sentence text items) :
    ∀ c ∈ text, Run.isSign c = true ∨ c.isDigit = true ∨ c ∈ ['d', 'h', 'k', 'l'] := by
  cases sentence with
  | signed run rest first later spells row =>
      exact row_chars _ _ (.cons run rest first later spells row)
  | unsigned body rest item later spelled row =>
      intro c member
      rcases List.mem_append.mp member with here | behind
      · exact Or.inr (Item.spells_chars body item spelled c here)
      · exact row_chars rest later row c behind

theorem forall_is_run (runs : List (List Char)) (items : List SignedItem)
    (related : List.Forall₂ SignedItem.Spells runs items) :
    ∀ run ∈ runs, Run.IsRun run := by
  induction related with
  | nil => simp
  | cons spells _ ih =>
      exact List.forall_mem_cons.mpr ⟨SignedItem.spells_is_run _ _ spells, ih⟩

/-- The items of a sentence are spelled by its runs, one by one. -/
theorem sentence_iff_runs (text : List Char) (items : List SignedItem) :
    Sentence text items ↔ text ≠ [] ∧
      List.Forall₂ SignedItem.Spells (Run.split text) items := by
  constructor
  · intro sentence
    cases sentence with
    | signed run rest first later spells row =>
        obtain ⟨runs, rfl, related⟩ := (row_iff rest later).mp row
        have all := List.Forall₂.cons spells related
        obtain ⟨body, rfl, -⟩ := spells
        refine ⟨by simp, ?_⟩
        rw [(Run.split_eq_iff _ _).mpr ⟨?_, forall_is_run _ _ all⟩]
        · exact all
        · simp [Run.signed, first.sign_is_sign]
    | unsigned body rest item later spells row =>
        -- The cut puts a plus before an item without a sign.
        obtain ⟨runs, rfl, related⟩ := (row_iff rest later).mp row
        have first : SignedItem.Spells ('+' :: body) ⟨false, item⟩ := ⟨body, rfl, spells⟩
        have all := List.Forall₂.cons first related
        have nonempty := Item.spells_ne_nil body item spells
        refine ⟨by simp [nonempty], ?_⟩
        rw [(Run.split_eq_iff _ _).mpr ⟨?_, forall_is_run _ _ all⟩]
        · exact all
        · cases body with
          | nil => exact absurd rfl nonempty
          | cons c tail =>
              have plain := Item.spells_plain _ item spells c List.mem_cons_self
              simp [Run.signed, plain]
  · rintro ⟨nonempty, related⟩
    obtain ⟨whole, -⟩ := (Run.split_eq_iff text _).mp rfl
    generalize Run.split text = runs at whole related
    cases related with
    | nil =>
        obtain ⟨sign, rest, opens, -⟩ := Run.signed_opens text
        rw [opens] at whole
        exact absurd whole.symm (List.cons_ne_nil sign rest)
    | @cons run first runs later spells related =>
        have row := (row_iff runs.flatten later).mpr ⟨runs, rfl, related⟩
        cases text with
        | nil => exact absurd rfl nonempty
        | cons c tail =>
            by_cases sign : Run.isSign c = true
            · have same : c :: tail = run ++ runs.flatten := by
                simpa [Run.signed, sign] using whole.symm
              rw [same]
              exact .signed run runs.flatten first later spells row
            · obtain ⟨body, rfl, spelled⟩ := spells
              have same : first.sign = '+' ∧ body ++ runs.flatten = c :: tail := by
                simpa [Run.signed, sign] using whole
              obtain ⟨negative, item⟩ := first
              cases negative with
              | true => exact absurd same.1 (by simp [SignedItem.sign])
              | false =>
                  rw [← same.2]
                  exact .unsigned body runs.flatten item later spelled row

theorem sentence_unique (text : List Char) (items others : List SignedItem)
    (sentence : Sentence text items) (other : Sentence text others) : items = others := by
  have spelled := ((sentence_iff_runs text items).mp sentence).2
  have spelledOther := ((sentence_iff_runs text others).mp other).2
  exact List.right_unique_forall₂' SignedItem.spells_unique spelled spelledOther

end DiceRoller
