import DiceRoller.Proofs.Expression.Acceptance

/-!
Spellings of one item. More zeros may stand in front of its numbers, a single die needs no count,
and a selector that takes nothing may be left out. Wherever the item stands in a sentence, the same
terms are read in any of its spellings, and they are read with the plus of the first item or
without it.
-/

namespace DiceRoller

/-- A count that rolls a single die: zeros, and perhaps a one behind them. -/
def Numeral.Single (digits : List Char) : Prop :=
  ∃ zeros, digits = List.replicate zeros '0' ∨ digits = List.replicate zeros '0' ++ ['1']

inductive Item.Respells : Item → Item → Prop
  | flat (zeros : Nat) (digits : List Char) :
      Respells (.flat digits) (.flat (List.replicate zeros '0' ++ digits))
  | count (zeros : Nat) (count sides : List Char) (selector : Option SelectorSpelling) :
      Respells (.dice count sides selector)
        (.dice (List.replicate zeros '0' ++ count) sides selector)
  | sides (zeros : Nat) (count sides : List Char) (selector : Option SelectorSpelling) :
      Respells (.dice count sides selector)
        (.dice count (List.replicate zeros '0' ++ sides) selector)
  | size (zeros : Nat) (count sides : List Char) (kind : SelectorKind) (size : List Char) :
      Respells (.dice count sides (some ⟨kind, size⟩))
        (.dice count sides (some ⟨kind, List.replicate zeros '0' ++ size⟩))
  | single (count other sides : List Char) (selector : Option SelectorSpelling) :
      Numeral.Single count → Numeral.Single other →
      Respells (.dice count sides selector) (.dice other sides selector)
  | select (count sides : List Char) (kind : SelectorKind) (zeros : Nat) :
      Respells (.dice count sides none)
        (.dice count sides (some ⟨kind, List.replicate zeros '0'⟩))
  | unselect (count sides : List Char) (kind : SelectorKind) (zeros : Nat) :
      Respells (.dice count sides (some ⟨kind, List.replicate zeros '0'⟩))
        (.dice count sides none)

namespace Numeral

theorem Single.short (digits : List Char) (single : Single digits) : Short digits := by
  obtain ⟨zeros, rfl | rfl⟩ := single
  · exact short_replicate zeros
  · exact ⟨zeros, ['1'], rfl, by decide⟩

theorem Single.counted (digits : List Char) (single : Single digits) :
    (if value digits = 0 then 1 else value digits) = 1 := by
  obtain ⟨zeros, rfl | rfl⟩ := single
  · rw [value_replicate, if_pos rfl]
  · rw [value_zeros]
    rfl

end Numeral

theorem SelectorSpelling.zeros_mean (kind : SelectorKind) (zeros : Nat)
    (selector : Option Selector) :
    SelectorSpelling.Means (some ⟨kind, List.replicate zeros '0'⟩) selector ↔
      SelectorSpelling.Means none selector := by
  have nothing := Numeral.value_replicate zeros
  cases selector with
  | none => simp [SelectorSpelling.Means, nothing]
  | some chosen =>
      have positive := chosen.size_pos
      simp only [SelectorSpelling.Means, nothing, reduceCtorEq, iff_false, not_and]
      exact fun _ => Nat.ne_of_gt positive

namespace SignedItem

theorem admissible_dice_iff (negative : Bool) (count sides : List Char)
    (selector : Option SelectorSpelling) :
    Admissible ⟨negative, .dice count sides selector⟩ ↔
      (Numeral.Short count ∧ Numeral.Short sides ∧
        ∀ given ∈ selector, Numeral.Short given.size) ∧
      negative = false ∧ Numeral.value sides ≠ 0 :=
  and_congr_left' (Item.forall_dice_numbers count sides selector _)

theorem admissible_respelled (negative : Bool) (item other : Item)
    (respells : Item.Respells item other) (admissible : Admissible ⟨negative, item⟩) :
    Admissible ⟨negative, other⟩ := by
  cases respells with
  | flat zeros digits =>
      have short := admissible.1 digits (by simp [Item.numbers])
      exact ⟨List.forall_mem_singleton.mpr (Numeral.short_zeros zeros digits short), trivial⟩
  | count zeros count sides selector =>
      rw [admissible_dice_iff] at admissible ⊢
      obtain ⟨⟨short, others⟩, rest⟩ := admissible
      exact ⟨⟨Numeral.short_zeros zeros count short, others⟩, rest⟩
  | sides zeros count sides selector =>
      rw [admissible_dice_iff] at admissible ⊢
      obtain ⟨⟨countShort, short, size⟩, positive, faces⟩ := admissible
      rw [Numeral.value_zeros]
      exact ⟨⟨countShort, Numeral.short_zeros zeros sides short, size⟩, positive, faces⟩
  | size zeros count sides kind size =>
      rw [admissible_dice_iff] at admissible ⊢
      obtain ⟨⟨countShort, sidesShort, short⟩, rest⟩ := admissible
      have longer := Numeral.short_zeros zeros size (short _ rfl)
      exact ⟨⟨countShort, sidesShort, by simpa using longer⟩, rest⟩
  | single count other sides selector single singleOther =>
      rw [admissible_dice_iff] at admissible ⊢
      obtain ⟨⟨-, others⟩, rest⟩ := admissible
      exact ⟨⟨Numeral.Single.short other singleOther, others⟩, rest⟩
  | select count sides kind zeros =>
      rw [admissible_dice_iff] at admissible ⊢
      obtain ⟨⟨countShort, sidesShort, -⟩, rest⟩ := admissible
      have short := Numeral.short_replicate zeros
      exact ⟨⟨countShort, sidesShort, by simpa using short⟩, rest⟩
  | unselect count sides kind zeros =>
      rw [admissible_dice_iff] at admissible ⊢
      obtain ⟨⟨countShort, sidesShort, -⟩, rest⟩ := admissible
      exact ⟨⟨countShort, sidesShort, by simp⟩, rest⟩

theorem means_respelled (negative : Bool) (item other : Item) (term : Term)
    (respells : Item.Respells item other) :
    Means ⟨negative, other⟩ term ↔ Means ⟨negative, item⟩ term := by
  cases respells with
  | flat zeros digits => cases term <;> simp only [Means, Numeral.value_zeros]
  | count zeros count sides selector => cases term <;> simp only [Means, Numeral.value_zeros]
  | sides zeros count sides selector => cases term <;> simp only [Means, Numeral.value_zeros]
  | size zeros count sides kind size =>
      cases term with
      | modifier value => rfl
      | pool pool =>
          cases chosen : pool.selector <;>
            simp only [Means, SelectorSpelling.Means, chosen, Numeral.value_zeros]
  | single count other sides selector single singleOther =>
      cases term with
      | modifier value => rfl
      | pool pool =>
          simp only [Means, Numeral.Single.counted count single,
            Numeral.Single.counted other singleOther]
  | select count sides kind zeros =>
      cases term <;> simp only [Means, SelectorSpelling.zeros_mean]
  | unselect count sides kind zeros =>
      cases term <;> simp only [Means, SelectorSpelling.zeros_mean]

theorem reads_respelled (negative : Bool) (item other : Item) (term : Term)
    (respells : Item.Respells item other)
    (fits : ∀ digits ∈ other.numbers, digits.length ≤ Numeral.mostDigits)
    (reads : Reads .unlimited ⟨negative, item⟩ term) :
    Reads .unlimited ⟨negative, other⟩ term where
  convertible := fits
  admissible := admissible_respelled negative item other respells reads.admissible
  means := (means_respelled negative item other term respells).mpr reads.means
  within := reads.within

end SignedItem

namespace Reader

theorem run_respelled (sign : Char) (body changed : List Char) (item other : Item) (term : Term)
    (isSign : Run.isSign sign = true) (spells : Item.Spells body item)
    (spellsOther : Item.Spells changed other) (respells : Item.Respells item other)
    (fits : ∀ digits ∈ other.numbers, digits.length ≤ Numeral.mostDigits)
    (read : run .unlimited (sign :: body) = .ok term) :
    run .unlimited (sign :: changed) = .ok term := by
  have isRun : Run.IsRun (sign :: body) :=
    ⟨sign, body, rfl, isSign, Item.spells_plain body item spells⟩
  have isRunOther : Run.IsRun (sign :: changed) :=
    ⟨sign, changed, rfl, isSign, Item.spells_plain changed other spellsOther⟩
  rw [run_ok_iff _ _ isRun] at read
  obtain ⟨⟨negative, found⟩, ⟨_, opens, spelled⟩, reads⟩ := read
  obtain ⟨rfl, rfl⟩ := List.cons.inj opens
  rw [Item.spells_unique body found item spelled spells] at reads
  rw [run_ok_iff _ _ isRunOther]
  refine ⟨⟨negative, other⟩, ⟨changed, rfl, spellsOther⟩, ?_⟩
  exact SignedItem.reads_respelled negative item other term respells fits reads

theorem terms_respelled (front back body changed : List Char) (item other : Item)
    (found : List Term) (opening : Run.Opening front) (closing : Run.Closing back)
    (spells : Item.Spells body item) (spellsOther : Item.Spells changed other)
    (respells : Item.Respells item other)
    (fits : ∀ digits ∈ other.numbers, digits.length ≤ Numeral.mostDigits)
    (read : terms .unlimited (front ++ (body ++ back)) = .ok found) :
    terms .unlimited (front ++ (changed ++ back)) = .ok found := by
  obtain ⟨before, sign, behind, isSign, split⟩ := Run.split_around front back opening closing
  have filled := Item.spells_ne_nil body item spells
  have filledOther := Item.spells_ne_nil changed other spellsOther
  rw [terms_unlimited_eq _ (by simp [filled]),
    split body filled (Item.spells_plain body item spells)] at read
  rw [terms_unlimited_eq _ (by simp [filledOther]),
    split changed filledOther (Item.spells_plain changed other spellsOther)]
  apply Outcome.mapM_exchange _ before behind _ _ found _ read
  intro term here
  exact run_respelled sign body changed item other term isSign spells spellsOther respells fits here

end Reader

theorem sentence_plus_iff (text : List Char) (items : List SignedItem) :
    Sentence ('+' :: text) items ↔
      Sentence text items ∧ ∀ c ∈ text.head?, Run.isSign c = false := by
  constructor
  · intro sentence
    generalize whole : '+' :: text = opened at sentence
    cases sentence with
    | signed run rest first later spells row =>
        obtain ⟨negative, item⟩ := first
        obtain ⟨body, rfl, spelled⟩ := spells
        obtain ⟨sign, rfl⟩ := List.cons.inj whole
        cases negative with
        | true => exact absurd sign (by simp [SignedItem.sign])
        | false =>
            refine ⟨.unsigned body rest item later spelled row, ?_⟩
            obtain ⟨c, tail, rfl⟩ :=
              List.exists_cons_of_ne_nil (Item.spells_ne_nil body item spelled)
            have plain := Item.spells_plain _ item spelled c List.mem_cons_self
            simpa using plain
    | unsigned body rest item later spelled row =>
        obtain ⟨c, tail, rfl⟩ := List.exists_cons_of_ne_nil (Item.spells_ne_nil body item spelled)
        have plain := Item.spells_plain _ item spelled c List.mem_cons_self
        rw [← (List.cons.inj whole).1] at plain
        exact absurd plain (by decide)
  · rintro ⟨sentence, plain⟩
    cases sentence with
    | signed run rest first later spells row =>
        obtain ⟨body, rfl, -⟩ := spells
        have sign := plain first.sign rfl
        rw [first.sign_is_sign] at sign
        exact Bool.noConfusion sign
    | unsigned body rest item later spelled row =>
        exact .signed ('+' :: body) rest ⟨false, item⟩ later ⟨body, rfl, spelled⟩ row

theorem Reader.terms_plus_iff (joined : List Char) (found : List Term) :
    Reader.terms .unlimited ('+' :: joined) = .ok found ↔
      Reader.terms .unlimited joined = .ok found ∧ ∀ c ∈ joined.head?, Run.isSign c = false := by
  simp only [Reader.terms_unlimited_iff, sentence_plus_iff]
  constructor
  · rintro ⟨items, ⟨sentence, plain⟩, related⟩
    exact ⟨⟨items, sentence, related⟩, plain⟩
  · rintro ⟨⟨items, sentence, related⟩, plain⟩
    exact ⟨items, ⟨sentence, plain⟩, related⟩

end DiceRoller
