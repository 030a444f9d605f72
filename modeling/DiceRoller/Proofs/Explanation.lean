import DiceRoller.Proofs.Expression.Printing
import DiceRoller.Proofs.Serving
import DiceRoller.Proofs.Text.Pieces
import DiceRoller.Proofs.Text.Words
import Mathlib.Data.List.Permutation

/-!
Explanations can be read back. The line of a record is told from the lines around it by the
semicolons, its parts by the colon, the commas and the bracket, and a die by its digits, whether
or not it stands in parentheses. The places that counted are not written, but the pool and the rolls
decide them. So two rolls with one explanation have the same records.
-/

namespace DiceRoller

theorem SelectorSpelling.means_unique (spelling : Option SelectorSpelling)
    (selector other : Option Selector) (means : Means spelling selector)
    (meansOther : Means spelling other) : selector = other := by
  cases spelling with
  | none => exact Eq.trans means (Eq.symm meansOther)
  | some given =>
      cases selector with
      | none =>
          cases other with
          | none => rfl
          | some chosen =>
              have positive := chosen.size_pos
              rw [meansOther.2, show Numeral.value given.size = 0 from means] at positive
              exact absurd positive (Nat.lt_irrefl 0)
      | some chosen =>
          cases other with
          | none =>
              have positive := chosen.size_pos
              rw [means.2, show Numeral.value given.size = 0 from meansOther] at positive
              exact absurd positive (Nat.lt_irrefl 0)
          | some found =>
              obtain ⟨kind, size, positive⟩ := chosen
              obtain ⟨rfl, rfl⟩ := means
              obtain ⟨kindOther, sizeOther, positiveOther⟩ := found
              obtain ⟨rfl, rfl⟩ := meansOther
              rfl

theorem SignedItem.pool_unique (signed : SignedItem) (pool other : Pool)
    (means : signed.Means (.pool pool)) (meansOther : signed.Means (.pool other)) :
    pool = other := by
  obtain ⟨negative, item⟩ := signed
  cases item with
  | flat digits => exact means.elim
  | dice count sides spelling =>
      obtain ⟨countSame, sidesSame, selected⟩ := means
      obtain ⟨countOther, sidesOther, selectedOther⟩ := meansOther
      have selectors := SelectorSpelling.means_unique spelling _ _ selected selectedOther
      obtain ⟨_, _, selector, _, _⟩ := pool
      obtain ⟨_, _, selectorFound, _, _⟩ := other
      dsimp only at countSame sidesSame countOther sidesOther selectors
      subst countSame sidesSame countOther sidesOther selectors
      rfl

namespace Pool

theorem text_chars (pool : Pool) :
    ∀ c ∈ pool.text.toList, c.isDigit = true ∨ c ∈ ['d', 'h', 'k', 'l'] :=
  Item.spells_chars _ (Term.pool pool).printed (Term.pool pool).spells_printed

theorem text_injective (pool other : Pool) (same : pool.text.toList = other.text.toList) :
    pool = other := by
  have spells := (Term.pool pool).signed_spells
  rw [Term.run_toList] at spells
  have spellsOther := (Term.pool other).signed_spells
  rw [Term.run_toList] at spellsOther
  have runs : (Term.pool pool).signed.sign :: (Term.pool pool).magnitude.toList =
      (Term.pool other).signed.sign :: (Term.pool other).magnitude.toList :=
    congrArg (List.cons '+') same
  rw [← runs] at spellsOther
  have items := SignedItem.spells_unique _ _ _ spells spellsOther
  have meansOther := (Term.pool other).signed_means
  rw [← items] at meansOther
  exact SignedItem.pool_unique _ pool other (Term.pool pool).signed_means meansOther

end Pool

theorem Text.absent_of_chars (others text : List Char)
    (chars : ∀ c ∈ text, c.isDigit = true ∨ c ∈ others) (mark : Char)
    (plain : mark.isDigit = false) (other : mark ∉ others) : mark ∉ text := by
  intro member
  rcases chars mark member with digit | found
  · rw [plain] at digit
    exact Bool.noConfusion digit
  · exact other found

namespace Detail

theorem roll_text_toList (used : List Int) (value : Int) (place : Nat) :
    (rollText used value place).toList = if used.contains place then (toString value).toList
      else '(' :: ((toString value).toList ++ [')']) := by
  unfold rollText
  split
  · rfl
  · show ("(" ++ toString value ++ ")").toList = _
    rw [String.toList_append, String.toList_append]
    rfl

theorem roll_text_chars (used : List Int) (value : Int) (place : Nat) :
    ∀ c ∈ (rollText used value place).toList, c.isDigit = true ∨ c ∈ ['-', '(', ')'] := by
  have number : ∀ c ∈ (toString value).toList, c.isDigit = true ∨ c ∈ ['-', '(', ')'] := by
    intro c member
    exact (Numeral.integer_chars value c member).imp_right fun minus => by simp [minus]
  intro c member
  rw [roll_text_toList] at member
  split at member
  · exact number c member
  · simp only [List.mem_cons, List.mem_append, List.not_mem_nil, or_false] at member
    rcases member with rfl | inside | rfl
    · exact Or.inr (by decide)
    · exact number c inside
    · exact Or.inr (by decide)

theorem roll_text_value (used others : List Int) (value other : Int) (place spot : Nat)
    (same : (rollText used value place).toList = (rollText others other spot).toList) :
    value = other := by
  have bare : ∀ given : Int, '(' ∉ (toString given).toList := fun given =>
    Text.absent_of_chars ['-'] _ (fun c member =>
      (Numeral.integer_chars given c member).imp_right List.mem_singleton.mpr) _ rfl (by decide)
  rw [roll_text_toList, roll_text_toList] at same
  split at same
  · split at same
    · exact Numeral.integer_toList_injective value other same
    · exact absurd (by rw [same]; exact List.mem_cons_self) (bare value)
  · split at same
    · exact absurd (by rw [← same]; exact List.mem_cons_self) (bare other)
    · exact Numeral.integer_toList_injective value other
        (List.append_cancel_right (List.cons.inj same).2)

theorem rolls_text_values (used others rolls found : List Int) (start first : Nat)
    (same : (rolls.zipIdx start).map (fun roll => (rollText used roll.1 roll.2).toList) =
      (found.zipIdx first).map fun roll => (rollText others roll.1 roll.2).toList) :
    rolls = found := by
  induction rolls generalizing found start first with
  | nil =>
      cases found with
      | nil => rfl
      | cons other later => simp at same
  | cons roll rest ih =>
      cases found with
      | nil => simp at same
      | cons other later =>
          simp only [List.zipIdx_cons, List.map_cons, List.cons.injEq] at same
          rw [roll_text_value used others roll other start first same.1,
            ih later (start + 1) (first + 1) same.2]

theorem rolls_text_toList (rolls used : List Int) : (rollsText rolls used).toList =
    [',', ' '].intercalate (rolls.zipIdx.map fun roll => (rollText used roll.1 roll.2).toList) := by
  simp [rollsText, String.toList_intercalate, Function.comp_def]

theorem roll_text_piece (used : List Int) (value : Int) (place : Nat) :
    Text.IsPiece ',' (rollText used value place).toList where
  nonempty := by
    rw [roll_text_toList, Numeral.integer_toList]
    split <;> simp [Nat.toDigits_ne_nil]
  clear := Text.absent_of_chars _ _ (roll_text_chars used value place) ',' rfl (by decide)

theorem rolls_text_injective (rolls found used others : List Int)
    (same : (rollsText rolls used).toList = (rollsText found others).toList) : rolls = found := by
  rw [rolls_text_toList, rolls_text_toList] at same
  apply rolls_text_values used others rolls found 0 0
  apply Text.pieces_unique ',' [' '] _ _ _ _ same
  all_goals
    intro piece member
    obtain ⟨roll, -, rfl⟩ := List.mem_map.mp member
    exact roll_text_piece _ roll.1 roll.2

theorem explanation_modifier (value : Int) : (modifier value).explanation.toList =
    (if value < 0 then '-' else '+') :: Nat.toDigits 10 value.natAbs := by
  unfold explanation
  rw [String.toList_append, Numeral.integer_toList]
  split <;> rfl

theorem explanation_d20 (mode : Mode) (base first second final : Int) :
    (d20 mode base first second final).explanation.toList =
      ("d20(" ++ mode.short ++ ")").toList ++ ':' :: (" base ".toList ++ ((toString base).toList ++
        ',' :: (" rolls [".toList ++ ((toString first).toList ++ ',' :: (' ' ::
          ((toString second).toList ++ ']' :: (" -> keep ".toList ++
            (toString final).toList))))))) := by
  show ("d20(" ++ mode.short ++ "): base " ++ toString base ++ ", rolls [" ++ toString first ++
    ", " ++ toString second ++ "] -> keep " ++ toString final).toList = _
  simp only [String.toList_append, List.append_assoc]
  rfl

theorem explanation_dice (pool : Pool) (rolls used : List Int) (subtotal : Int) :
    (dice pool rolls used subtotal).explanation.toList =
      pool.text.toList ++ ':' :: (" rolls [".toList ++ ((rollsText rolls used).toList ++
        ']' :: (" => ".toList ++ (toString subtotal).toList))) := by
  show (pool.text ++ ": rolls [" ++ rollsText rolls used ++ "] => " ++
    toString subtotal).toList = _
  simp only [String.toList_append, List.append_assoc]
  rfl

theorem integer_clear (value : Int) (mark : Char) (plain : mark.isDigit = false)
    (other : mark ≠ '-') : mark ∉ (toString value).toList :=
  Text.absent_of_chars ['-'] _ (fun c member =>
    (Numeral.integer_chars value c member).imp_right List.mem_singleton.mpr) mark plain
      (by simpa using other)

theorem pool_text_clear (pool : Pool) (mark : Char) (plain : mark.isDigit = false)
    (other : mark ∉ ['d', 'h', 'k', 'l']) : mark ∉ pool.text.toList :=
  Text.absent_of_chars _ _ pool.text_chars mark plain other

theorem rolls_text_clear (rolls used : List Int) (mark : Char) (plain : mark.isDigit = false)
    (other : mark ∉ ['-', '(', ')', ',', ' ']) : mark ∉ (rollsText rolls used).toList := by
  rw [rolls_text_toList]
  apply Text.absent_of_chars ['-', '(', ')', ',', ' '] _ _ mark plain other
  apply Text.forall_intercalate (fun c => c.isDigit = true ∨ c ∈ ['-', '(', ')', ',', ' ']) _ _
    fun c member => Or.inr (List.mem_append_right ['-', '(', ')'] member)
  intro piece member c inside
  obtain ⟨roll, -, rfl⟩ := List.mem_map.mp member
  refine (roll_text_chars used roll.1 roll.2 c inside).imp_right fun found => ?_
  exact List.mem_append_left [',', ' '] found

theorem modifier_clear (value : Int) (mark : Char) (plain : mark.isDigit = false)
    (other : mark ∉ ['-', '+']) : mark ∉ (modifier value).explanation.toList := by
  apply Text.absent_of_chars ['-', '+'] _ _ mark plain other
  intro c member
  rw [explanation_modifier] at member
  rcases List.mem_cons.mp member with rfl | digit
  · split <;> simp
  · exact Or.inl ((Numeral.spelled_toDigits _).all c digit)

theorem modifier_read (value : Int) (other : Detail)
    (same : (modifier value).explanation.toList = other.explanation.toList) :
    other = modifier value := by
  have noColon := modifier_clear value ':' rfl (by decide)
  cases other with
  | modifier found =>
      rw [explanation_modifier, explanation_modifier] at same
      obtain ⟨signs, digits⟩ := List.cons.inj same
      have sizes : value.natAbs = found.natAbs := by
        rw [← Numeral.value_toDigits value.natAbs, digits, Numeral.value_toDigits]
      have minus : ∀ given : Int, (if given < 0 then '-' else '+') = '-' ↔ given < 0 := by
        intro given
        split <;> simp [*]
      have ends : value < 0 ↔ found < 0 := by rw [← minus, signs, minus]
      have equal : found = value := by omega
      rw [equal]
  | d20 mode base first second final =>
      rw [same, explanation_d20] at noColon
      simp at noColon
  | dice pool rolls used subtotal =>
      rw [same, explanation_dice] at noColon
      simp at noColon

theorem d20_read (mode : Mode) (base first second final : Int) (other : Detail)
    (same : (d20 mode base first second final).explanation.toList = other.explanation.toList) :
    other = d20 mode base first second final := by
  have heading : ∀ given : Mode, ':' ∉ ("d20(" ++ given.short ++ ")").toList := by
    intro given
    cases given <;> decide
  cases other with
  | modifier value => cases modifier_read value _ same.symm
  | dice pool rolls used subtotal =>
      rw [explanation_d20, explanation_dice] at same
      obtain ⟨headings, -⟩ := Text.cut_unique ':' _ _ _ _ (heading mode)
        (pool_text_clear pool ':' rfl (by decide)) same
      have bare := pool_text_clear pool '(' rfl (by decide)
      rw [← headings] at bare
      exact absurd (by simp) bare
  | d20 modeFound baseFound firstFound secondFound finalFound =>
      have number := integer_clear
      rw [explanation_d20, explanation_d20] at same
      obtain ⟨modes, rest⟩ := Text.cut_unique ':' _ _ _ _ (heading mode) (heading modeFound) same
      obtain ⟨bases, rest⟩ := Text.cut_unique ',' _ _ _ _ (number base ',' rfl (by decide))
        (number baseFound ',' rfl (by decide)) (List.append_cancel_left rest)
      obtain ⟨firsts, rest⟩ := Text.cut_unique ',' _ _ _ _ (number first ',' rfl (by decide))
        (number firstFound ',' rfl (by decide)) (List.append_cancel_left rest)
      obtain ⟨seconds, rest⟩ := Text.cut_unique ']' _ _ _ _ (number second ']' rfl (by decide))
        (number secondFound ']' rfl (by decide)) (List.cons.inj rest).2
      have finals := List.append_cancel_left rest
      rw [Numeral.integer_toList_injective _ _ bases, Numeral.integer_toList_injective _ _ firsts,
        Numeral.integer_toList_injective _ _ seconds, Numeral.integer_toList_injective _ _ finals]
      cases mode <;> cases modeFound
      · rfl
      · exact absurd modes (by decide)
      · exact absurd modes (by decide)
      · rfl

theorem dice_read (pool : Pool) (rolls used : List Int) (subtotal : Int) (other : Detail)
    (same : (dice pool rolls used subtotal).explanation.toList = other.explanation.toList) :
    ∃ usedOther subtotalOther, other = dice pool rolls usedOther subtotalOther := by
  cases other with
  | modifier value => cases modifier_read value _ same.symm
  | d20 mode base first second final => cases d20_read mode base first second final _ same.symm
  | dice poolFound found usedFound subtotalFound =>
      rw [explanation_dice, explanation_dice] at same
      obtain ⟨pools, rest⟩ := Text.cut_unique ':' _ _ _ _ (pool_text_clear pool ':' rfl (by decide))
        (pool_text_clear poolFound ':' rfl (by decide)) same
      obtain ⟨shown, -⟩ := Text.cut_unique ']' _ _ _ _
        (rolls_text_clear rolls used ']' rfl (by decide))
        (rolls_text_clear found usedFound ']' rfl (by decide)) (List.append_cancel_left rest)
      rw [Pool.text_injective pool poolFound pools,
        rolls_text_injective rolls found used usedFound shown]
      exact ⟨usedFound, subtotalFound, rfl⟩

def Made (detail : Detail) : Prop :=
  ∃ mode term values, Term.Deals mode term values detail

/-- In a record that was made, the pool and the rolls decide which dice count. -/
theorem made_dice (pool : Pool) (rolls used : List Int) (subtotal : Int)
    (made : (dice pool rolls used subtotal).Made) :
    dice pool rolls used subtotal = pool.detail rolls := by
  obtain ⟨mode, term, values, deals⟩ := made
  generalize shown : dice pool rolls used subtotal = detail at deals
  cases deals with
  | modifier value => cases shown
  | edge => cases shown
  | pool given found =>
      obtain ⟨rfl, rfl, -, -⟩ := dice.inj shown
      rfl

/-- Records that were made are told apart by their texts. -/
theorem explanation_unique (detail other : Detail) (made : detail.Made) (madeOther : other.Made)
    (same : detail.explanation.toList = other.explanation.toList) : detail = other := by
  cases detail with
  | modifier value => exact (modifier_read value other same).symm
  | d20 mode base first second final =>
      exact (d20_read mode base first second final other same).symm
  | dice pool rolls used subtotal =>
      obtain ⟨usedOther, subtotalOther, rfl⟩ := dice_read pool rolls used subtotal other same
      rw [made_dice pool rolls used subtotal made, made_dice pool rolls _ _ madeOther]

theorem explanations_unique (details others : List Detail) (made : ∀ detail ∈ details, detail.Made)
    (madeOthers : ∀ detail ∈ others, detail.Made)
    (same : (details.map fun detail => detail.explanation.toList) =
      others.map fun detail => detail.explanation.toList) : details = others := by
  induction details generalizing others with
  | nil =>
      cases others with
      | nil => rfl
      | cons other later => simp at same
  | cons detail rest ih =>
      cases others with
      | nil => simp at same
      | cons other later =>
          obtain ⟨here, behind⟩ := List.forall_mem_cons.mp made
          obtain ⟨hereOther, behindOther⟩ := List.forall_mem_cons.mp madeOthers
          rw [List.map_cons, List.map_cons, List.cons.injEq] at same
          rw [explanation_unique detail other here hereOther same.1,
            ih later behind behindOther same.2]

theorem explanation_piece (detail : Detail) : Text.IsPiece ';' detail.explanation.toList := by
  have number : ∀ value : Int, ';' ∉ (toString value).toList := fun value =>
    integer_clear value ';' rfl (by decide)
  cases detail with
  | modifier value =>
      refine ⟨?_, modifier_clear value ';' rfl (by decide)⟩
      simp [explanation_modifier]
  | d20 mode base first second final =>
      have heading : ';' ∉ ("d20(" ++ mode.short ++ ")").toList := by
        cases mode <;> decide
      rw [explanation_d20]
      refine ⟨by simp, ?_⟩
      simp only [List.mem_append, List.mem_cons, number, heading, not_or]
      decide
  | dice pool rolls used subtotal =>
      have pools := pool_text_clear pool ';' rfl (by decide)
      have shown := rolls_text_clear rolls used ';' rfl (by decide)
      rw [explanation_dice]
      refine ⟨by simp, ?_⟩
      simp only [List.mem_append, List.mem_cons, number, pools, shown, not_or]
      decide

theorem report_toList (details : List Detail) : (report details).toList =
    ([';', ' '].intercalate (details.map fun detail => detail.explanation.toList) ++ [' ', '=']) ++
      '>' :: ' ' :: (toString (total details)).toList := by
  have lines : ("; ".intercalate (details.map explanation)).toList =
      [';', ' '].intercalate (details.map fun detail => detail.explanation.toList) := by
    rw [String.toList_intercalate, List.map_map]
    rfl
  show ("; ".intercalate (details.map explanation) ++
    (" => " ++ toString (total details))).toList = _
  rw [String.toList_append, String.toList_append, lines, List.append_assoc]
  rfl

/-- The last arrow of a report stands before the total, and what is before it falls into lines. -/
theorem report_unique (details others : List Detail) (made : ∀ detail ∈ details, detail.Made)
    (madeOthers : ∀ detail ∈ others, detail.Made) (same : report details = report others) :
    details = others := by
  have texts := congrArg String.toList same
  rw [report_toList, report_toList] at texts
  have behind : ∀ value : Int, '>' ∉ ' ' :: (toString value).toList := fun value =>
    List.not_mem_cons_of_ne_of_not_mem (by decide) (integer_clear value '>' rfl (by decide))
  obtain ⟨fronts, -⟩ := Text.last_cut_unique '>' _ _ _ _ (behind _) (behind _) texts
  have lines := Text.pieces_unique ';' [' '] _ _ (List.forall_mem_map.mpr fun detail _ =>
    detail.explanation_piece) (List.forall_mem_map.mpr fun detail _ => detail.explanation_piece)
    (List.append_cancel_right fronts)
  exact explanations_unique details others made madeOthers lines

theorem mem_dropped (rolls used : List Int) (place : Nat) (inside : place < rolls.length) :
    place ∈ dropped rolls used ↔ ¬ used.contains (place : Int) = true := by
  simp [dropped, inside]

theorem rolls_text_shown (rolls used : List Int) :
    ∃ shown : List String, rollsText rolls used = ", ".intercalate shown ∧
      shown.length = rolls.length ∧ ∀ place (inside : place < rolls.length),
        (shown[place]? = some ("(" ++ toString rolls[place] ++ ")") ↔
          place ∈ dropped rolls used) ∧
        (shown[place]? = some (toString rolls[place]) ↔ place ∉ dropped rolls used) := by
  refine ⟨_, rfl, by simp, fun place inside => ?_⟩
  have bare : "(" ++ toString rolls[place] ++ ")" ≠ toString rolls[place] := by
    intro same
    have clear := integer_clear rolls[place] '(' rfl (by decide)
    rw [← same] at clear
    exact absurd (by simp) clear
  have here : (rolls.zipIdx.map fun roll => rollText used roll.1 roll.2)[place]? =
      some (rollText used rolls[place] place) := by
    simp [inside]
  rw [here, mem_dropped rolls used place inside, Option.some_inj, Option.some_inj]
  cases counts : used.contains (place : Int) with
  | true =>
      have plain : rollText used rolls[place] place = toString rolls[place] := by
        rw [rollText, if_pos counts]
      rw [plain]
      exact ⟨iff_of_false bare.symm (fun dropped => dropped rfl),
        iff_of_true rfl (fun dropped => dropped rfl)⟩
  | false =>
      have parted : rollText used rolls[place] place = "(" ++ toString rolls[place] ++ ")" := by
        rw [rollText, counts]
        rfl
      rw [parted]
      exact ⟨iff_of_true rfl Bool.false_ne_true,
        iff_of_false bare (fun counted => counted Bool.false_ne_true)⟩

end Detail

namespace Service

theorem served_made (limits : Limits) (text : String) (source : Source) (record : Record)
    (served : (serve limits text source).outcome = .ok record) :
    ∀ detail ∈ record.details, detail.Made := by
  obtain ⟨expression, -, faultless, rfl⟩ := (serve_ok_iff limits text source record).mp served
  obtain ⟨complete, -⟩ := (fault_none_iff _).mp faultless
  obtain ⟨values, -, deals⟩ := Resolution.drawn_of_complete _ _ source complete
  intro detail member
  obtain ⟨term, -, own, made⟩ := Resolution.exists_deals_of_mem _ _ _ _ deals detail member
  exact ⟨expression.mode, term, own, made⟩

/-- Records with one explanation have the same details and the same total, whatever was asked for
and wherever the dice came from. The text of a pool shows each roll at its place, in parentheses
just when it was dropped. -/
theorem explanation_lossless :
    (∀ limits text source record, (serve limits text source).outcome = .ok record →
      ∀ limitsOther textOther sourceOther other,
        (serve limitsOther textOther sourceOther).outcome = .ok other →
        record.explanation = other.explanation →
        record.details = other.details ∧ record.total = other.total) ∧
    ∀ (pool : Pool) (rolls used : List Int) (subtotal : Int), ∃ shown : List String,
      (Detail.dice pool rolls used subtotal).explanation =
          pool.text ++ ": rolls [" ++ ", ".intercalate shown ++ "] => " ++ toString subtotal ∧
        shown.length = rolls.length ∧ ∀ place (inside : place < rolls.length),
          (shown[place]? = some ("(" ++ toString rolls[place] ++ ")") ↔
            place ∈ Detail.dropped rolls used) ∧
          (shown[place]? = some (toString rolls[place]) ↔
            place ∉ Detail.dropped rolls used) := by
  constructor
  · intro limits text source record served limitsOther textOther sourceOther other servedOther same
    have details := Detail.report_unique record.details other.details
      (served_made limits text source record served)
      (served_made limitsOther textOther sourceOther other servedOther) same
    exact ⟨details, congrArg Detail.total details⟩
  · intro pool rolls used subtotal
    obtain ⟨shown, joined, length, places⟩ := Detail.rolls_text_shown rolls used
    refine ⟨shown, ?_, length, places⟩
    rw [← joined]
    rfl

/-- Two notations, a script and a cycle, with one die of two dropped. -/
theorem explanation_lossless_dropped :
    ∃ record other, (serve .unlimited "2D6dl1 - 3" (.script none [4, 2, 6])).outcome = .ok record ∧
      (serve ⟨some 2, some 6, some 2⟩ "02d6 DL01-3 dis" (.cycle (some "table") [4, 2])).outcome =
        .ok other ∧
      record.explanation = "2d6dl1: rolls [4, (2)] => 4; -3 => 1" ∧
      record.details = other.details ∧ record.total = other.total := by
  let dice : Pool := ⟨2, 6, some ⟨.dropLow, 1, by decide⟩, by decide, by decide⟩
  have read : Expression.read .unlimited "2D6dl1 - 3" =
      .ok ⟨[.pool dice, .modifier (-3)], none⟩ := by
    decide +kernel
  have readOther : Expression.read ⟨some 2, some 6, some 2⟩ "02d6 DL01-3 dis" =
      .ok ⟨[.pool dice, .modifier (-3)], some .disadvantage⟩ := by
    decide +kernel
  have dropped : dice.detail [4, 2] = .dice dice [4, 2] [0] 4 := by
    cbv
  have rolled : Expression.resolve ⟨[.pool dice, .modifier (-3)], none⟩
      (.script none [4, 2, 6]) =
        ⟨[dice.detail [4, 2], .modifier (-3)], true, ⟨"ScriptedRoller", .script [6], [6, 6]⟩⟩ := rfl
  have rolledOther : Expression.resolve ⟨[.pool dice, .modifier (-3)], some .disadvantage⟩
      (.cycle (some "table") [4, 2]) =
        ⟨[dice.detail [4, 2], .modifier (-3)], true, ⟨"table", .cycle [4, 2] [], [6, 6]⟩⟩ := rfl
  rw [dropped] at rolled rolledOther
  have served := (serve_ok_iff .unlimited "2D6dl1 - 3" (.script none [4, 2, 6]) _).mpr
    ⟨_, read, by rw [rolled]; decide +kernel, rfl⟩
  have servedOther := (serve_ok_iff ⟨some 2, some 6, some 2⟩ "02d6 DL01-3 dis"
    (.cycle (some "table") [4, 2]) _).mpr ⟨_, readOther, by rw [rolledOther]; decide +kernel, rfl⟩
  rw [rolled] at served
  rw [rolledOther] at servedOther
  exact ⟨_, _, served, servedOther, by cbv,
    explanation_lossless.1 _ _ _ _ served _ _ _ _ servedOther rfl⟩

end Service

end DiceRoller
