import Mathlib.Data.Char
import DiceRoller.Text.Blank
import DiceRoller.Text.Case
import Mathlib.Data.List.Forall2

/-!
Lower case beside digits and blanks. A mark is a digit or a blank. Lower case keeps every mark
where it stands, and out of any other character it makes at least one character and no mark, so
the marks of a text part it in the same places before and after. A text without capitals
and without characters beyond ASCII is its own lower case. Only a capital sigma looks at what is
around it, so texts without one can be put together before or after.
-/

namespace DiceRoller.Text

def isMark (c : Char) : Bool :=
  c.isDigit || isBlank c

def markRanges : Ranges :=
  [(0x9, 0xD), (0x1C, 0x20), (0x30, 0x39), (0x85, 0x85), (0xA0, 0xA0), (0x1680, 0x1680),
   (0x2000, 0x200A), (0x2028, 0x2029), (0x202F, 0x202F), (0x205F, 0x205F), (0x3000, 0x3000)]

theorem mark_ranges_exact (c : Char) : isMark c = markRanges.has c := by
  rw [Bool.eq_iff_iff]
  simp only [isMark, isBlank, isWhiteSpace, markRanges, Ranges.has, List.any_cons, List.any_nil,
    Bool.or_eq_true, Bool.and_eq_true, decide_eq_true_eq, beq_iff_eq, Char.isDigit_iff_toNat,
    Bool.or_false]
  have zero : '0'.toNat = 0x30 := rfl
  have nine : '9'.toNat = 0x39 := rfl
  omega

theorem mark_range_positive : ∀ range ∈ markRanges, 0 < range.1 := by
  decide

theorem not_mark (c : Char)
    (outside : ∀ range ∈ markRanges, ¬ (range.1 ≤ c.toNat ∧ c.toNat ≤ range.2)) :
    isMark c = false := by
  rw [mark_ranges_exact]
  simpa [Ranges.has] using outside

/-- No letter of the run, and nothing that the run maps to, lies from `low` to `high`. -/
def CaseRun.clearOf (low high : Nat) (run : CaseRun) : Bool :=
  (run.last < low || high < run.first) &&
    (run.last + run.shift < low || high < run.first + run.shift)

theorem lower_runs_clear :
    lowerRuns.all (fun run => markRanges.all fun range => run.clearOf range.1 range.2) = true := by
  decide +kernel

theorem shifted_cases (runs : List CaseRun) (c : Char) :
    shifted runs c = c ∨ ∃ run ∈ runs, run.covers c.toNat = true ∧
      shifted runs c = Char.ofNat (c.toNat + run.shift).toNat := by
  unfold shifted
  cases found : runs.find? fun run => run.covers c.toNat with
  | none => exact Or.inl rfl
  | some run =>
      exact Or.inr ⟨run, List.mem_of_find?_eq_some found, by simpa using List.find?_some found, rfl⟩

-- A code point that is no character gives the character zero.
theorem char_of_code (code : Nat) :
    (Char.ofNat code).toNat = code ∨ (Char.ofNat code).toNat = 0 := by
  by_cases valid : code.isValidChar
  · left
    rw [Char.ofNat, dif_pos valid]
    rfl
  · right
    rw [Char.ofNat, dif_neg valid]
    rfl

/-- A letter that the run maps, and what it is mapped to, lie outside what the run is clear of. -/
theorem CaseRun.outside_of_clear (run : CaseRun) (c : Char) (low high : Nat) (positive : 0 < low)
    (covered : run.covers c.toNat = true) (clear : run.clearOf low high = true) :
    ¬ (low ≤ c.toNat ∧ c.toNat ≤ high) ∧
      ¬ (low ≤ (Char.ofNat (c.toNat + run.shift).toNat).toNat ∧
        (Char.ofNat (c.toNat + run.shift).toNat).toNat ≤ high) := by
  simp only [CaseRun.covers, Bool.and_eq_true, decide_eq_true_eq] at covered
  simp only [CaseRun.clearOf, Bool.and_eq_true, Bool.or_eq_true, decide_eq_true_eq] at clear
  constructor
  · omega
  · rcases char_of_code (c.toNat + run.shift).toNat with code | code <;> omega

theorem not_mark_of_clear (run : CaseRun) (c : Char) (covered : run.covers c.toNat = true)
    (clear : ∀ range ∈ markRanges, run.clearOf range.1 range.2 = true) :
    isMark c = false ∧ isMark (Char.ofNat (c.toNat + run.shift).toNat) = false := by
  have outside := fun range member => run.outside_of_clear c range.1 range.2
    (mark_range_positive range member) covered (clear range member)
  exact ⟨not_mark c fun range member => (outside range member).1,
    not_mark _ fun range member => (outside range member).2⟩

/-- Beyond ASCII a mark stays as it is, and nothing else becomes one. -/
theorem shifted_mark (c : Char) :
    isMark (shifted lowerRuns c) = isMark c ∧ (isMark c = true → shifted lowerRuns c = c) := by
  rcases shifted_cases lowerRuns c with same | ⟨run, member, covered, moved⟩
  · rw [same]
    exact ⟨rfl, fun _ => rfl⟩
  · have clear := List.all_eq_true.mp (List.all_eq_true.mp lower_runs_clear run member)
    obtain ⟨before, after⟩ := not_mark_of_clear run c covered clear
    rw [moved, before, after]
    exact ⟨rfl, fun absurd => Bool.noConfusion absurd⟩

theorem ascii_lower_cases (c : Char) :
    (c.isUpper = true ∧ 65 ≤ c.toNat ∧ c.toNat ≤ 90 ∧ c.toLower.toNat = c.toNat + 32) ∨
      (c.isUpper = false ∧ c.toLower = c) := by
  unfold Char.toLower Char.isUpper
  split
  next capital =>
    left
    have bounds : 65 ≤ c.toNat ∧ c.toNat ≤ 90 := by
      simpa [UInt32.le_iff_toNat_le] using capital
    refine ⟨by simpa using capital, bounds.1, bounds.2, ?_⟩
    have distance : ('a'.val - 'A'.val).toNat = 32 := rfl
    rw [Char.toNat_mk, UInt32.toNat_add, distance, Char.toNat_val]
    omega
  next other => exact Or.inr ⟨by simpa using other, rfl⟩

theorem ascii_mark (c : Char) :
    isMark c.toLower = isMark c ∧ (isMark c = true → c.toLower = c) := by
  have letters : ∀ letter : Char, 65 ≤ letter.toNat → letter.toNat ≤ 122 →
      isMark letter = false := by
    intro letter above below
    apply not_mark
    intro range member
    have outside : range.2 < 65 ∨ 122 < range.1 := by
      revert range
      decide
    omega
  rcases ascii_lower_cases c with ⟨-, above, below, lowered⟩ | ⟨-, same⟩
  · rw [letters c above (by omega), letters c.toLower (by omega) (by omega)]
    exact ⟨rfl, fun absurd => Bool.noConfusion absurd⟩
  · rw [same]
    exact ⟨rfl, fun _ => rfl⟩

structure Lowered (c : Char) (piece : List Char) : Prop where
  mark_kept : isMark c = true → piece = [c]
  nonempty : piece ≠ []
  no_new_mark : isMark c = false → ∀ letter ∈ piece, isMark letter = false

theorem lowered_single (c letter : Char)
    (exact : isMark letter = isMark c ∧ (isMark c = true → letter = c)) : Lowered c [letter] where
  mark_kept mark := by rw [exact.2 mark]
  nonempty := List.cons_ne_nil letter []
  no_new_mark plain other member := by
    rw [List.mem_singleton.mp member, exact.1, plain]

theorem lower_char_lowered (c : Char) : Lowered c (lowerChar c) := by
  unfold lowerChar
  split
  · exact lowered_single c c.toLower (ascii_mark c)
  · split
    next dotted =>
      have plain : isMark c = false := by
        rw [mark_ranges_exact]
        simp [Ranges.has, markRanges, dotted]
      refine ⟨fun mark => ?_, List.cons_ne_nil _ _, fun _ letter member => ?_⟩
      · rw [plain] at mark
        exact Bool.noConfusion mark
      · rcases List.mem_pair.mp member with rfl | rfl
        · decide
        · decide
    · exact lowered_single c _ (shifted_mark c)

theorem sigma_lowered (c : Char) (sigma : isCapitalSigma c = true) (final : Bool) :
    Lowered c [Char.ofNat (if final then 0x3C2 else 0x3C3)] := by
  have plain : isMark c = false := by
    have code : c.toNat = 0x3A3 := by simpa [isCapitalSigma] using sigma
    rw [mark_ranges_exact]
    simp [Ranges.has, markRanges, code]
  apply lowered_single
  rw [plain]
  cases final <;> exact ⟨by decide, fun absurd => Bool.noConfusion absurd⟩

theorem lower_from_pieces (inWord : Bool) (text : List Char) :
    ∃ pieces, List.Forall₂ Lowered text pieces ∧ lowerFrom inWord text = pieces.flatten := by
  induction text generalizing inWord with
  | nil => exact ⟨[], .nil, rfl⟩
  | cons c rest ih =>
      simp only [lowerFrom]
      obtain ⟨pieces, related, joined⟩ := ih (if isCaseIgnorable c then inWord else isCased c)
      by_cases sigma : isCapitalSigma c = true
      · have final := sigma_lowered c sigma (inWord && !startsCased rest)
        refine ⟨_ :: pieces, .cons final related, ?_⟩
        simp [sigma, joined]
      · refine ⟨_ :: pieces, .cons (lower_char_lowered c) related, ?_⟩
        simp [sigma, joined]

theorem lower_pieces (text : List Char) :
    ∃ pieces, List.Forall₂ Lowered text pieces ∧ lower text = pieces.flatten :=
  lower_from_pieces false text

theorem lower_marks (text : List Char) (marks : ∀ c ∈ text, isMark c = true) :
    lower text = text := by
  obtain ⟨pieces, related, joined⟩ := lower_pieces text
  rw [joined]
  clear joined
  induction related with
  | nil => rfl
  | @cons c piece rest pieces lowered _ ih =>
      have head := lowered.mark_kept (marks c List.mem_cons_self)
      have tail := ih fun later member => marks later (List.mem_cons_of_mem c member)
      rw [List.flatten_cons, head, tail]
      rfl

theorem lower_blanks (blanks : List Char) (parts : ∀ c ∈ blanks, isBlank c = true) :
    lower blanks = blanks :=
  lower_marks blanks fun c member => by simp [isMark, parts c member]

theorem lower_solid (text : List Char) (solid : ∀ c ∈ text, isBlank c = false) :
    ∀ c ∈ lower text, isBlank c = false := by
  obtain ⟨pieces, related, joined⟩ := lower_pieces text
  rw [joined]
  clear joined
  induction related with
  | nil => simp
  | @cons c piece rest pieces lowered _ ih =>
      obtain ⟨here, later⟩ := List.forall_mem_cons.mp solid
      rw [List.flatten_cons, List.forall_mem_append]
      refine ⟨fun letter member => ?_, ih later⟩
      cases mark : isMark c with
      | true =>
          rw [lowered.mark_kept mark] at member
          rw [List.mem_singleton.mp member]
          exact here
      | false =>
          have plain := lowered.no_new_mark mark letter member
          exact (Bool.or_eq_false_iff.mp plain).2

theorem lower_ne_nil (text : List Char) (filled : text ≠ []) : lower text ≠ [] := by
  obtain ⟨pieces, related, joined⟩ := lower_pieces text
  rw [joined]
  cases related with
  | nil => exact absurd rfl filled
  | cons lowered _ => simp [lowered.nonempty]

def isPlain (c : Char) : Bool :=
  c.toNat < 128 && !c.isUpper

/-- Lower case leaves the character as it is, wherever it stands. -/
structure Settled (c : Char) : Prop where
  kept : lowerChar c = [c]
  no_sigma : isCapitalSigma c = false

theorem settled_of_plain (c : Char) (plain : isPlain c = true) : Settled c := by
  simp only [isPlain, Bool.and_eq_true, decide_eq_true_eq, Bool.not_eq_true'] at plain
  constructor
  · rcases ascii_lower_cases c with ⟨capital, -⟩ | ⟨-, same⟩
    · rw [plain.2] at capital
      exact Bool.noConfusion capital
    · rw [lowerChar, if_pos plain.1, same]
  · simp only [isCapitalSigma, beq_eq_false_iff_ne]
    omega

theorem lower_from_settled (inWord : Bool) (text : List Char) (settled : ∀ c ∈ text, Settled c) :
    lowerFrom inWord text = text := by
  induction text generalizing inWord with
  | nil => rfl
  | cons c rest ih =>
      obtain ⟨here, later⟩ := List.forall_mem_cons.mp settled
      simp [lowerFrom, here.kept, here.no_sigma, ih _ later]

theorem lower_settled (text : List Char) (settled : ∀ c ∈ text, Settled c) : lower text = text :=
  lower_from_settled false text settled

theorem lower_plain (text : List Char) (plain : ∀ c ∈ text, isPlain c = true) :
    lower text = text :=
  lower_settled text fun c member => settled_of_plain c (plain c member)

def isSmallSigma (c : Char) : Bool :=
  c.toNat == 0x3C2 || c.toNat == 0x3C3

/-- No sigma is left in lower case, so there was no capital one to look around. -/
def NoSigma (text : List Char) : Prop :=
  ∀ c ∈ lower text, isSmallSigma c = false

theorem no_capital_sigma (inWord : Bool) (text : List Char)
    (none : ∀ c ∈ lowerFrom inWord text, isSmallSigma c = false) :
    ∀ c ∈ text, isCapitalSigma c = false := by
  induction text generalizing inWord with
  | nil => simp
  | cons c rest ih =>
      simp only [lowerFrom] at none
      by_cases sigma : isCapitalSigma c = true
      · rw [if_pos sigma] at none
        have small := none _ List.mem_cons_self
        split at small <;> exact absurd small (by decide)
      · rw [if_neg sigma] at none
        have later := ih _ fun letter member => none letter (List.mem_append_right _ member)
        exact List.forall_mem_cons.mpr ⟨Bool.eq_false_iff.mpr sigma, later⟩

theorem lower_from_each (inWord : Bool) (text : List Char)
    (none : ∀ c ∈ text, isCapitalSigma c = false) :
    lowerFrom inWord text = text.flatMap lowerChar := by
  induction text generalizing inWord with
  | nil => rfl
  | cons c rest ih =>
      obtain ⟨here, later⟩ := List.forall_mem_cons.mp none
      simp only [lowerFrom, here, Bool.false_eq_true, if_false, List.flatMap_cons, ih _ later]

theorem lower_each (text : List Char) (none : NoSigma text) :
    lower text = text.flatMap lowerChar :=
  lower_from_each false text (no_capital_sigma false text none)

theorem lower_append (front back : List Char) (noneFront : NoSigma front)
    (noneBack : NoSigma back) : lower (front ++ back) = lower front ++ lower back := by
  have plain : ∀ c ∈ front ++ back, isCapitalSigma c = false := by
    intro c member
    rcases List.mem_append.mp member with before | behind
    · exact no_capital_sigma false front noneFront c before
    · exact no_capital_sigma false back noneBack c behind
  rw [lower_each front noneFront, lower_each back noneBack, ← List.flatMap_append]
  exact lower_from_each false _ plain

theorem NoSigma.append (front back : List Char) (noneFront : NoSigma front)
    (noneBack : NoSigma back) : NoSigma (front ++ back) := by
  intro c member
  rw [lower_append front back noneFront noneBack] at member
  rcases List.mem_append.mp member with before | behind
  · exact noneFront c before
  · exact noneBack c behind

theorem NoSigma.of_append (front back : List Char) (none : NoSigma (front ++ back)) :
    NoSigma front ∧ NoSigma back := by
  obtain ⟨plainFront, plainBack⟩ :=
    List.forall_mem_append.mp (no_capital_sigma false (front ++ back) none)
  have whole : lower (front ++ back) = lower front ++ lower back := by
    rw [lower_each _ none, List.flatMap_append, lower, lower,
      lower_from_each false front plainFront, lower_from_each false back plainBack]
  unfold NoSigma at none
  rw [whole] at none
  exact List.forall_mem_append.mp none

theorem lower_cut (front back : List Char) (none : NoSigma (front ++ back)) :
    lower (front ++ back) = lower front ++ lower back := by
  obtain ⟨noneFront, noneBack⟩ := NoSigma.of_append front back none
  exact lower_append front back noneFront noneBack

theorem lower_ends (text : List Char) (none : NoSigma text)
    (ends : ∀ c ∈ text.getLast?, isBlank c = true) :
    ∀ c ∈ (lower text).getLast?, isBlank c = true := by
  rcases List.eq_nil_or_concat text with rfl | ⟨front, blank, rfl⟩
  · simp [lower, lowerFrom]
  · rw [List.concat_eq_append] at none ends ⊢
    obtain ⟨noneFront, noneBlank⟩ := NoSigma.of_append front [blank] none
    have parts : isBlank blank = true := ends blank (by simp)
    rw [lower_append front [blank] noneFront noneBlank,
      lower_blanks [blank] (List.forall_mem_singleton.mpr parts)]
    simpa using parts

theorem lower_opens (text : List Char) (none : NoSigma text)
    (opens : ∀ c ∈ text.head?, isBlank c = true) :
    ∀ c ∈ (lower text).head?, isBlank c = true := by
  cases text with
  | nil => simp [lower, lowerFrom]
  | cons blank rest =>
      obtain ⟨noneBlank, noneRest⟩ := NoSigma.of_append [blank] rest none
      have parts : isBlank blank = true := opens blank rfl
      rw [← List.singleton_append, lower_append [blank] rest noneBlank noneRest,
        lower_blanks [blank] (List.forall_mem_singleton.mpr parts)]
      simpa using parts

/-- The letters of ASCII may be in either case, for their neighbours too. -/
theorem ascii_lower_alike (c : Char) : isCaseIgnorable c.toLower = isCaseIgnorable c ∧
    isCased c.toLower = isCased c ∧ isCapitalSigma c.toLower = isCapitalSigma c ∧
    lowerChar c.toLower = lowerChar c := by
  have capitals : ∀ place < 26, let letter := Char.ofNat (65 + place)
      isCaseIgnorable letter.toLower = isCaseIgnorable letter ∧
        isCased letter.toLower = isCased letter ∧
        isCapitalSigma letter.toLower = isCapitalSigma letter ∧
        lowerChar letter.toLower = lowerChar letter := by
    decide
  rcases ascii_lower_cases c with ⟨-, above, below, -⟩ | ⟨-, same⟩
  · have found := capitals (c.toNat - 65) (by omega)
    rw [Nat.add_sub_of_le above, Char.ofNat_toNat] at found
    exact found
  · rw [same]
    exact ⟨rfl, rfl, rfl, rfl⟩

theorem starts_cased_map_toLower (text : List Char) :
    startsCased (text.map Char.toLower) = startsCased text := by
  induction text with
  | nil => rfl
  | cons c rest ih =>
      obtain ⟨ignorable, cased, -, -⟩ := ascii_lower_alike c
      unfold startsCased at ih ⊢
      rw [List.map_cons, List.find?_cons, List.find?_cons, ignorable]
      cases isCaseIgnorable c with
      | true => exact ih
      | false => exact cased

theorem lower_from_map_toLower (inWord : Bool) (text : List Char) :
    lowerFrom inWord (text.map Char.toLower) = lowerFrom inWord text := by
  induction text generalizing inWord with
  | nil => rfl
  | cons c rest ih =>
      obtain ⟨ignorable, cased, sigma, lowered⟩ := ascii_lower_alike c
      simp only [List.map_cons, lowerFrom, ignorable, cased, sigma, lowered,
        starts_cased_map_toLower, ih]

theorem lower_same_letters (text other : List Char)
    (same : other.map Char.toLower = text.map Char.toLower) : lower other = lower text := by
  have whole := lower_from_map_toLower false other
  rw [same, lower_from_map_toLower] at whole
  exact whole.symm

end DiceRoller.Text
