import DiceRoller.Proofs.Text.LowerCase
import DiceRoller.Text.Numeral
import Mathlib.Algebra.Group.Nat.Defs
import Mathlib.Data.List.TakeWhile

/-!
Numerals as they stand in a text. A numeral is a run of digits, its leading zeros included; it is
short when few digits are left behind those zeros, and a text is convertible when none of its
runs of digits is too long for a conversion. Lower case makes no run of digits longer.
-/

namespace DiceRoller.Numeral

structure Spelled (digits : List Char) : Prop where
  nonempty : digits ≠ []
  all : ∀ c ∈ digits, c.isDigit = true

def value (digits : List Char) : Nat :=
  Nat.ofDigitChars 10 digits 0

/-- At most nine digits behind leading zeros. -/
def Short (digits : List Char) : Prop :=
  ∃ zeros significant, digits = List.replicate zeros '0' ++ significant ∧ significant.length ≤ 9

/-- No run of digits is longer than a conversion takes. -/
def Convertible (text : List Char) : Prop :=
  ∀ digits, digits <:+: text → (∀ c ∈ digits, c.isDigit = true) → digits.length ≤ mostDigits

theorem short_iff_dropWhile (digits : List Char) :
    Short digits ↔ (digits.dropWhile fun c => c == '0').length ≤ 9 := by
  constructor
  · rintro ⟨zeros, significant, rfl, few⟩
    rw [List.dropWhile_append_of_pos (by simp)]
    exact Nat.le_trans (List.dropWhile_suffix _).length_le few
  · intro few
    refine ⟨(digits.takeWhile fun c => c == '0').length, _, ?_, few⟩
    have zeros : digits.takeWhile (fun c => c == '0') =
        List.replicate (digits.takeWhile fun c => c == '0').length '0' := by
      rw [List.eq_replicate_iff]
      refine ⟨rfl, fun c member => ?_⟩
      simpa using List.mem_takeWhile_imp member
    rw [← zeros, List.takeWhile_append_dropWhile]

theorem short_nil : Short [] :=
  ⟨0, [], rfl, by simp⟩

theorem value_append (left right : List Char) :
    value (left ++ right) = 10 ^ right.length * value left + value right := by
  unfold value
  rw [Nat.ofDigitChars_append, Nat.ofDigitChars_eq_ofDigitChars_zero]

theorem value_lt (digits : List Char) (all : ∀ c ∈ digits, c.isDigit = true) :
    value digits < 10 ^ digits.length := by
  induction digits with
  | nil => simp [value]
  | cons c rest ih =>
      have tail := ih fun later member => all later (List.mem_cons_of_mem c member)
      have digit := Char.isDigit_iff_toNat.mp (all c List.mem_cons_self)
      have zero : '0'.toNat = 48 := rfl
      have nine : '9'.toNat = 57 := rfl
      have head : value [c] ≤ 9 := by
        simp only [value, Nat.ofDigitChars_cons, Nat.ofDigitChars_nil]
        omega
      have split := value_append [c] rest
      rw [List.singleton_append] at split
      have scaled : 10 ^ rest.length * value [c] ≤ 10 ^ rest.length * 9 :=
        Nat.mul_le_mul_left _ head
      rw [split, List.length_cons, Nat.pow_succ]
      omega

theorem value_replicate (zeros : Nat) : value (List.replicate zeros '0') = 0 := by
  simp [value]

theorem short_value_lt (digits : List Char) (all : ∀ c ∈ digits, c.isDigit = true)
    (short : Short digits) : value digits < 10 ^ 9 := by
  obtain ⟨zeros, significant, rfl, few⟩ := short
  have small := value_lt significant fun c member => all c (List.mem_append_right _ member)
  rw [value_append, value_replicate]
  calc 10 ^ significant.length * 0 + value significant
    _ = value significant := by omega
    _ < 10 ^ significant.length := small
    _ ≤ 10 ^ 9 := Nat.pow_le_pow_right (by decide) few

theorem value_zeros (zeros : Nat) (digits : List Char) :
    value (List.replicate zeros '0' ++ digits) = value digits := by
  rw [value_append, value_replicate, Nat.mul_zero, Nat.zero_add]

theorem short_replicate (zeros : Nat) : Short (List.replicate zeros '0') :=
  ⟨zeros, [], by simp, by simp⟩

theorem short_zeros (zeros : Nat) (digits : List Char) (short : Short digits) :
    Short (List.replicate zeros '0' ++ digits) := by
  obtain ⟨more, significant, rfl, few⟩ := short
  refine ⟨zeros + more, significant, ?_, few⟩
  rw [← List.append_assoc, List.replicate_append_replicate]

theorem spelled_toDigits (number : Nat) : Spelled (Nat.toDigits 10 number) where
  nonempty := Nat.toDigits_ne_nil
  all _ member := Nat.isDigit_of_mem_toDigits (by decide) (by decide) member

@[simp] theorem value_toDigits (number : Nat) : value (Nat.toDigits 10 number) = number :=
  Nat.ofDigitChars_ten_toDigits

theorem short_toDigits_iff (number : Nat) :
    Short (Nat.toDigits 10 number) ↔ number < 10 ^ 9 := by
  constructor
  · intro short
    simpa using short_value_lt _ (spelled_toDigits number).all short
  · intro small
    refine ⟨0, Nat.toDigits 10 number, by simp, ?_⟩
    exact (Nat.length_toDigits_le_iff (by decide) (by decide)).mpr small

theorem toDigits_length_le (number : Nat) (small : number < 10 ^ 9) :
    (Nat.toDigits 10 number).length ≤ mostDigits := by
  have few : (Nat.toDigits 10 number).length ≤ 9 :=
    (Nat.length_toDigits_le_iff (by decide) (by decide)).mpr small
  exact Nat.le_trans few (by decide)

theorem small_iff (number : Nat) :
    number < tooLarge ↔ (Nat.toDigits 10 number).length ≤ mostDigits := by
  have some : 0 < mostDigits := by decide
  unfold tooLarge
  -- The power itself is never worked out.
  generalize mostDigits = most at some ⊢
  exact (Nat.length_toDigits_le_iff (by decide) some).symm

theorem value_small (digits : List Char) (all : ∀ c ∈ digits, c.isDigit = true)
    (few : digits.length ≤ mostDigits) : value digits < tooLarge := by
  unfold tooLarge
  generalize mostDigits = most at few ⊢
  exact Nat.lt_of_lt_of_le (value_lt digits all) (Nat.pow_le_pow_right (by decide) few)

/-- The text of a positive number has no needless zero: it would be shorter without it. -/
theorem toDigits_head (number : Nat) (positive : 0 < number) :
    (Nat.toDigits 10 number).head? ≠ some '0' := by
  intro zero
  obtain ⟨rest, digits⟩ := List.head?_eq_some_iff.mp zero
  have bound := value_lt rest fun c member =>
    (spelled_toDigits number).all c (by rw [digits]; exact List.mem_cons_of_mem '0' member)
  have less : number < 10 ^ rest.length := by
    calc number = value ('0' :: rest) := by rw [← digits, value_toDigits]
      _ = value rest := by simp [value, Nat.ofDigitChars_cons]
      _ < 10 ^ rest.length := bound
  rcases Nat.eq_zero_or_pos rest.length with none | some
  · rw [none] at less
    omega
  · have fewer := (Nat.length_toDigits_le_iff (by decide) some).mpr less
    rw [digits, List.length_cons] at fewer
    omega

theorem integer_toList (value : Int) : (toString value).toList =
    (if value < 0 then ['-'] else []) ++ Nat.toDigits 10 value.natAbs := by
  cases value with
  | ofNat size =>
      have positive : ¬ (size : Int) < 0 := by omega
      simp [Int.toString_eq_repr, Int.repr, positive]
  | negSucc size => simp [Int.toString_eq_repr, Int.repr]

theorem integer_chars (value : Int) :
    ∀ c ∈ (toString value).toList, c.isDigit = true ∨ c = '-' := by
  intro c member
  rw [integer_toList] at member
  rcases List.mem_append.mp member with sign | digit
  · split at sign
    · exact Or.inr (List.mem_singleton.mp sign)
    · cases sign
  · exact Or.inl ((spelled_toDigits value.natAbs).all c digit)

theorem integer_toList_injective (value other : Int)
    (same : (toString value).toList = (toString other).toList) : value = other := by
  have noMinus : ∀ number, '-' ∉ Nat.toDigits 10 number := fun number member =>
    absurd ((spelled_toDigits number).all '-' member) (by decide)
  -- The minus tells the signs apart, and the digits then tell the sizes apart.
  have minus : ∀ given : Int, '-' ∈ (toString given).toList ↔ given < 0 := by
    intro given
    rw [integer_toList]
    split
    next negative => simp [negative]
    next positive => simp [positive, noMinus]
  have signs : value < 0 ↔ other < 0 := by rw [← minus, ← minus, same]
  rw [integer_toList, integer_toList, if_congr signs rfl rfl, List.append_cancel_left_eq] at same
  have sizes : value.natAbs = other.natAbs := by
    rw [← value_toDigits value.natAbs, same, value_toDigits]
  omega

theorem convertible_nil : Convertible [] := by
  intro digits inside _
  simp [List.infix_nil.mp inside]

theorem convertible_of_length (text : List Char) (few : text.length ≤ mostDigits) :
    Convertible text :=
  fun _ inside _ => Nat.le_trans inside.length_le few

theorem convertible_of_infix (part text : List Char) (inside : part <:+: text)
    (convertible : Convertible text) : Convertible part :=
  fun digits here all => convertible digits (here.trans inside) all

theorem convertible_append_cons (left : List Char) (c : Char) (right : List Char)
    (parts : c.isDigit = false) (before : Convertible left) (after : Convertible right) :
    Convertible (left ++ c :: right) := by
  intro digits inside all
  have absent : c ∉ digits := by
    intro member
    rw [all c member] at parts
    exact Bool.noConfusion parts
  -- A run of digits stands left of the character, or right of it, or it would hold it.
  rcases List.infix_append_iff.mp inside with here | here | ⟨first, second, rfl, ending, opening⟩
  · exact before digits here all
  · rcases List.infix_cons_iff.mp here with opening | later
    · cases digits with
      | nil => simp
      | cons d rest =>
          obtain ⟨rfl, -⟩ := List.cons_prefix_cons.mp opening
          exact absurd List.mem_cons_self absent
    · exact after digits later all
  · cases second with
    | nil => simpa using before first ending.isInfix fun c member => all c (by simpa using member)
    | cons d rest =>
        obtain ⟨rfl, -⟩ := List.cons_prefix_cons.mp opening
        exact absurd (by simp) absent

theorem convertible_append_plain (left piece right : List Char)
    (plain : ∀ c ∈ piece, c.isDigit = false) (nonempty : piece ≠ [])
    (before : Convertible left) (after : Convertible right) :
    Convertible (left ++ (piece ++ right)) := by
  induction piece generalizing left with
  | nil => exact absurd rfl nonempty
  | cons c rest ih =>
      have parts := plain c List.mem_cons_self
      apply convertible_append_cons left c _ parts before
      cases rest with
      | nil => exact after
      | cons d tail =>
          exact ih [] (fun later member => plain later (List.mem_cons_of_mem c member))
            (List.cons_ne_nil d tail) convertible_nil

/-- With the blanks left out, runs of digits are no longer in lower case than before. -/
theorem convertible_lower (text : List Char)
    (convertible : Convertible (text.filter fun c => !Text.isBlank c)) :
    Convertible ((Text.lower text).filter fun c => !Text.isBlank c) := by
  obtain ⟨pieces, related, joined⟩ := Text.lower_pieces text
  rw [joined]
  clear joined
  -- The digits that stand right before the rest of the text go along in the induction.
  suffices general : ∀ before : List Char,
      Convertible (before ++ text.filter fun c => !Text.isBlank c) →
      Convertible (before ++ pieces.flatten.filter fun c => !Text.isBlank c) from
    general [] convertible
  clear convertible
  induction related with
  | nil => exact fun _ given => given
  | @cons c piece text pieces lowered _ ih =>
      intro before given
      rw [List.flatten_cons, List.filter_append]
      by_cases blank : Text.isBlank c = true
      · have same := lowered.mark_kept (by simp [Text.isMark, blank])
        simpa [same, blank] using ih before (by simpa [blank] using given)
      · by_cases digit : c.isDigit = true
        · have same := lowered.mark_kept (by simp [Text.isMark, digit])
          simpa [same, blank] using ih (before ++ [c]) (by simpa [blank] using given)
        · have plain := lowered.no_new_mark (by simp [Text.isMark, blank, digit])
          simp only [Text.isMark, Bool.or_eq_false_iff] at plain
          have kept : piece.filter (fun c => !Text.isBlank c) = piece := by
            rw [List.filter_eq_self]
            intro letter member
            simp [(plain letter member).2]
          have split : before ++ (c :: text).filter (fun c => !Text.isBlank c) =
              before ++ c :: text.filter fun c => !Text.isBlank c := by
            simp [blank]
          rw [split] at given
          rw [kept]
          apply convertible_append_plain before piece _
            (fun letter member => (plain letter member).1) lowered.nonempty
          · exact convertible_of_infix before _ List.infix_append_left given
          · apply ih []
            apply convertible_of_infix _ _ _ given
            exact List.infix_append_of_infix_right (List.suffix_cons c _).isInfix

end DiceRoller.Numeral
