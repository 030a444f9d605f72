import DiceRoller.Proofs.Text.LowerCase

/-!
Letters that lower case leaves alone. No letter that lower case maps to is one that it maps on, and
no capital sigma is left to look around. So every piece of a text in lower case is its own lower
case.
-/

namespace DiceRoller.Text

namespace CaseRun

def target (run : CaseRun) (code : Nat) : Nat :=
  (code + run.shift).toNat

/-- No letter that the run maps to is one of the other run: they lie apart, or they take turns. -/
def misses (run other : CaseRun) : Bool :=
  (run.target run.last).blt other.first || other.last.blt (run.target run.first) ||
    ((run.step == 2 || run.first == run.last) && other.step == 2 &&
      (run.target run.first + other.first) % 2 == 1)

/-- No letter that the run maps to is mapped on: none is in a run, and none is a capital that is
settled before the runs are looked at. -/
def isFinal (run : CaseRun) : Bool :=
  0 ≤ run.first + run.shift && run.clearOf 65 90 && run.clearOf 0x130 0x130 &&
    lowerRuns.all run.misses

end CaseRun

theorem lower_runs_final : lowerRuns.all CaseRun.isFinal = true := by
  decide +kernel

theorem not_covered (run other : CaseRun) (code : Nat) (covered : run.covers code = true)
    (positive : 0 ≤ run.first + run.shift) (missed : run.misses other = true) :
    other.covers (run.target code) = false := by
  simp only [CaseRun.covers, Bool.and_eq_true, decide_eq_true_eq, beq_iff_eq] at covered
  simp only [CaseRun.misses, Bool.or_eq_true, Bool.and_eq_true, Nat.blt_eq, beq_iff_eq] at missed
  rw [← Bool.not_eq_true]
  simp only [CaseRun.covers, Bool.and_eq_true, decide_eq_true_eq, beq_iff_eq]
  unfold CaseRun.target at *
  rintro ⟨⟨above, below⟩, turn⟩
  rcases missed with (before | behind) | ⟨⟨alternates, stepOther⟩, odd⟩
  · omega
  · omega
  · -- Every second letter is taken, and the first ones differ by an odd distance.
    rw [stepOther] at turn
    rcases alternates with step | single
    · rw [step] at covered
      omega
    · omega

theorem shifted_kept (c : Char) (outside : ∀ run ∈ lowerRuns, run.covers c.toNat = false) :
    shifted lowerRuns c = c := by
  rcases shifted_cases lowerRuns c with same | ⟨run, member, covered, -⟩
  · exact same
  · rw [outside run member] at covered
    exact Bool.noConfusion covered

theorem settled_of_uncovered (c : Char) (beyond : 128 ≤ c.toNat) (undotted : c.toNat ≠ 0x130)
    (outside : ∀ run ∈ lowerRuns, run.covers c.toNat = false) : Settled c where
  kept := by
    rw [lowerChar, if_neg (by omega), if_neg undotted, shifted_kept c outside]
  no_sigma := by
    simp only [isCapitalSigma, beq_eq_false_iff_ne]
    intro sigma
    have capital : lowerRuns.any (fun run => run.covers 0x3A3) = true := by decide +kernel
    obtain ⟨run, member, covered⟩ := List.any_eq_true.mp capital
    rw [← sigma, outside run member] at covered
    exact Bool.noConfusion covered

theorem plain_of_code (c : Char) (ascii : c.toNat < 128) (small : c.toNat < 65 ∨ 90 < c.toNat) :
    isPlain c = true := by
  rcases ascii_lower_cases c with ⟨-, above, below, -⟩ | ⟨noUpper, -⟩
  · omega
  · simp [isPlain, ascii, noUpper]

theorem settled_of_moved (run : CaseRun) (c : Char) (member : run ∈ lowerRuns)
    (covered : run.covers c.toNat = true) : Settled (Char.ofNat (run.target c.toNat)) := by
  have final := List.all_eq_true.mp lower_runs_final run member
  simp only [CaseRun.isFinal, CaseRun.clearOf, Bool.and_eq_true, Bool.or_eq_true,
    decide_eq_true_eq] at final
  obtain ⟨⟨⟨positive, -, noCapital⟩, -, notDotted⟩, missed⟩ := final
  have moved : run.target c.toNat = (c.toNat + run.shift).toNat := rfl
  have bounds : run.first ≤ c.toNat ∧ c.toNat ≤ run.last := by
    simp only [CaseRun.covers, Bool.and_eq_true, decide_eq_true_eq] at covered
    exact covered.1
  rcases char_of_code (run.target c.toNat) with code | nul
  · by_cases ascii : run.target c.toNat < 128
    · exact settled_of_plain _ (plain_of_code _ (by omega) (by omega))
    · refine settled_of_uncovered _ (by omega) (by omega) fun other listed => ?_
      rw [code]
      exact not_covered run other c.toNat covered positive (List.all_eq_true.mp missed other listed)
  · exact settled_of_plain _ (plain_of_code _ (by omega) (by omega))

theorem lower_char_settled (c : Char) (noSigma : isCapitalSigma c = false) :
    ∀ letter ∈ lowerChar c, Settled letter := by
  intro letter member
  by_cases ascii : c.toNat < 128
  · rw [lowerChar, if_pos ascii] at member
    rw [List.mem_singleton.mp member]
    apply settled_of_plain
    rcases ascii_lower_cases c with ⟨-, above, below, lowered⟩ | ⟨noUpper, same⟩
    · exact plain_of_code _ (by omega) (by omega)
    · simp [isPlain, same, ascii, noUpper]
  by_cases dotted : c.toNat = 0x130
  · rw [lowerChar, if_neg ascii, if_pos dotted] at member
    rcases List.mem_pair.mp member with rfl | rfl
    · exact settled_of_plain _ (by decide)
    · exact settled_of_uncovered _ (by decide) (by decide) (by decide +kernel)
  have single : lowerChar c = [shifted lowerRuns c] := by
    rw [lowerChar, if_neg ascii, if_neg dotted]
  rw [single] at member
  rw [List.mem_singleton.mp member]
  rcases shifted_cases lowerRuns c with same | ⟨run, listed, covered, moved⟩
  · rw [same] at single ⊢
    exact ⟨single, noSigma⟩
  · rw [moved]
    exact settled_of_moved run c listed covered

theorem small_sigma_settled (c : Char) (sigma : isSmallSigma c = true) : Settled c := by
  have outside : lowerRuns.all (fun run => !run.covers 0x3C2 && !run.covers 0x3C3) = true := by
    decide +kernel
  simp only [isSmallSigma, Bool.or_eq_true, beq_iff_eq] at sigma
  refine settled_of_uncovered c (by omega) (by omega) fun run listed => ?_
  have missed := List.all_eq_true.mp outside run listed
  simp only [Bool.and_eq_true, Bool.not_eq_true'] at missed
  rcases sigma with final | medial
  · rw [final, missed.1]
  · rw [medial, missed.2]

theorem lower_from_all_settled (inWord : Bool) (text : List Char) :
    ∀ c ∈ lowerFrom inWord text, Settled c := by
  induction text generalizing inWord with
  | nil => simp [lowerFrom]
  | cons c rest ih =>
      simp only [lowerFrom]
      by_cases sigma : isCapitalSigma c = true
      · rw [if_pos sigma]
        refine List.forall_mem_cons.mpr ⟨small_sigma_settled _ ?_, ih _⟩
        split <;> decide
      · rw [if_neg sigma]
        have here := lower_char_settled c (Bool.eq_false_iff.mpr sigma)
        exact List.forall_mem_append.mpr ⟨here, ih _⟩

/-- No character of a text in lower case is moved by lower case, whatever is cut out of it. -/
theorem lower_all_settled (text : List Char) : ∀ c ∈ lower text, Settled c :=
  lower_from_all_settled false text

end DiceRoller.Text
