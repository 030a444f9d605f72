import DiceRoller.Expression.Run
import Mathlib.Data.List.Chain
import Mathlib.Data.List.SplitBy

/-!
Runs of a notation. A run is a sign and behind it no other sign. Cutting loses nothing, every
piece is a run, and no other list of runs joins to the same text. There is a run for every sign.
-/

namespace DiceRoller.Run

theorem is_sign_iff (c : Char) : isSign c = true ↔ c = '+' ∨ c = '-' := by
  simp [isSign]

def IsRun (run : List Char) : Prop :=
  ∃ sign body, run = sign :: body ∧ isSign sign = true ∧ ∀ c ∈ body, isSign c = false

theorem run_chain (sign : Char) (body : List Char) (plain : ∀ c ∈ body, isSign c = false) :
    (sign :: body).IsChain fun _ next => (!isSign next) = true := by
  induction body generalizing sign with
  | nil => exact .singleton sign
  | cons c rest ih =>
      have tail := ih c fun later member => plain later (List.mem_cons_of_mem c member)
      exact .cons_cons (by simp [plain c List.mem_cons_self]) tail

theorem split_joined_runs (runs : List (List Char)) (all : ∀ run ∈ runs, IsRun run) :
    (runs.flatten.splitBy fun _ next => !isSign next) = runs := by
  apply List.splitBy_flatten
  · intro member
    obtain ⟨sign, body, absurd, -⟩ := all [] member
    exact List.cons_ne_nil sign body absurd.symm
  · intro run member
    obtain ⟨sign, body, rfl, -, plain⟩ := all run member
    exact run_chain sign body plain
  · apply List.Pairwise.isChain
    apply List.pairwise_of_forall_mem_list
    intro left leftMember right rightMember
    obtain ⟨_, _, rfl, -⟩ := all left leftMember
    obtain ⟨_, _, rfl, opens, -⟩ := all right rightMember
    exact ⟨List.cons_ne_nil _ _, List.cons_ne_nil _ _, by simp [opens]⟩

theorem exists_runs (text : List Char) :
    ∃ (before : List Char) (runs : List (List Char)), text = before ++ runs.flatten ∧
      (∀ c ∈ before, isSign c = false) ∧ ∀ run ∈ runs, IsRun run := by
  induction text with
  | nil => exact ⟨[], [], rfl, by simp, by simp⟩
  | cons c rest ih =>
      obtain ⟨before, runs, rfl, plain, all⟩ := ih
      -- A sign opens a run with all that was waiting behind it; any other character waits.
      by_cases sign : isSign c = true
      · refine ⟨[], (c :: before) :: runs, by simp, by simp, ?_⟩
        intro run member
        rcases List.mem_cons.mp member with rfl | later
        · exact ⟨c, before, rfl, sign, plain⟩
        · exact all run later
      · refine ⟨c :: before, runs, rfl, ?_, all⟩
        intro given member
        rcases List.mem_cons.mp member with rfl | later
        · simpa using sign
        · exact plain given later

def startsSigned (text : List Char) : Bool :=
  text.head?.any isSign

theorem signed_eq (joined : List Char) :
    signed joined = if startsSigned joined then joined else '+' :: joined := by
  cases joined with
  | nil => rfl
  | cons c rest =>
      by_cases sign : isSign c = true
      · simp [signed, startsSigned, sign]
      · simp [signed, startsSigned, sign]

theorem signed_cases (joined : List Char) :
    signed joined = joined ∨ signed joined = '+' :: joined := by
  rw [signed_eq]
  cases startsSigned joined with
  | true => exact Or.inl rfl
  | false => exact Or.inr rfl

theorem signed_opens (joined : List Char) :
    ∃ sign rest, signed joined = sign :: rest ∧ isSign sign = true := by
  cases joined with
  | nil => exact ⟨'+', [], rfl, rfl⟩
  | cons c rest =>
      by_cases sign : isSign c = true
      · exact ⟨c, rest, by simp [signed, sign], sign⟩
      · exact ⟨'+', c :: rest, by simp [signed, sign], rfl⟩

theorem split_eq_iff (joined : List Char) (runs : List (List Char)) :
    split joined = runs ↔ runs.flatten = signed joined ∧ ∀ run ∈ runs, IsRun run := by
  constructor
  · rintro rfl
    obtain ⟨before, runs, whole, plain, all⟩ := exists_runs (signed joined)
    -- The text opens with a sign, so nothing is left before the first run.
    have none : before = [] := by
      obtain ⟨sign, rest, opens, isSigned⟩ := signed_opens joined
      cases before with
      | nil => rfl
      | cons c later =>
          rw [opens] at whole
          obtain ⟨rfl, -⟩ := List.cons.inj whole
          rw [plain sign List.mem_cons_self] at isSigned
          exact Bool.noConfusion isSigned
    subst none
    have found : split joined = runs := by
      rw [split, whole, List.nil_append]
      exact split_joined_runs runs all
    rw [found]
    exact ⟨by rw [whole, List.nil_append], all⟩
  · rintro ⟨whole, all⟩
    rw [split, ← whole]
    exact split_joined_runs runs all

theorem split_append (front back : List Char) (nonempty : front ≠ [])
    (opens : ∃ sign rest, back = sign :: rest ∧ isSign sign = true) :
    split (front ++ back) = split front ++ split back := by
  obtain ⟨wholeFront, allFront⟩ := (split_eq_iff front _).mp rfl
  obtain ⟨wholeBack, allBack⟩ := (split_eq_iff back _).mp rfl
  rw [split_eq_iff, List.flatten_append, wholeFront, wholeBack]
  constructor
  · obtain ⟨sign, rest, rfl, isSigned⟩ := opens
    cases front with
    | nil => exact absurd rfl nonempty
    | cons c later =>
        by_cases first : isSign c = true
        · simp [signed, first, isSigned]
        · simp [signed, first, isSigned]
  · intro run member
    rcases List.mem_append.mp member with before | behind
    · exact allFront run before
    · exact allBack run behind

/-- A text behind which a run may open: nothing, or one that ends in a sign. -/
def Opening (front : List Char) : Prop :=
  front = [] ∨ ∃ before sign, front = before ++ [sign] ∧ isSign sign = true

/-- A text that a run may have behind it: nothing, or one that opens with a sign. -/
def Closing (back : List Char) : Prop :=
  back = [] ∨ ∃ sign rest, back = sign :: rest ∧ isSign sign = true

/-- Between its neighbours a body without signs is one run, behind the same sign whatever it is. -/
theorem split_around (front back : List Char) (opening : Opening front) (closing : Closing back) :
    ∃ before sign behind, isSign sign = true ∧
      ∀ body, body ≠ [] → (∀ c ∈ body, isSign c = false) →
        split (front ++ (body ++ back)) = before ++ (sign :: body) :: behind := by
  -- What stands behind the run is cut into the same runs as alone.
  have later : ∃ behind : List (List Char), behind.flatten = back ∧
      ∀ run ∈ behind, IsRun run := by
    rcases closing with rfl | ⟨sign, rest, rfl, opens⟩
    · exact ⟨[], rfl, by simp⟩
    · obtain ⟨whole, all⟩ := (split_eq_iff (sign :: rest) _).mp rfl
      exact ⟨_, by rw [whole]; simp [signed, opens], all⟩
  obtain ⟨behind, joined, allBehind⟩ := later
  rcases opening with rfl | ⟨before, sign, rfl, isSigned⟩
  · refine ⟨[], '+', behind, rfl, fun body filled plain => ?_⟩
    rw [split_eq_iff]
    constructor
    · cases body with
      | nil => exact absurd rfl filled
      | cons c rest =>
          have other := plain c List.mem_cons_self
          simp [signed, other, joined]
    · exact List.forall_mem_cons.mpr ⟨⟨'+', body, rfl, rfl, plain⟩, allBehind⟩
  · cases before with
    | nil =>
        refine ⟨[], sign, behind, isSigned, fun body _ plain => ?_⟩
        rw [split_eq_iff]
        constructor
        · simp [signed, isSigned, joined]
        · exact List.forall_mem_cons.mpr ⟨⟨sign, body, rfl, isSigned, plain⟩, allBehind⟩
    | cons first earlier =>
        refine ⟨split (first :: earlier), sign, behind, isSigned, fun body _ plain => ?_⟩
        obtain ⟨whole, all⟩ := (split_eq_iff (first :: earlier) _).mp rfl
        rw [split_eq_iff]
        constructor
        · rw [List.flatten_append, whole, List.flatten_cons, joined]
          by_cases opens : isSign first = true
          · simp [signed, opens]
          · simp [signed, opens]
        · rw [List.forall_mem_append, List.forall_mem_cons]
          exact ⟨all, ⟨sign, body, rfl, isSigned, plain⟩, allBehind⟩

theorem forall_split (property : Char → Prop) (joined : List Char) (plus : property '+')
    (all : ∀ c ∈ joined, property c) : ∀ run ∈ split joined, ∀ c ∈ run, property c := by
  intro run member c inside
  have whole := ((split_eq_iff joined _).mp rfl).1
  have found : c ∈ signed joined := by
    rw [← whole]
    exact List.mem_flatten_of_mem member inside
  rcases signed_cases joined with same | opened
  · rw [same] at found
    exact all c found
  · rw [opened] at found
    rcases List.mem_cons.mp found with rfl | later
    · exact plus
    · exact all c later

theorem split_run (run : List Char) (isRun : IsRun run) : split run = [run] := by
  rw [split_eq_iff]
  constructor
  · obtain ⟨sign, body, rfl, opens, -⟩ := isRun
    simp [signed, opens]
  · intro other member
    rw [List.mem_singleton.mp member]
    exact isRun

theorem split_ne_nil (joined : List Char) : split joined ≠ [] := by
  intro empty
  obtain ⟨whole, -⟩ := (split_eq_iff joined []).mp empty
  obtain ⟨sign, rest, opens, -⟩ := signed_opens joined
  rw [opens] at whole
  exact List.cons_ne_nil sign rest whole.symm

/-- Runs that are a text, with a plus put in front unless it opens with a sign. -/
structure Cuts (joined : List Char) (runs : List (List Char)) : Prop where
  nonempty : runs ≠ []
  whole : runs.flatten = if startsSigned joined then joined else '+' :: joined
  each : ∀ run ∈ runs, IsRun run

theorem count_signs (run : List Char) (isRun : IsRun run) : run.countP isSign = 1 := by
  obtain ⟨sign, body, rfl, opening, plain⟩ := isRun
  have none : body.countP isSign = 0 := by
    rw [List.countP_eq_zero]
    intro c member
    simp [plain c member]
  rw [List.countP_cons_of_pos opening, none]

/-- There are as many runs in a row as signs in the text that they make. -/
theorem length_eq_signs (runs : List (List Char)) (all : ∀ run ∈ runs, IsRun run) :
    runs.length = runs.flatten.countP isSign := by
  induction runs with
  | nil => rfl
  | cons run runs ih =>
      obtain ⟨first, later⟩ := List.forall_mem_cons.mp all
      rw [List.length_cons, List.flatten_cons, List.countP_append, count_signs run first,
        ih later, Nat.add_comm]

theorem split_cuts (joined : List Char) : Cuts joined (split joined) := by
  obtain ⟨whole, all⟩ := (split_eq_iff joined _).mp rfl
  exact ⟨split_ne_nil joined, by rw [whole, signed_eq], all⟩

/-- The runs of a text are the only runs that it can be cut into, and it has one run for each of its
signs, and one more unless it opens with a sign. -/
theorem split_canonical (joined : List Char) :
    (∀ runs, Cuts joined runs ↔ runs = split joined) ∧
      (split joined).length = joined.countP isSign + if startsSigned joined then 0 else 1 := by
  constructor
  · intro runs
    constructor
    · intro cuts
      have found := (split_eq_iff joined runs).mpr ⟨by rw [cuts.whole, signed_eq], cuts.each⟩
      exact found.symm
    · rintro rfl
      exact split_cuts joined
  · obtain ⟨-, whole, all⟩ := split_cuts joined
    rw [length_eq_signs _ all, whole]
    cases startsSigned joined with
    | true => rfl
    | false => exact List.countP_cons_of_pos rfl

/-- Signs in a row and a sign at the end open runs of their own. -/
example : split "2d6++3-".toList = ["+2d6".toList, "+".toList, "+3".toList, "-".toList] := by
  decide

end DiceRoller.Run
