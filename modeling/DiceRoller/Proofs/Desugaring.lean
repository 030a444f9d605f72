import DiceRoller.Proofs.Ranking
import DiceRoller.Proofs.Rolling

/-!
A mode is a way of writing. A plain d20 under a mode scores as two d20 of which the better or the
worse is kept, once its base is taken out of the script; all other terms are rolled as without the
mode. So no base is ever part of a total, and without a plain d20 a mode changes nothing.
-/

namespace DiceRoller

namespace Mode

def keeping : Mode → SelectorKind
  | advantage => .keepHigh
  | disadvantage => .keepLow

/-- Two d20 of which the one that the mode asks for is kept. -/
def pair (mode : Mode) : Pool :=
  ⟨2, 20, some ⟨mode.keeping, 1, by decide⟩, by decide, by decide⟩

theorem pair_subtotal (mode : Mode) (first second : Int) :
    mode.pair.subtotal [first, second] = mode.pick first second := by
  have ranking : Die.descending [first, second] =
      [max first second, min first second] := by
    by_cases front : first ≥ second
    · simp [Die.descending, front]
    · have back := le_of_not_ge front
      simp [Die.descending, front, max_eq_right back, min_eq_left back]
  rw [mode.pair.subtotal_selected _ rfl, ranking]
  cases mode with
  | advantage => simp [Selector.part, keeping, pick]
  | disadvantage => simp [Selector.part, keeping, pick]

end Mode

theorem Pool.not_edged_none (dice : Pool) : ¬ dice.Edged none := by
  simp [Edged]

theorem Pool.edged_some_iff (dice : Pool) (mode : Mode) :
    dice.Edged (some mode) ↔ dice.PlainD20 := by
  simp [Edged]

namespace Term

def PlainD20 : Term → Prop
  | modifier _ => False
  | pool dice => dice.PlainD20

instance : DecidablePred PlainD20
  | modifier _ => inferInstanceAs (Decidable False)
  | pool dice => inferInstanceAs (Decidable dice.PlainD20)

def desugared (mode : Mode) (term : Term) : Term :=
  if term.PlainD20 then pool mode.pair else term

def withoutBase (term : Term) (values : List Int) : List Int :=
  if term.PlainD20 then values.tail else values

theorem deals_desugared (mode : Mode) (term : Term) (values : List Int) (detail : Detail)
    (deals : term.Deals (some mode) values detail) :
    ∃ other, (term.desugared mode).Deals none (term.withoutBase values) other ∧
      other.subtotal = detail.subtotal ∧ (¬ term.PlainD20 → other = detail) := by
  unfold desugared withoutBase
  cases deals with
  | modifier value => exact ⟨.modifier value, .modifier value, rfl, fun _ => rfl⟩
  | edge dice edge base first second edged moded =>
      obtain rfl := Option.some.inj moded
      have lone : (pool dice).PlainD20 := edged.1
      rw [if_pos lone, if_pos lone]
      exact ⟨mode.pair.detail [first, second],
        .pool mode.pair [first, second] mode.pair.not_edged_none rfl,
        mode.pair_subtotal first second, fun other => absurd lone other⟩
  | pool dice rolls plain length =>
      have other : ¬ (pool dice).PlainD20 := mt (dice.edged_some_iff mode).mpr plain
      rw [if_neg other, if_neg other]
      exact ⟨dice.detail values, .pool dice values dice.not_edged_none length, rfl, fun _ => rfl⟩

theorem roll_other (term : Term) (other : ¬ term.PlainD20) (mode instead : Option Mode)
    (source : Source) : term.roll mode source = term.roll instead source := by
  cases term with
  | modifier value => rfl
  | pool dice =>
      have unedged : ∀ given, dice.edge? given = none := fun given =>
        (dice.edge_none_iff given).mpr fun edged => other edged.1
      simp only [roll, unedged]

end Term

/-- A script for these terms, without the bases of the plain d20 among them. -/
def Mode.withoutBases (mode : Mode) : List Term → List Int → List Int
  | [], values => values
  | term :: later, values =>
      term.withoutBase (values.take (term.schedule (some mode)).length) ++
        mode.withoutBases later (values.drop (term.schedule (some mode)).length)

namespace Resolution

theorem deals_desugared (mode : Mode) (terms : List Term) (values : List Int)
    (details : List Detail) (deals : Deals (some mode) terms values details) (spare : List Int) :
    ∃ dice others, mode.withoutBases terms (values ++ spare) = dice ++ spare ∧
      Deals none (terms.map (Term.desugared mode)) dice others ∧
      others.map Detail.subtotal = details.map Detail.subtotal ∧
      ∀ (place : Nat) (term : Term), terms[place]? = some term → ¬ term.PlainD20 →
        others[place]? = details[place]? := by
  induction deals with
  | nil => exact ⟨[], [], rfl, .nil, rfl, fun place term found => absurd found (by simp)⟩
  | cons term later values rest detail details here _ ih =>
      obtain ⟨other, front, subtotal, same⟩ := term.deals_desugared mode values detail here
      obtain ⟨dice, others, script, back, subtotals, sames⟩ := ih
      obtain ⟨length, -⟩ := Term.deals_length (some mode) term values detail here
      refine ⟨term.withoutBase values ++ dice, other :: others, ?_,
        .cons _ _ _ _ _ _ front back, ?_, ?_⟩
      · rw [Mode.withoutBases, ← length, List.append_assoc, List.take_left, List.drop_left, script,
          List.append_assoc]
      · rw [List.map_cons, List.map_cons, subtotal, subtotals]
      · intro place found located plain
        cases place with
        | zero =>
            obtain rfl : term = found := by simpa using located
            simp [same plain]
        | succ place => simpa using sames place found (by simpa using located) plain

theorem of_terms_others (terms : List Term) (others : ∀ term ∈ terms, ¬ term.PlainD20)
    (mode instead : Option Mode) (source : Source) :
    ofTerms mode terms source = ofTerms instead terms source := by
  induction terms generalizing source with
  | nil => rfl
  | cons term later ih =>
      obtain ⟨here, behind⟩ := List.forall_mem_cons.mp others
      simp only [ofTerms, term.roll_other here mode instead, ih behind]

end Resolution

/-- Two complete rolls of as many terms with the same subtotals, and with the same records but for
those of the plain d20 among the terms. -/
structure Resolution.ScoresAs (terms : List Term) (other given : Resolution) : Prop where
  complete : given.complete = true ∧ other.complete = true
  records : given.details.length = terms.length
  total : other.total = given.total
  subtotals : other.details.map Detail.subtotal = given.details.map Detail.subtotal
  others : ∀ (place : Nat) (term : Term), terms[place]? = some term → ¬ term.PlainD20 →
    other.details[place]? = given.details[place]?

namespace Expression

def desugared (expression : Expression) (mode : Mode) : Expression :=
  ⟨expression.terms.map (Term.desugared mode), none⟩

theorem desugared_scores (expression : Expression) (mode : Mode)
    (moded : expression.mode = some mode) (label : Option String) (values : List Int)
    (enough : expression.schedule.length ≤ values.length) :
    Resolution.ScoresAs expression.terms
      ((expression.desugared mode).resolve
        (.script label (mode.withoutBases expression.terms values)))
      (expression.resolve (.script label values)) := by
  obtain ⟨complete, deals, -⟩ := expression.resolve_script label values enough
  have count := (Resolution.deals_length _ _ _ _ deals).2.2
  rw [moded] at deals
  obtain ⟨dice, others, script, plainDeals, subtotals, sames⟩ :=
    Resolution.deals_desugared mode _ _ _ deals (values.drop expression.schedule.length)
  rw [List.take_append_drop] at script
  obtain ⟨details, completePlain, -⟩ := Resolution.of_terms_script none _ dice _ others plainDeals
    (.script label (mode.withoutBases expression.terms values)) (congrArg Feed.script script)
  have plain : ((expression.desugared mode).resolve
      (.script label (mode.withoutBases expression.terms values))).details = others := details
  refine ⟨⟨complete, completePlain⟩, count, ?_, ?_, ?_⟩
  · unfold Resolution.total
    rw [plain, Detail.total_eq_sum, Detail.total_eq_sum, subtotals]
  · rw [plain, subtotals]
  · intro place term located other
    rw [plain]
    exact sames place term located other

/-- An expression under a mode scores as the one that does without the mode on the script without
bases. So scripts that share all dice but the bases give the same total, and without a plain d20
the mode is of no effect. -/
theorem resolve_desugared (expression : Expression) (mode : Mode)
    (moded : expression.mode = some mode) (label : Option String) :
    (∀ values : List Int, expression.schedule.length ≤ values.length →
      Resolution.ScoresAs expression.terms
        ((expression.desugared mode).resolve
          (.script label (mode.withoutBases expression.terms values)))
        (expression.resolve (.script label values))) ∧
    (∀ values others : List Int, expression.schedule.length ≤ values.length →
      expression.schedule.length ≤ others.length →
      mode.withoutBases expression.terms others = mode.withoutBases expression.terms values →
      (expression.resolve (.script label others)).total =
        (expression.resolve (.script label values)).total) ∧
    ((∀ term ∈ expression.terms, ¬ term.PlainD20) →
      ∀ (instead : Option Mode) (source : Source),
        Expression.resolve ⟨expression.terms, instead⟩ source = expression.resolve source) := by
  refine ⟨expression.desugared_scores mode moded label, ?_, ?_⟩
  · intro values others enough enoughOthers same
    have first := (expression.desugared_scores mode moded label values enough).total
    have second := (expression.desugared_scores mode moded label others enoughOthers).total
    rw [same] at second
    exact second.symm.trans first
  · exact fun others instead source => Resolution.of_terms_others _ others instead _ source

/-- A d20 under advantage before two d6, and two d6 that a disadvantage leaves alone. -/
theorem resolve_desugared_d20 :
    Resolution.ScoresAs
      [.pool ⟨1, 20, none, by decide, by decide⟩, .pool ⟨2, 6, none, by decide, by decide⟩]
      (resolve ⟨[.pool Mode.advantage.pair, .pool ⟨2, 6, none, by decide, by decide⟩], none⟩
        (.script none [17, 4, 3, 5]))
      (resolve ⟨[.pool ⟨1, 20, none, by decide, by decide⟩,
        .pool ⟨2, 6, none, by decide, by decide⟩], some .advantage⟩
        (.script none [11, 17, 4, 3, 5])) ∧
    (resolve ⟨[.pool ⟨1, 20, none, by decide, by decide⟩,
        .pool ⟨2, 6, none, by decide, by decide⟩], some .advantage⟩
        (.script none [20, 17, 4, 3, 5])).total = 25 ∧
    resolve ⟨[.pool ⟨2, 6, none, by decide, by decide⟩], none⟩ (.cycle none [3, 5]) =
      resolve ⟨[.pool ⟨2, 6, none, by decide, by decide⟩], some .disadvantage⟩
        (.cycle none [3, 5]) := by
  let d20 : Term := .pool ⟨1, 20, none, by decide, by decide⟩
  let pool : Term := .pool ⟨2, 6, none, by decide, by decide⟩
  obtain ⟨scores, bases, -⟩ := resolve_desugared ⟨[d20, pool], some .advantage⟩ .advantage rfl none
  refine ⟨scores [11, 17, 4, 3, 5] (by decide), ?_, ?_⟩
  · exact bases [11, 17, 4, 3, 5] [20, 17, 4, 3, 5] (by decide) (by decide) rfl
  · exact (resolve_desugared ⟨[pool], some .disadvantage⟩ .disadvantage rfl none).2.2
      (by decide) none (.cycle none [3, 5])

end Expression

end DiceRoller
