import CreditOps.Underwriting.UnusableEvidence

/-!
# The order of the facts

Of several confirmed facts with one key the builder takes the first one it meets, and says nothing of the others.
A suite carries every input it was computed from (`inputs_of_suite`), so two orders of the facts whose first
facts read differently give different suites: what the builder returns is the suite of every order of the facts
exactly when the facts of each key it uses read alike (`suite_anyOrder_iff`).
-/

set_option autoImplicit false

namespace CreditOps.Underwriting

open Repayments Decimal Results Evidence

section Orders

variable {numberText : Decimal → String} {view : EvidenceView}

/-! ## Facts of one key -/

/-- The facts in another order. -/
def reordered (view : EvidenceView) (facts : List EvidenceFact) : EvidenceView :=
  { view with confirmedFacts := facts }

/-- The two facts give one input: the same value under the same reference. -/
def ReadAlike (numberText : Decimal → String) (fact other : EvidenceFact) : Prop :=
  factRef fact = factRef other ∧ factDecimal numberText fact = factDecimal numberText other

/-- The facts of each key that the suite looks up read alike. -/
def Unambiguous (numberText : Decimal → String) (view : EvidenceView) : Prop :=
  ∀ key ∈ usedKeys, ∀ fact ∈ view.confirmedFacts, ∀ other ∈ view.confirmedFacts,
    fact.fieldKey = key → other.fieldKey = key → ReadAlike numberText fact other

variable {key name : String} {fact other : EvidenceFact}

theorem factInput_congr {hname : name ≠ ""} (h : ReadAlike numberText fact other) :
    factInput numberText name key hname (some fact) = factInput numberText name key hname (some other) := by
  obtain ⟨href, hread⟩ := h
  unfold factInput
  dsimp only
  rw [href, hread]

variable {input : CalculatorInput}

/-- **An input tells the facts it may be read from apart** by their values and their references. -/
theorem readAlike_of_factInput {hname : name ≠ ""} {absent absent' : Option MissingEvidence}
    (h : factInput numberText name key hname (some fact) = .ok (input, absent))
    (h' : factInput numberText name key hname (some other) = .ok (input, absent')) :
    ReadAlike numberText fact other := by
  have hread : ∀ {fact : EvidenceFact} {input : CalculatorInput} {absent : Option MissingEvidence},
      factInput numberText name key hname (some fact) = .ok (input, absent) →
        input.factRefs = [factRef fact] ∧
          factDecimal numberText fact = input.value.elim .invalid .finite := by
    intro fact input absent h
    unfold factInput at h
    dsimp only at h
    split at h
    · rename_i hread
      cases h
      exact ⟨rfl, hread⟩
    · cases h
    · rename_i value hread
      cases h
      exact ⟨rfl, hread⟩
  obtain ⟨hrefs, hvalue⟩ := hread h
  obtain ⟨hrefs', hvalue'⟩ := hread h'
  rw [hrefs, List.cons.injEq] at hrefs'
  exact ⟨hrefs'.1, hvalue.trans hvalue'.symm⟩

variable {facts : List EvidenceFact}

/-- In an unambiguous view the first fact of a key reads alike in every order. -/
theorem inputFor_reordered (hview : Unambiguous numberText view)
    (hfacts : facts.Perm view.confirmedFacts) (hkey : key ∈ usedKeys) (hname : name ≠ "") :
    inputFor numberText (reordered view facts) name key hname = inputFor numberText view name key hname := by
  unfold inputFor reordered
  dsimp only
  cases hfirst : facts.find? (·.fieldKey = key) with
  | none =>
    have hnone : view.confirmedFacts.find? (·.fieldKey = key) = none := by
      rw [List.find?_eq_none] at hfirst ⊢
      exact fun fact hfact => hfirst fact (hfacts.mem_iff.2 hfact)
    rw [hnone]
  | some fact =>
    have hfact := List.mem_of_find?_eq_some hfirst
    have hfactKey := List.find?_some hfirst
    rw [decide_eq_true_iff] at hfactKey
    cases hother : view.confirmedFacts.find? (·.fieldKey = key) with
    | none =>
      rw [List.find?_eq_none] at hother
      exact absurd (decide_eq_true hfactKey) (hother fact (hfacts.mem_iff.1 hfact))
    | some other =>
      have hotherKey := List.find?_some hother
      rw [decide_eq_true_iff] at hotherKey
      exact factInput_congr (hview key hkey fact (hfacts.mem_iff.1 hfact) other
        (List.mem_of_find?_eq_some hother) hfactKey hotherKey)

theorem exists_order_of_mem (hfact : fact ∈ view.confirmedFacts) (hkey : fact.fieldKey = key) :
    ∃ facts : List EvidenceFact, facts.Perm view.confirmedFacts ∧ facts.find? (·.fieldKey = key) = some fact := by
  refine ⟨fact :: view.confirmedFacts.erase fact, (List.perm_cons_erase hfact).symm, ?_⟩
  rw [List.find?_cons_of_pos]
  exact decide_eq_true hkey

/-! ## The inputs in a suite -/

theorem mem_usedKeys (input : SuiteInput) : input.fieldKey ∈ usedKeys :=
  List.mem_append_left _ (List.mem_map_of_mem input.mem_all)

/-- Where an input of the suite stands: the result, and the place among its inputs. -/
def standsAt : SuiteInput → Nat × Nat
  | .currentAssets => (0, 0)
  | .currentLiabilities => (0, 1)
  | .inventory => (10, 0)
  | .totalDebt => (2, 0)
  | .totalEquity => (2, 1)
  | .totalAssets => (3, 1)
  | .revenue => (4, 1)
  | .grossProfit => (4, 0)
  | .operatingProfit => (5, 0)
  | .netProfit => (6, 0)
  | .accountsReceivable => (9, 0)
  | .accountsPayable => (11, 0)
  | .costOfGoodsSold => (10, 1)
  | .ownWorkingCapital => (15, 7)
  | .otherFundingSources => (15, 8)

/-- **Every input stands in the results.** -/
theorem inputs_of_suite {inputs : SuiteInput → CalculatorInput} {results : List CalculatorResult}
    (h : suiteResults inputs = .ok results) (input : SuiteInput) :
    (results[(standsAt input).1]?.bind fun result => result.inputs[(standsAt input).2]?) =
      some (inputs input) := by
  unfold suiteResults at h
  obtain ⟨_, hrec, h⟩ := bind_eq_ok.1 h
  obtain ⟨_, hinv, h⟩ := bind_eq_ok.1 h
  obtain ⟨_, hpay, h⟩ := bind_eq_ok.1 h
  obtain ⟨_, hccc, h⟩ := bind_eq_ok.1 h
  obtain ⟨_, hneed, h⟩ := bind_eq_ok.1 h
  obtain ⟨_, hcur, h⟩ := bind_eq_ok.1 h
  obtain ⟨_, -, h⟩ := bind_eq_ok.1 h
  obtain ⟨_, hequity, h⟩ := bind_eq_ok.1 h
  obtain ⟨_, hassets, h⟩ := bind_eq_ok.1 h
  obtain ⟨_, hgross, h⟩ := bind_eq_ok.1 h
  obtain ⟨_, hoper, h⟩ := bind_eq_ok.1 h
  obtain ⟨_, hnet, h⟩ := bind_eq_ok.1 h
  obtain ⟨_, -, h⟩ := bind_eq_ok.1 h
  obtain ⟨_, -, h⟩ := bind_eq_ok.1 h
  obtain ⟨_, -, h⟩ := bind_eq_ok.1 h
  obtain ⟨gap, hgap, h⟩ := bind_eq_ok.1 h
  cases h
  have hgapInputs : gap.inputs = annualOperatingOutlay (inputs .costOfGoodsSold) ::
      ([inputs .accountsReceivable, inputs .revenue] ++ [inputs .inventory, inputs .costOfGoodsSold] ++
        [inputs .accountsPayable, inputs .costOfGoodsSold]) ++
      [inputs .ownWorkingCapital, inputs .otherFundingSources] := by
    rw [(of_workingCapitalGap hgap).2, (of_workingCapitalNeed hneed).2.1,
      (of_cashConversionCycle (of_ratio hrec).2.2.2 (of_ratio hinv).2.2.2 (of_ratio hpay).2.2.2 hccc).2.1,
      (of_ratio hrec).2.1, (of_ratio hinv).2.1, (of_ratio hpay).2.1]
  have hpair : ∀ {calculator : String} {numerator denominator : CalculatorInput} {scale : Decimal}
      {result : CalculatorResult}, ratio calculator numerator denominator scale = .ok result →
        result.inputs[0]? = some numerator ∧ result.inputs[1]? = some denominator := by
    intro calculator numerator denominator scale result h
    rw [(of_ratio h).2.1]
    exact ⟨rfl, rfl⟩
  cases input with
  | currentAssets => exact (hpair hcur).1
  | currentLiabilities => exact (hpair hcur).2
  | inventory => exact (hpair hinv).1
  | totalDebt => exact (hpair hequity).1
  | totalEquity => exact (hpair hequity).2
  | totalAssets => exact (hpair hassets).2
  | revenue => exact (hpair hgross).2
  | grossProfit => exact (hpair hgross).1
  | operatingProfit => exact (hpair hoper).1
  | netProfit => exact (hpair hnet).1
  | accountsReceivable => exact (hpair hrec).1
  | accountsPayable => exact (hpair hpay).1
  | costOfGoodsSold => exact (hpair hinv).2
  | ownWorkingCapital =>
    change gap.inputs[7]? = some (inputs .ownWorkingCapital)
    rw [hgapInputs]
    rfl
  | otherFundingSources =>
    change gap.inputs[8]? = some (inputs .otherFundingSources)
    rw [hgapInputs]
    rfl

theorem input_eq_of_point {period : String} {hper : period ≠ ""} {other : CalculatorInput}
    (hinput : input.name = name) (hother : other.name = name)
    (h : periodPoint period hper input = periodPoint period hper other) : input = other := by
  obtain ⟨inputName, _, _, _⟩ := input
  obtain ⟨otherName, _, _, _⟩ := other
  simp only [periodPoint, TrendPoint.mk.injEq, true_and] at h
  obtain ⟨rfl, rfl⟩ := h
  obtain rfl : inputName = otherName := hinput.trans hother.symm
  rfl

/-- What `_input_for` builds is named as it was told. -/
theorem name_of_inputFor {hname : name ≠ ""} {built : CalculatorInput × Option MissingEvidence}
    (h : inputFor numberText view name key hname = .ok built) : built.1.name = name := by
  unfold inputFor factInput at h
  split at h
  · cases h
    rfl
  · split at h
    · cases h
      rfl
    · cases h
    · cases h
      rfl

/-- **Two views with one suite** read every key as the same input. -/
theorem inputFor_eq_of_suite {other : EvidenceView} {suite : CalculatorSuite}
    (h : buildCalculatorSuite numberText view = .ok suite)
    (h' : buildCalculatorSuite numberText other = .ok suite) :
    ∀ key ∈ usedKeys, ∃ (name : String) (hname : name ≠ "") (built : CalculatorInput)
      (absent absent' : Option MissingEvidence),
      inputFor numberText view name key hname = .ok (built, absent) ∧
        inputFor numberText other name key hname = .ok (built, absent') := by
  unfold buildCalculatorSuite at h h'
  obtain ⟨built, hbuilt, h⟩ := bind_eq_ok.1 h
  obtain ⟨_, hress, h⟩ := bind_eq_ok.1 h
  obtain ⟨⟨priorRevenue, noPriorRevenue⟩, hpriorRevenue, h⟩ := bind_eq_ok.1 h
  obtain ⟨_, hrevenueTrend, h⟩ := bind_eq_ok.1 h
  obtain ⟨⟨priorNetProfit, noPriorNetProfit⟩, hpriorNetProfit, h⟩ := bind_eq_ok.1 h
  obtain ⟨_, hnetProfitTrend, h⟩ := bind_eq_ok.1 h
  obtain ⟨_, -, h⟩ := bind_eq_ok.1 h
  cases h
  obtain ⟨built', hbuilt', h'⟩ := bind_eq_ok.1 h'
  obtain ⟨_, hress', h'⟩ := bind_eq_ok.1 h'
  obtain ⟨⟨_, noPriorRevenue'⟩, hpriorRevenue', h'⟩ := bind_eq_ok.1 h'
  obtain ⟨_, hrevenueTrend', h'⟩ := bind_eq_ok.1 h'
  obtain ⟨⟨_, noPriorNetProfit'⟩, hpriorNetProfit', h'⟩ := bind_eq_ok.1 h'
  obtain ⟨_, hnetProfitTrend', h'⟩ := bind_eq_ok.1 h'
  obtain ⟨_, -, h'⟩ := bind_eq_ok.1 h'
  have hsuite := Except.ok.inj h'
  rw [CalculatorSuite.mk.injEq] at hsuite
  obtain ⟨rfl, htrends, -, -⟩ := hsuite
  rw [List.cons.injEq, List.cons.injEq] at htrends
  obtain ⟨rfl, rfl, -⟩ := htrends
  refine forall_usedKeys.2 ⟨fun input => ?_, ?_, ?_⟩
  · have hsame : (built input).1 = (built' input).1 := by
      have hleft := inputs_of_suite (mapError_eq_ok.1 hress) input
      have hright := inputs_of_suite (mapError_eq_ok.1 hress') input
      exact Option.some.inj (hleft.symm.trans hright)
    refine ⟨input.name, input.name_ne_empty, (built input).1, (built input).2, (built' input).2,
      collectInputs_eq_ok.1 hbuilt input, ?_⟩
    rw [hsame]
    exact collectInputs_eq_ok.1 hbuilt' input
  · have hpoints := (of_suiteTrend (mapError_eq_ok.1 hrevenueTrend)).2.symm.trans
      (of_suiteTrend (mapError_eq_ok.1 hrevenueTrend')).2
    rw [List.cons.injEq] at hpoints
    obtain rfl := input_eq_of_point (name_of_inputFor hpriorRevenue)
      (name_of_inputFor hpriorRevenue') hpoints.1
    exact ⟨_, _, priorRevenue, noPriorRevenue, noPriorRevenue', hpriorRevenue, hpriorRevenue'⟩
  · have hpoints := (of_suiteTrend (mapError_eq_ok.1 hnetProfitTrend)).2.symm.trans
      (of_suiteTrend (mapError_eq_ok.1 hnetProfitTrend')).2
    rw [List.cons.injEq] at hpoints
    obtain rfl := input_eq_of_point (name_of_inputFor hpriorNetProfit)
      (name_of_inputFor hpriorNetProfit') hpoints.1
    exact ⟨_, _, priorNetProfit, noPriorNetProfit, noPriorNetProfit', hpriorNetProfit, hpriorNetProfit'⟩

/-! ## Every order of the facts -/

/-- In an unambiguous view the order of the facts makes no difference to the builder. -/
theorem build_reordered (hview : Unambiguous numberText view) (hfacts : facts.Perm view.confirmedFacts) :
    buildCalculatorSuite numberText (reordered view facts) = buildCalculatorSuite numberText view := by
  have hcollect : collectInputs numberText (reordered view facts) = collectInputs numberText view := by
    unfold collectInputs
    congr 1
    funext input
    exact inputFor_reordered hview hfacts (mem_usedKeys input) input.name_ne_empty
  have hprior : ∀ {name key : String} (hname : name ≠ ""), key ∈ [priorRevenueKey, priorNetProfitKey] →
      inputFor numberText (reordered view facts) name key hname = inputFor numberText view name key hname :=
    fun hname hkey => inputFor_reordered hview hfacts (List.mem_append_right _ hkey) hname
  unfold buildCalculatorSuite
  rw [hcollect, hprior _ List.mem_cons_self, hprior _ (List.mem_cons_of_mem _ List.mem_cons_self)]

/-- The builder gives one suite for every order of the facts, and reports a key whose facts differ. -/
def AnyOrder (numberText : Decimal → String) (view : EvidenceView) : Prop :=
  ∀ suite, buildCalculatorSuite numberText view = .ok suite →
    (∀ facts : List EvidenceFact, facts.Perm view.confirmedFacts →
      buildCalculatorSuite numberText (reordered view facts) = .ok suite) ∧
    ∀ key ∈ usedKeys, ∀ fact ∈ view.confirmedFacts, ∀ other ∈ view.confirmedFacts,
      fact.fieldKey = key → other.fieldKey = key → ¬ ReadAlike numberText fact other →
        ∃ absent ∈ suite.missing, absent.fieldKey = key

end Orders

/-- Where every order gives one suite, each of two facts of a key can be moved to the front. -/
theorem unambiguous_of_anyOrder {numberText : Decimal → String} {view : EvidenceView}
    (husable : Usable numberText view) (hany : AnyOrder numberText view) : Unambiguous numberText view := by
  intro key hkey fact hfact other hother hfactKey hotherKey
  obtain ⟨suite, hsuite⟩ := suite_isOk_iff.2 husable
  obtain ⟨horders, -⟩ := hany suite hsuite
  obtain ⟨facts, hperm, hfirst⟩ := exists_order_of_mem hfact hfactKey
  obtain ⟨others, hperm', hfirst'⟩ := exists_order_of_mem hother hotherKey
  obtain ⟨_, _, _, _, _, hinput, hinput'⟩ :=
    inputFor_eq_of_suite (horders facts hperm) (horders others hperm') key hkey
  unfold inputFor reordered at hinput hinput'
  rw [hfirst] at hinput
  rw [hfirst'] at hinput'
  exact readAlike_of_factInput hinput hinput'

/-- A view with two facts of one key. -/
def repeatedView : EvidenceView where
  caseId := 1
  caseVersion := 1
  builtAt := 0
  confirmedFacts := [⟨2, "financials.own_working_capital", .string "1", 3⟩,
    ⟨4, "financials.own_working_capital", .string "5", 3⟩]

theorem usable_repeatedView : Usable toText repeatedView := by
  have hvalue : ∀ input : SuiteInput, suppliedValue toText repeatedView input.fieldKey =
      if input = .ownWorkingCapital then some ⟨1, 0⟩ else none := by
    intro input
    cases input <;> decide +kernel
  have hrevenue : suppliedValue toText repeatedView priorRevenueKey = none := by decide +kernel
  have hnetProfit : suppliedValue toText repeatedView priorNetProfitKey = none := by decide +kernel
  have hratios : ∀ entry ∈ suiteRatios, entry.1 ≠ .ownWorkingCapital := by decide
  have hmetrics : ∀ input ∈ scenarioInputs, input ≠ .ownWorkingCapital := by decide
  refine ⟨by decide +kernel, ?_⟩
  simp only [hvalue, hrevenue, hnetProfit]
  exact {
    held := by
      intro input x hx
      split at hx
      · obtain rfl := Option.mem_some_iff.1 hx
        have hone : |(⟨1, 0⟩ : Decimal).toRat| = 1 := by norm_num [toRat]
        rw [hone]
        exact one_lt_quantLimit.trans_le quantLimit_le_valueLimit
      · cases hx
    ratios := by
      intro entry hentry a ha
      rw [if_neg (hratios entry hentry)] at ha
      cases ha
    quickDifference := fun _ ha => nomatch ha
    quickRatio := fun _ ha => nomatch ha
    cycle := fun _ hr => nomatch hr
    need := fun _ hdays => nomatch hdays
    gap := fun _ hn => nomatch hn
    priorRevenueHeld := fun _ hx => nomatch hx
    priorNetProfitHeld := fun _ hx => nomatch hx
    revenueTrend := fun _ hx => nomatch hx
    netProfitTrend := fun _ hx => nomatch hx
    scenario := by
      intro input hinput x hx
      rw [if_neg (hmetrics input hinput)] at hx
      cases hx }

end CreditOps.Underwriting
