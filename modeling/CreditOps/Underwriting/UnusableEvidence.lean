import CreditOps.Underwriting.SuiteBounds

/-!
# Evidence that the suite cannot use

A fact whose value is not a number is reported missing, but one whose value is special or out of the range of a
calculator makes the builder raise. The builder returns a suite, with every calculator in it and every input it
could not supply reported, exactly for the views that are usable: no fact it reads is special, and the values are
within the bounds of the calculators (`suite_complete_iff`).
-/

set_option autoImplicit false

namespace CreditOps.Underwriting

open Repayments Decimal Results Evidence

section Views

variable {numberText : Decimal → String} {view : EvidenceView}

/-! ## What a view supplies -/

/-- What the first fact of a key reads as; nothing, as for a text that is not a number, when there is none. -/
def firstReading (numberText : Decimal → String) (view : EvidenceView) (key : String) : ParsedDecimal :=
  match view.confirmedFacts.find? (·.fieldKey = key) with
  | none => .invalid
  | some fact => factDecimal numberText fact

/-- The number that was read. -/
def readingValue : ParsedDecimal → Option Decimal
  | .finite value => some value
  | _ => none

/-- The number a view supplies for a key. -/
def suppliedValue (numberText : Decimal → String) (view : EvidenceView) (key : String) : Option Decimal :=
  readingValue (firstReading numberText view key)

/-- A view that every calculator can be run on. -/
structure Usable (numberText : Decimal → String) (view : EvidenceView) : Prop where
  notSpecial : ∀ key ∈ usedKeys, firstReading numberText view key ≠ .special
  bounds : SuiteBounds (fun input => suppliedValue numberText view input.fieldKey)
    (suppliedValue numberText view priorRevenueKey) (suppliedValue numberText view priorNetProfitKey)

/-- A suite with every calculator and with a record of each input that the view does not supply. -/
structure Complete (numberText : Decimal → String) (view : EvidenceView) (suite : CalculatorSuite) :
    Prop where
  results : suite.results.map (·.calculator) = ["current_ratio", "quick_ratio", "debt_to_equity",
    "debt_to_assets", "gross_margin", "operating_margin", "net_margin", "return_on_assets",
    "return_on_equity", "receivable_days", "inventory_days", "payable_days", "asset_turnover",
    "cash_conversion_cycle", "working_capital_need", "working_capital_gap"]
  trends : suite.trendResults.map (·.metric) = ["revenue", "net_profit"]
  scenarios : suite.scenarioResults.map (·.scenarioName) = [downsideScenarioName]
  missing : suite.missing.map (·.fieldKey) =
    usedKeys.filter fun key => (suppliedValue numberText view key).isNone

theorem inputFor_isOk_iff {name key : String} {hname : name ≠ ""} :
    (∃ built, inputFor numberText view name key hname = .ok built) ↔
      firstReading numberText view key ≠ .special := by
  unfold inputFor factInput firstReading
  cases view.confirmedFacts.find? (·.fieldKey = key) with
  | none => exact ⟨fun _ => nofun, fun _ => ⟨_, rfl⟩⟩
  | some fact =>
    dsimp only
    cases factDecimal numberText fact with
    | invalid | finite => exact ⟨fun _ => nofun, fun _ => ⟨_, rfl⟩⟩
    | special => exact ⟨fun ⟨_, h⟩ => (nomatch h), fun h => absurd rfl h⟩

/-- **An input carries the value the view supplies**, and its absence is recorded under its key. -/
theorem of_inputFor {name key : String} {hname : name ≠ ""} {built : CalculatorInput × Option MissingEvidence}
    (h : inputFor numberText view name key hname = .ok built) :
    built.1.value = suppliedValue numberText view key ∧
      built.2.map (·.fieldKey) = if built.1.value.isNone then some key else none := by
  unfold inputFor factInput at h
  unfold suppliedValue firstReading
  cases hfind : view.confirmedFacts.find? (·.fieldKey = key) with
  | none =>
    rw [hfind] at h
    cases h
    exact ⟨rfl, rfl⟩
  | some fact =>
    rw [hfind] at h
    dsimp only at h ⊢
    cases hread : factDecimal numberText fact with
    | invalid | finite =>
      rw [hread] at h
      cases h
      exact ⟨rfl, rfl⟩
    | special =>
      rw [hread] at h
      cases h

theorem collectInputs_eq_ok {built : SuiteInput → CalculatorInput × Option MissingEvidence} :
    collectInputs numberText view = .ok built ↔
      ∀ input, inputFor numberText view input.name input.fieldKey input.name_ne_empty = .ok (built input) := by
  unfold collectInputs
  rw [tabulate_eq_ok]
  constructor
  · rintro ⟨hin, -⟩ input
    exact hin input input.mem_all
  · intro h
    exact ⟨fun input _ => h input, fun input hinput => absurd input.mem_all hinput⟩

theorem collectInputs_isOk_iff :
    (∃ built, collectInputs numberText view = .ok built) ↔
      ∀ input : SuiteInput, firstReading numberText view input.fieldKey ≠ .special := by
  simp only [collectInputs_eq_ok]
  constructor
  · rintro ⟨built, h⟩ input
    exact inputFor_isOk_iff.1 ⟨built input, h input⟩
  · intro h
    exact ⟨_, fun input => (inputFor_isOk_iff.2 (h input)).choose_spec⟩

/-! ## When the builder returns -/

theorem forall_usedKeys {P : String → Prop} :
    (∀ key ∈ usedKeys, P key) ↔
      (∀ input : SuiteInput, P input.fieldKey) ∧ P priorRevenueKey ∧ P priorNetProfitKey := by
  unfold usedKeys
  rw [List.forall_mem_append]
  simp only [List.mem_cons, List.not_mem_nil, or_false, forall_eq_or_imp, forall_eq, List.mem_map,
    forall_exists_index, and_imp, forall_apply_eq_imp_iff₂]
  exact and_congr_left fun _ => ⟨fun h input => h input input.mem_all, fun h input _ => h input⟩

/-- **The builder returns a suite** exactly for the usable views. -/
theorem suite_isOk_iff :
    (∃ suite, buildCalculatorSuite numberText view = .ok suite) ↔ Usable numberText view := by
  unfold buildCalculatorSuite
  constructor
  · rintro ⟨_, h⟩
    obtain ⟨built, hbuilt, h⟩ := bind_eq_ok.1 h
    obtain ⟨results, hress, h⟩ := bind_eq_ok.1 h
    obtain ⟨⟨priorRevenue, _⟩, hpriorRevenue, h⟩ := bind_eq_ok.1 h
    obtain ⟨revenueTrend, hrevenueTrend, h⟩ := bind_eq_ok.1 h
    obtain ⟨⟨priorNetProfit, _⟩, hpriorNetProfit, h⟩ := bind_eq_ok.1 h
    obtain ⟨netProfitTrend, hnetProfitTrend, h⟩ := bind_eq_ok.1 h
    obtain ⟨scenario, hscenario, -⟩ := bind_eq_ok.1 h
    have hinputs := collectInputs_eq_ok.1 hbuilt
    have hvals : ∀ input, (built input).1.value = suppliedValue numberText view input.fieldKey :=
      fun input => (of_inputFor (hinputs input)).1
    have hpriorRevenueValue : priorRevenue.value = _ := (of_inputFor hpriorRevenue).1
    have hpriorNetProfitValue : priorNetProfit.value = _ := (of_inputFor hpriorNetProfit).1
    have hbounds := suiteResults_isOk_iff.1 ⟨results, mapError_eq_ok.1 hress⟩
    have hrevenue := suiteTrend_isOk_iff.1 ⟨revenueTrend, mapError_eq_ok.1 hrevenueTrend⟩
    have hnetProfit := suiteTrend_isOk_iff.1 ⟨netProfitTrend, mapError_eq_ok.1 hnetProfitTrend⟩
    have hmetrics := suiteScenario_isOk_iff.1 ⟨scenario, mapError_eq_ok.1 hscenario⟩
    simp only [Held, hpriorRevenueValue, hvals] at hrevenue
    simp only [Held, hpriorNetProfitValue, hvals] at hnetProfit
    simp only [hvals] at hbounds hmetrics
    refine ⟨forall_usedKeys.2 ⟨fun input => inputFor_isOk_iff.1 ⟨_, hinputs input⟩,
      inputFor_isOk_iff.1 ⟨_, hpriorRevenue⟩, inputFor_isOk_iff.1 ⟨_, hpriorNetProfit⟩⟩, ?_⟩
    exact ⟨hbounds, hrevenue.2.1, hnetProfit.2.1, hrevenue.1, hnetProfit.1, hmetrics⟩
  · rintro ⟨hfinite, hbounds⟩
    obtain ⟨hkeys, hrevenueKey, hnetProfitKey⟩ := forall_usedKeys.1 hfinite
    obtain ⟨built, hbuilt⟩ := collectInputs_isOk_iff.2 hkeys
    have hvals : ∀ input, (built input).1.value = suppliedValue numberText view input.fieldKey :=
      fun input => (of_inputFor (collectInputs_eq_ok.1 hbuilt input)).1
    obtain ⟨⟨priorRevenue, _⟩, hpriorRevenue⟩ :=
      (@inputFor_isOk_iff _ _ "prior_revenue" _ (by decide)).2 hrevenueKey
    obtain ⟨⟨priorNetProfit, _⟩, hpriorNetProfit⟩ :=
      (@inputFor_isOk_iff _ _ "prior_net_profit" _ (by decide)).2 hnetProfitKey
    have hpriorRevenueValue : priorRevenue.value = _ := (of_inputFor hpriorRevenue).1
    have hpriorNetProfitValue : priorNetProfit.value = _ := (of_inputFor hpriorNetProfit).1
    obtain ⟨results, hress⟩ := (@suiteResults_isOk_iff fun input => (built input).1).2 (by
      simp only [hvals]
      exact hbounds.toResultBounds)
    obtain ⟨revenueTrend, hrevenueTrend⟩ := (@suiteTrend_isOk_iff (fun input => (built input).1) .revenue
      priorRevenue).2 (by
        simp only [Held, hpriorRevenueValue, hvals]
        exact ⟨hbounds.revenueTrend, hbounds.priorRevenueHeld, hbounds.held _⟩)
    obtain ⟨netProfitTrend, hnetProfitTrend⟩ := (@suiteTrend_isOk_iff
      (fun input => (built input).1) .netProfit priorNetProfit).2 (by
        simp only [Held, hpriorNetProfitValue, hvals]
        exact ⟨hbounds.netProfitTrend, hbounds.priorNetProfitHeld, hbounds.held _⟩)
    obtain ⟨scenario, hscenario⟩ := (@suiteScenario_isOk_iff fun input => (built input).1).2 (by
      simp only [hvals]
      exact hbounds.scenario)
    refine ⟨_, bind_eq_ok.2 ⟨built, hbuilt, bind_eq_ok.2 ⟨results, mapError_eq_ok.2 hress,
      bind_eq_ok.2 ⟨_, hpriorRevenue, bind_eq_ok.2 ⟨revenueTrend, mapError_eq_ok.2 hrevenueTrend,
        bind_eq_ok.2 ⟨_, hpriorNetProfit, bind_eq_ok.2 ⟨netProfitTrend, mapError_eq_ok.2 hnetProfitTrend,
          bind_eq_ok.2 ⟨scenario, mapError_eq_ok.2 hscenario, rfl⟩⟩⟩⟩⟩⟩⟩⟩

/-! ## What the builder returns -/

variable {inputs : SuiteInput → CalculatorInput}

theorem calculators_of_suiteResults {results : List CalculatorResult}
    (h : suiteResults inputs = .ok results) :
    results.map (·.calculator) = ["current_ratio", "quick_ratio", "debt_to_equity", "debt_to_assets",
      "gross_margin", "operating_margin", "net_margin", "return_on_assets", "return_on_equity",
      "receivable_days", "inventory_days", "payable_days", "asset_turnover", "cash_conversion_cycle",
      "working_capital_need", "working_capital_gap"] := by
  unfold suiteResults at h
  obtain ⟨_, hrec, h⟩ := bind_eq_ok.1 h
  obtain ⟨_, hinv, h⟩ := bind_eq_ok.1 h
  obtain ⟨_, hpay, h⟩ := bind_eq_ok.1 h
  obtain ⟨_, hccc, h⟩ := bind_eq_ok.1 h
  obtain ⟨_, hneed, h⟩ := bind_eq_ok.1 h
  obtain ⟨_, hcur, h⟩ := bind_eq_ok.1 h
  obtain ⟨_, hquick, h⟩ := bind_eq_ok.1 h
  obtain ⟨_, hequity, h⟩ := bind_eq_ok.1 h
  obtain ⟨_, hassets, h⟩ := bind_eq_ok.1 h
  obtain ⟨_, hgross, h⟩ := bind_eq_ok.1 h
  obtain ⟨_, hoper, h⟩ := bind_eq_ok.1 h
  obtain ⟨_, hnet, h⟩ := bind_eq_ok.1 h
  obtain ⟨_, hroa, h⟩ := bind_eq_ok.1 h
  obtain ⟨_, hroe, h⟩ := bind_eq_ok.1 h
  obtain ⟨_, hturnover, h⟩ := bind_eq_ok.1 h
  obtain ⟨_, hgap, h⟩ := bind_eq_ok.1 h
  cases h
  have hcycle := of_cashConversionCycle (of_ratio hrec).2.2.2 (of_ratio hinv).2.2.2 (of_ratio hpay).2.2.2
    hccc
  simp only [List.map_cons, List.map_nil, (of_ratio hrec).1, (of_ratio hinv).1, (of_ratio hpay).1, hcycle.1,
    (of_workingCapitalNeed hneed).1, (of_ratio hcur).1, calculator_of_quickRatio hquick,
    (of_ratio hequity).1, (of_ratio hassets).1, (of_ratio hgross).1, (of_ratio hoper).1,
    (of_ratio hnet).1, (of_ratio hroa).1, (of_ratio hroe).1, (of_ratio hturnover).1,
    (of_workingCapitalGap hgap).1]

theorem of_suiteTrend {metric : SuiteInput} {prior : CalculatorInput} {trend : TrendResult}
    (h : suiteTrend inputs metric prior = .ok trend) :
    trend.metric = metric.name ∧ trend.points = [periodPoint "ky_truoc" (by decide) prior,
      periodPoint "ky_hien_tai" (by decide) (inputs metric)] := by
  obtain ⟨_, -, h⟩ := bind_eq_ok.1 h
  obtain ⟨_, -, h⟩ := bind_eq_ok.1 h
  cases h
  exact ⟨rfl, rfl⟩

theorem scenarioName_of_suiteScenario {scenario : ScenarioResult}
    (h : suiteScenario inputs = .ok scenario) : scenario.scenarioName = downsideScenarioName := by
  obtain ⟨_, -, h⟩ := bind_eq_ok.1 h
  obtain ⟨_, -, h⟩ := bind_eq_ok.1 h
  obtain ⟨_, -, h⟩ := bind_eq_ok.1 h
  cases h
  rfl

/-- The keys of what is recorded missing are those of the inputs without a value. -/
theorem map_fieldKey_filterMap {α : Type} {absent : α → Option MissingEvidence} {key : α → String}
    {isNone : α → Bool} {xs : List α}
    (h : ∀ x ∈ xs, (absent x).map (·.fieldKey) = if isNone x then some (key x) else none) :
    (xs.filterMap absent).map (·.fieldKey) = (xs.filter isNone).map key := by
  induction xs with
  | nil => rfl
  | cons x _ ih =>
    have hrest := ih fun y hy => h y (List.mem_cons_of_mem x hy)
    have hx := h x List.mem_cons_self
    cases hnone : isNone x with
    | true =>
      rw [hnone, if_pos rfl, Option.map_eq_some_iff] at hx
      obtain ⟨_, hrecord, hkey⟩ := hx
      rw [List.filterMap_cons_some hrecord, List.filter_cons_of_pos hnone, List.map_cons, List.map_cons,
        hrest, hkey]
    | false =>
      rw [hnone, if_neg Bool.false_ne_true, Option.map_eq_none_iff] at hx
      rw [List.filterMap_cons_none hx, List.filter_cons_of_neg (by rw [hnone]; exact Bool.false_ne_true),
        hrest]

/-- **A suite that is returned is complete.** -/
theorem complete_of_suite {suite : CalculatorSuite}
    (h : buildCalculatorSuite numberText view = .ok suite) : Complete numberText view suite := by
  unfold buildCalculatorSuite at h
  obtain ⟨built, hbuilt, h⟩ := bind_eq_ok.1 h
  obtain ⟨_, hress, h⟩ := bind_eq_ok.1 h
  obtain ⟨⟨_, noPriorRevenue⟩, hpriorRevenue, h⟩ := bind_eq_ok.1 h
  obtain ⟨_, hrevenueTrend, h⟩ := bind_eq_ok.1 h
  obtain ⟨⟨_, noPriorNetProfit⟩, hpriorNetProfit, h⟩ := bind_eq_ok.1 h
  obtain ⟨_, hnetProfitTrend, h⟩ := bind_eq_ok.1 h
  obtain ⟨_, hscenario, h⟩ := bind_eq_ok.1 h
  cases h
  refine ⟨calculators_of_suiteResults (mapError_eq_ok.1 hress), ?_, ?_, ?_⟩
  · have hrevenue := (of_suiteTrend (mapError_eq_ok.1 hrevenueTrend)).1
    have hnetProfit := (of_suiteTrend (mapError_eq_ok.1 hnetProfitTrend)).1
    simp only [List.map_cons, List.map_nil, hrevenue, hnetProfit]
    rfl
  · have hname := scenarioName_of_suiteScenario (mapError_eq_ok.1 hscenario)
    simp only [List.map_cons, List.map_nil, hname]
  · -- the canonical keys first, then the keys of the prior period
    have hinputs := collectInputs_eq_ok.1 hbuilt
    have hcanonical := @map_fieldKey_filterMap _ (fun input => (built input).2) SuiteInput.fieldKey
      (fun input => (suppliedValue numberText view input.fieldKey).isNone) SuiteInput.all fun input _ => by
        obtain ⟨hvalue, habsent⟩ := of_inputFor (hinputs input)
        rw [habsent, hvalue]
    have hprior := @map_fieldKey_filterMap (Option MissingEvidence × String) (fun prior => prior.1)
      (fun prior => prior.2) (fun prior => (suppliedValue numberText view prior.2).isNone)
      [(noPriorRevenue, priorRevenueKey), (noPriorNetProfit, priorNetProfitKey)] fun prior hprior => by
        rcases List.mem_cons.1 hprior with rfl | hprior
        · obtain ⟨hvalue, habsent⟩ := of_inputFor hpriorRevenue
          rw [← hvalue, habsent]
        · obtain rfl := List.mem_singleton.1 hprior
          obtain ⟨hvalue, habsent⟩ := of_inputFor hpriorNetProfit
          rw [← hvalue, habsent]
    have hclear : ∀ records : List MissingEvidence,
        (records.map clarification).map (·.fieldKey) = records.map (·.fieldKey) := by
      intro records
      rw [List.map_map]
      rfl
    have hrecs : [noPriorRevenue, noPriorNetProfit].filterMap id =
        [(noPriorRevenue, priorRevenueKey), (noPriorNetProfit, priorNetProfitKey)].filterMap
          (fun prior => prior.1) := by
      simp only [List.filterMap_cons, List.filterMap_nil, id]
    have hkeys : [priorRevenueKey, priorNetProfitKey] =
        [(noPriorRevenue, priorRevenueKey), (noPriorNetProfit, priorNetProfitKey)].map
          (fun prior => prior.2) := rfl
    rw [usedKeys, List.filter_append, List.filter_map, hkeys, List.filter_map, List.map_append, hcanonical,
      hclear, hrecs, hprior]
    rfl

/-- **The builder returns a complete suite exactly for the usable views.** -/
theorem suite_complete_iff (numberText : Decimal → String) (view : EvidenceView) :
    (∃ suite, buildCalculatorSuite numberText view = .ok suite ∧ Complete numberText view suite) ↔
      Usable numberText view := by
  rw [← suite_isOk_iff]
  constructor
  · rintro ⟨suite, hsuite, -⟩
    exact ⟨suite, hsuite⟩
  · rintro ⟨suite, hsuite⟩
    exact ⟨suite, hsuite, complete_of_suite hsuite⟩

end Views

/-- A view whose only fact reads as a special value. -/
def specialView : EvidenceView where
  caseId := 1
  caseVersion := 1
  builtAt := 0
  confirmedFacts := [⟨2, "financials.revenue", .string "NaN", 3⟩]

theorem specialView_raises :
    ¬ ∃ suite, buildCalculatorSuite toText specialView = .ok suite ∧ Complete toText specialView suite := by
  rintro ⟨_, h, -⟩
  obtain ⟨built, hbuilt, -⟩ := bind_eq_ok.1 h
  have hspecial : firstReading toText specialView SuiteInput.revenue.fieldKey = .special := by
    decide +kernel
  exact collectInputs_isOk_iff.1 ⟨built, hbuilt⟩ .revenue hspecial

end CreditOps.Underwriting
