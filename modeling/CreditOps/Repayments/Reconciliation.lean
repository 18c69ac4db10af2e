import CreditOps.Repayments.Conservation

/-!
# The debt-service schedule reconciles

The balance of a schedule is rounded to the cent after every row, and the last row repays whatever is
left. Amounts on the cent subtract exactly, so the rows telescope: the principals sum to the principal
rounded to the cent, and nothing is left in the end. The total is summed in the decimal context and is
exact as long as no sum needs more digits.

Every schedule that is returned reconciles, and a schedule is returned for every principal, rate and term
that stay within the precision (`schedule_reconciles`).
-/

set_option autoImplicit false

namespace CreditOps.Repayments

open Decimal Results AddSubgroup

/-! ## Terms -/

theorem coefficient_of_toRat {d : Decimal} {n : Nat} (he : d.exponent ≤ 0) (h : d.toRat = n) :
    d.coefficient = n * 10 ^ (-d.exponent).toNat := by
  obtain ⟨k, hk⟩ : ∃ k : Nat, d.exponent = -k := ⟨(-d.exponent).toNat, by omega⟩
  have hexp : (-d.exponent).toNat = k := by omega
  rw [toRat, hk, zpow_neg, ← div_eq_mul_inv, zpow_natCast, div_eq_iff (by positivity)] at h
  rw [hexp]
  exact_mod_cast h

theorem toInt_of_whole {d : Decimal} {n : Nat} (h : d.toRat = n) : d.toInt = n := by
  unfold toInt
  split
  · next hexp =>
    have hcast := coefficientAt_cast hexp
    rw [h, zpow_zero, mul_one] at hcast
    exact_mod_cast hcast
  · next hexp =>
    rw [coefficient_of_toRat (by omega) h]
    have hpos : (10 : Int) ^ (-d.exponent).toNat ≠ 0 := by positivity
    rw [Int.mul_tdiv_cancel _ hpos]

theorem toIntegralValue_of_whole {d : Decimal} {n : Nat} (h : d.toRat = n) :
    d.toIntegralValue.toRat = d.toRat := by
  unfold toIntegralValue
  split
  · rfl
  · next hexp =>
    obtain ⟨m, hm, hzero⟩ : ∃ m : Nat, 0 < m ∧ d.exponent + m = 0 :=
      ⟨(-d.exponent).toNat, by omega, by omega⟩
    have hrescale := toRat_rescale_add .halfEven d hm
    have hcoef := coefficient_of_toRat (by omega) h
    have hexpn : (-d.exponent).toNat = m := by omega
    rw [hexpn] at hcoef
    have hround := roundDiv_mul .halfEven n (k := 10 ^ m) (by positivity)
    push_cast at hround
    rw [hzero, hcoef, hround, unit, zpow_zero, mul_one] at hrescale
    rw [hrescale, h]
    rfl

theorem validateTerm_of_whole {input : CalculatorInput} {term : Decimal} {n : Nat}
    (hinput : input.value = some term) (hn : 1 ≤ n) (hwhole : term.toRat = n) :
    validateTerm input = .ok () := by
  have hintegral := toIntegralValue_of_whole hwhole
  have hnot : ¬(term < term.toIntegralValue ∨ term.toIntegralValue < term) := by
    rw [lt_def, lt_def, hintegral]
    exact not_or.2 ⟨lt_irrefl _, lt_irrefl _⟩
  have hpos : ¬term ≤ 0 := by
    rw [le_def, toRat_zero, not_le, hwhole]
    exact_mod_cast hn
  unfold validateTerm
  rw [hinput]
  dsimp only
  rw [if_neg hnot, if_neg hpos]

/-! ## The rows telescope -/

/-- Each balance is the one before it minus the principal of the row. -/
def Telescopes : ℚ → List DebtServiceRow → Prop
  | _, [] => True
  | opening, row :: rows =>
    row.balance.toRat = opening - row.principal.toRat ∧ Telescopes row.balance.toRat rows

/-- The balance after the rows. -/
def closing (opening : ℚ) (rows : List DebtServiceRow) : ℚ :=
  match rows.getLast? with
  | some row => row.balance.toRat
  | none => opening

theorem closing_cons (opening : ℚ) (row : DebtServiceRow) (rows : List DebtServiceRow) :
    closing opening (row :: rows) = closing row.balance.toRat rows := by
  cases rows with
  | nil => rfl
  | cons => rw [closing, closing, List.getLast?_cons_cons]; rfl

/-- **The principals sum to what the balance loses.** -/
theorem Telescopes.sum {rows : List DebtServiceRow} :
    ∀ {opening : ℚ}, Telescopes opening rows →
      (rows.map (·.principal.toRat)).sum = opening - closing opening rows := by
  induction rows with
  | nil =>
    intro opening _
    rw [List.map_nil, List.sum_nil, closing]
    exact (sub_self opening).symm
  | cons _ _ ih =>
    intro opening h
    obtain ⟨hbal, hrest⟩ := h
    rw [List.map_cons, List.sum_cons, ih hrest, closing_cons, hbal]
    ring

theorem Telescopes.of_prefix {rows part : List DebtServiceRow} (hpart : part <+: rows) :
    ∀ {opening : ℚ}, Telescopes opening rows → Telescopes opening part := by
  induction part generalizing rows with
  | nil =>
    intro _ _
    trivial
  | cons _ part ih =>
    intro opening h
    obtain ⟨rest, rfl⟩ := hpart
    exact ⟨h.1, ih (List.prefix_append part rest) h.2⟩

/-- What the loop over the periods ensures. -/
theorem scheduleRows_telescopes {style : RepaymentStyle} {rate perInstalment : Decimal} {term : Nat}
    (hinst : Cents perInstalment) (left : Nat) :
    ∀ {opening : Decimal} {rows : List DebtServiceRow}, Cents opening →
      scheduleRows style rate perInstalment term left opening = .ok rows →
      rows.length = left ∧ Telescopes opening.toRat rows := by
  induction left with
  | zero =>
    intro opening rows _ h
    cases h
    exact ⟨rfl, trivial⟩
  | succ _ ih =>
    intro opening rows hopening h
    obtain ⟨_, _, _, _, -, hprin, hbal, hrest, rfl⟩ :=
      scheduleRows_succ.1 h
    obtain ⟨hlen, htelescopes⟩ := ih (cents_of_quantizeMoney hbal) hrest
    have hcents := principalPaid_cents hopening hinst hprin
    refine ⟨?_, ?_, htelescopes⟩
    · rw [List.length_cons, hlen]
    · exact toRat_quantizeMoney_sub hopening hcents hbal

/-- **The last row repays what is left.** -/
theorem scheduleRows_closing {style : RepaymentStyle} {rate perInstalment : Decimal} {term : Nat}
    (left : Nat) : ∀ {opening : Decimal} {rows : List DebtServiceRow}, Cents opening →
      scheduleRows style rate perInstalment term (left + 1) opening = .ok rows →
      ∃ row, rows.getLast? = some row ∧ row.balance.toRat = 0 := by
  induction left with
  | zero =>
    intro opening rows hopening h
    obtain ⟨_, _, _, _, -, hprin, hbal, hrest, rfl⟩ :=
      scheduleRows_succ.1 h
    rw [decide_eq_true rfl, principalPaid_true] at hprin
    cases hprin
    cases hrest
    exact ⟨_, rfl, (toRat_quantizeMoney_sub hopening hopening hbal).trans (sub_self _)⟩
  | succ _ ih =>
    intro opening rows _ h
    obtain ⟨_, _, _, rest, -, -, hbal, hrest, rfl⟩ := scheduleRows_succ.1 h
    obtain ⟨row, hlast, hzero⟩ := ih (cents_of_quantizeMoney hbal) hrest
    refine ⟨row, ?_, hzero⟩
    cases rest with
    | nil => cases hlast
    | cons => exact hlast

/-! ## The total -/

/-- What a row costs: its principal and its interest. -/
def DebtServiceRow.service (row : DebtServiceRow) : ℚ :=
  row.principal.toRat + row.interest.toRat

/-- No sum on the way to the total needs more digits than the context has. -/
structure TotalWithin (rows : List DebtServiceRow) : Prop where
  services : ∀ row ∈ rows, Representable contextPrecision row.service
  parts : ∀ part, part <+: rows → Representable contextPrecision (part.map (·.service)).sum

/-- The total debt service. -/
def totalService (rows : List DebtServiceRow) : Decimal :=
  rows.foldl (fun sum row =>
    sum.add contextPrecision (row.principal.add contextPrecision row.interest)) 0

theorem toRat_totalService {rows : List DebtServiceRow} (h : TotalWithin rows) :
    (totalService rows).toRat = (rows.map (·.service)).sum := by
  have hservices : ∀ part, part <+: rows →
      (part.map fun row => row.principal.add contextPrecision row.interest).map toRat =
        part.map (·.service) := by
    intro part hpart
    rw [List.map_map]
    apply List.map_congr_left
    intro row hrow
    exact toRat_add (by decide) (h.services row (hpart.subset hrow))
  have hfold : totalService rows =
      (rows.map fun row => row.principal.add contextPrecision row.interest).foldl
        (add contextPrecision) 0 := by
    rw [List.foldl_map]
    rfl
  have hparts : ∀ part, part <+: (rows.map fun row => row.principal.add contextPrecision row.interest) →
      Representable contextPrecision ((0 : Decimal).toRat + (part.map toRat).sum) := by
    intro part hpart
    obtain ⟨part', hpart', rfl⟩ := List.prefix_map_iff.1 hpart
    rw [toRat_zero, zero_add, hservices part' hpart']
    exact h.parts part' hpart'
  rw [hfold, toRat_foldl_add (by decide) 0 hparts, toRat_zero, zero_add,
    hservices rows List.prefix_rfl]

/-! ## Staying within the precision -/

/-- The least multiple of the cent that is not below. -/
theorem exists_cents_ge (y : ℚ) :
    ∃ x ∈ zmultiples cent, y ≤ x ∧ x ≤ y + cent ∧ ∀ z ∈ zmultiples cent, y ≤ z → x ≤ z := by
  have hcent := cent_pos
  refine ⟨⌈y / cent⌉ • cent, zsmul_mem (mem_zmultiples cent) _, ?_, ?_, ?_⟩
  · rw [zsmul_eq_mul]
    exact (div_le_iff₀ hcent).1 (Int.le_ceil _)
  · have hceil := (Int.ceil_lt_add_one (y / cent)).le
    have hscaled := mul_le_mul_of_nonneg_right hceil hcent.le
    rw [add_mul, div_mul_cancel₀ _ hcent.ne', one_mul] at hscaled
    rw [zsmul_eq_mul]
    exact hscaled
  · intro z hz hyz
    obtain ⟨m, rfl⟩ := mem_zmultiples_iff.1 hz
    rw [zsmul_eq_mul] at hyz ⊢
    rw [zsmul_eq_mul]
    have hceil : ⌈y / cent⌉ ≤ m := Int.ceil_le.2 ((div_le_iff₀ hcent).2 hyz)
    exact mul_le_mul_of_nonneg_right (by exact_mod_cast hceil) hcent.le

theorem abs_quantizeMoney {value result : Decimal} (h : quantizeMoney value = .ok result) :
    |result.toRat| = Waterfall.halfUp cent |value.toRat| := by
  obtain ⟨-, rfl⟩ := quantize_eq_some.1 (quantizeMoney_eq_ok.1 h)
  have hfloor := natAbs_rescale_halfUp value moneyExponent
  rw [abs_toRat, rescale_exponent, Waterfall.halfUp, cent, ← hfloor, Int.cast_natCast]

theorem moneyLimit_lt : moneyLimit < 10 ^ contextPrecision * cent := by
  have hcent := cent_pos
  rw [moneyLimit]
  linarith

/-- A rounded product is at most a cent above what the product is at most. -/
theorem abs_quantizeMoney_mul_le {a b result : Decimal} {y : ℚ} (hy : y + cent < moneyLimit)
    (hab : |a.toRat * b.toRat| ≤ y) (h : quantizeMoney (a.mul contextPrecision b) = .ok result) :
    |result.toRat| ≤ y + cent := by
  obtain ⟨x, hx, hyx, hxy, -⟩ := exists_cents_ge y
  have hx0 : 0 ≤ x := (abs_nonneg _).trans (hab.trans hyx)
  have hrepresentable : Representable contextPrecision x := by
    apply representable_of_cents hx
    rw [abs_of_nonneg hx0]
    exact (hxy.trans_lt hy).trans moneyLimit_lt
  have hround : |(a.mul contextPrecision b).toRat| ≤ x := by
    apply abs_toRat_round_le (by decide) hrepresentable
    rw [toRat_mulExact]
    exact hab.trans hyx
  rw [abs_quantizeMoney h]
  exact (Waterfall.halfUp_le cent_pos hround hx).trans hxy

/-- What the amounts of a schedule stay within: the principal, the number of rows, the monthly rate. -/
structure Bounds where
  balance : ℚ
  term : Nat
  rate : ℚ
  balance_cents : balance ∈ zmultiples cent
  balance_nonneg : 0 ≤ balance
  term_pos : 1 ≤ term
  rate_nonneg : 0 ≤ rate
  /-- A cent a row for the rounding of the instalments, the interest on that every month, and a cent a
  row for the rounding of the interest. -/
  within : (balance + term * cent) * (1 + term * rate) + term * cent < moneyLimit

namespace Bounds

variable (b : Bounds)

/-- The size of a balance. -/
def size : ℚ := b.balance + b.term * cent

/-- The size of an interest. -/
def interest : ℚ := b.size * b.rate + cent

theorem size_nonneg : 0 ≤ b.size :=
  add_nonneg b.balance_nonneg (mul_nonneg (Nat.cast_nonneg _) cent_pos.le)

theorem interest_nonneg : 0 ≤ b.interest :=
  add_nonneg (mul_nonneg b.size_nonneg b.rate_nonneg) cent_pos.le

theorem total_lt : b.size + b.term * b.interest < moneyLimit := by
  calc b.size + b.term * b.interest
      = (b.balance + b.term * cent) * (1 + b.term * b.rate) + b.term * cent := by
        rw [interest, size]
        ring
    _ < moneyLimit := b.within

theorem size_add_interest_lt : b.size + b.interest < moneyLimit := by
  have hterm : (1 : ℚ) ≤ b.term := by exact_mod_cast b.term_pos
  have hone : b.interest ≤ b.term * b.interest := le_mul_of_one_le_left b.interest_nonneg hterm
  have htotal := b.total_lt
  linarith

/-- The opening balance of a row when `left` rows are left. -/
structure Opens (left : Nat) (opening : ℚ) : Prop where
  le : opening ≤ b.balance
  ge : left * (b.balance / b.term) - (b.term - left : ℚ) * cent ≤ opening

variable {b}

theorem Opens.abs_opening {left : Nat} {opening : ℚ} (h : b.Opens left opening) : |opening| ≤ b.size := by
  have hcent := cent_pos
  have hterm : (0 : ℚ) ≤ b.term := Nat.cast_nonneg _
  have hleft : (0 : ℚ) ≤ left := Nat.cast_nonneg _
  have hshare : 0 ≤ left * (b.balance / b.term) := by
    have := b.balance_nonneg
    positivity
  have hge := h.ge
  have hle := h.le
  have hbal := b.balance_nonneg
  rw [abs_le, size]
  constructor
  all_goals nlinarith

theorem opens_start : b.Opens b.term b.balance := by
  have hterm : (b.term : ℚ) ≠ 0 := by
    have := b.term_pos
    positivity
  refine ⟨le_rfl, ?_⟩
  rw [mul_div_cancel₀ _ hterm, sub_self, zero_mul, sub_zero]

/-- **A row before the last one** leaves an opening for the rows after it. -/
theorem Opens.step {left : Nat} {opening paid : ℚ} (h : b.Opens (left + 1) opening) (hpaid : 0 ≤ paid)
    (hle : paid ≤ b.balance / b.term + cent) : b.Opens left (opening - paid) := by
  obtain ⟨_, hge⟩ := h
  push_cast at hge
  constructor
  all_goals linarith

theorem opens_zero : b.Opens 0 0 := by
  have hcent := cent_pos
  refine ⟨b.balance_nonneg, ?_⟩
  have hterm : (0 : ℚ) ≤ b.term := Nat.cast_nonneg _
  rw [Nat.cast_zero, zero_mul, sub_zero, zero_sub, neg_nonpos]
  positivity

theorem Opens.ge_neg {left : Nat} {opening : ℚ} (h : b.Opens left opening) :
    -(b.term * cent) ≤ opening := by
  have hshare : 0 ≤ left * (b.balance / b.term) := by
    have := b.balance_nonneg
    positivity
  have hleft : 0 ≤ left * cent := mul_nonneg (Nat.cast_nonneg _) cent_pos.le
  have hge := h.ge
  rw [sub_mul] at hge
  linarith

/-- What a schedule within the bounds is computed with. -/
structure Instalments (b : Bounds) (rate perInstalment : Decimal) : Prop where
  rate : rate.toRat = b.rate
  cents : Cents perInstalment
  nonneg : 0 ≤ perInstalment.toRat
  le : perInstalment.toRat ≤ b.balance / b.term + cent
  le_balance : perInstalment.toRat ≤ b.balance

section Rows

variable {style : RepaymentStyle} {rate perInstalment : Decimal}

variable (style) in
/-- What a row repays leaves an opening for the rows after it. -/
theorem exists_principalPaid (h : Instalments b rate perInstalment) {left : Nat} {opening : Decimal}
    (hcents : Cents opening) (hopens : b.Opens (left + 1) opening.toRat) :
    ∃ principal, principalPaid style (left = 0) perInstalment opening = .ok principal ∧
      Cents principal ∧ b.Opens left (opening.toRat - principal.toRat) ∧
      |principal.toRat| ≤ b.size := by
  have hterms : 0 ≤ b.term * cent := mul_nonneg (Nat.cast_nonneg _) cent_pos.le
  cases left with
  | zero =>
    refine ⟨opening, ?_, hcents, ?_, hopens.abs_opening⟩
    · rw [decide_eq_true rfl]
      exact principalPaid_true
    · rw [sub_self]
      exact opens_zero
  | succ left =>
    rw [decide_eq_false (Nat.succ_ne_zero left)]
    have hshare : 0 ≤ b.balance / b.term := div_nonneg b.balance_nonneg (Nat.cast_nonneg _)
    cases style with
    | balloon =>
      refine ⟨zeroMoney, rfl, rfl, hopens.step toRat_zeroMoney.ge ?_, ?_⟩
      · rw [toRat_zeroMoney]
        exact add_nonneg hshare cent_pos.le
      · rw [toRat_zeroMoney, abs_zero]
        exact b.size_nonneg
    | equalPrincipal =>
      refine ⟨perInstalment, rfl, h.cents, hopens.step h.nonneg h.le, ?_⟩
      rw [abs_of_nonneg h.nonneg, size]
      have hle := h.le_balance
      linarith

theorem abs_product_le (h : Instalments b rate perInstalment) {left : Nat} {opening : Decimal}
    (hopens : b.Opens left opening.toRat) : |opening.toRat * rate.toRat| ≤ b.size * b.rate := by
  rw [abs_mul, h.rate, abs_of_nonneg b.rate_nonneg]
  exact mul_le_mul_of_nonneg_right hopens.abs_opening b.rate_nonneg

theorem product_add_cent_lt : b.size * b.rate + cent < moneyLimit := by
  have hboth := b.size_add_interest_lt
  have hpos := b.size_nonneg
  rw [Bounds.interest] at hboth
  linarith

variable (style) in
/-- **The loop goes through.** Within the bounds every row of the schedule is computed. -/
theorem exists_scheduleRows (h : Instalments b rate perInstalment) (left : Nat) :
    ∀ {opening : Decimal}, Cents opening → b.Opens left opening.toRat →
      ∃ rows, scheduleRows style rate perInstalment b.term left opening = .ok rows := by
  have hsize : b.size < moneyLimit := by
    have hboth := b.size_add_interest_lt
    have hint := b.interest_nonneg
    linarith
  have hproduct : b.size * b.rate < moneyLimit :=
    (le_add_of_nonneg_right cent_pos.le).trans_lt product_add_cent_lt
  induction left with
  | zero =>
    intro opening _ _
    exact ⟨[], rfl⟩
  | succ _ ih =>
    intro opening hcents hopens
    obtain ⟨interest, hint⟩ :=
      exists_quantizeMoney_mul.2 ((abs_product_le h hopens).trans_lt hproduct)
    obtain ⟨principal, hprin, hprincipalCents, hnext, -⟩ :=
      exists_principalPaid style h hcents hopens
    obtain ⟨balance, hbal⟩ := exists_quantizeMoney_sub.2 (hnext.abs_opening.trans_lt hsize)
    rw [← toRat_quantizeMoney_sub hcents hprincipalCents hbal] at hnext
    obtain ⟨rest, hrest⟩ := ih (cents_of_quantizeMoney hbal) hnext
    exact ⟨_, scheduleRows_succ.2
      ⟨interest, principal, balance, rest, hint, hprin, hbal, hrest, rfl⟩⟩

/-- The amounts of a row are within the bounds. -/
structure RowWithin (b : Bounds) (row : DebtServiceRow) : Prop where
  principal : |row.principal.toRat| ≤ b.size
  interest : |row.interest.toRat| ≤ b.interest
  balance_le : row.balance.toRat ≤ b.balance
  balance_ge : -(b.term * cent) ≤ row.balance.toRat

/-- **Every row is within the bounds.** -/
theorem scheduleRows_within (h : Instalments b rate perInstalment) (left : Nat) :
    ∀ {opening : Decimal} {rows : List DebtServiceRow}, Cents opening → b.Opens left opening.toRat →
      scheduleRows style rate perInstalment b.term left opening = .ok rows →
      ∀ row ∈ rows, RowWithin b row := by
  induction left with
  | zero =>
    intro opening rows _ _ hrows row hrow
    cases hrows
    cases hrow
  | succ _ ih =>
    intro opening rows hcents hopens hrows row hrow
    obtain ⟨_, _, _, _, hint, hprin, hbal, hrest, rfl⟩ :=
      scheduleRows_succ.1 hrows
    obtain ⟨_, hpaid, hpaidCents, hnext, hsize⟩ :=
      exists_principalPaid style h hcents hopens
    cases Except.ok.inj (hpaid.symm.trans hprin)
    rw [← toRat_quantizeMoney_sub hcents hpaidCents hbal] at hnext
    rcases List.mem_cons.1 hrow with rfl | htail
    · refine ⟨hsize, ?_, hnext.le, hnext.ge_neg⟩
      exact abs_quantizeMoney_mul_le product_add_cent_lt (abs_product_le h hopens) hint
    · exact ih (cents_of_quantizeMoney hbal) hnext hrest row htail

end Rows

theorem closing_within {rows : List DebtServiceRow} (h : ∀ row ∈ rows, RowWithin b row) :
    closing b.balance rows ≤ b.balance ∧ -(b.term * cent) ≤ closing b.balance rows := by
  have hterms : 0 ≤ b.term * cent := mul_nonneg (Nat.cast_nonneg _) cent_pos.le
  unfold closing
  split
  · next row hlast =>
    have hrow := h row (List.mem_of_getLast? hlast)
    exact ⟨hrow.balance_le, hrow.balance_ge⟩
  · have hbal := b.balance_nonneg
    exact ⟨le_rfl, by linarith⟩

theorem abs_interests_le {rows : List DebtServiceRow} (h : ∀ row ∈ rows, RowWithin b row) :
    |(rows.map (·.interest.toRat)).sum| ≤ rows.length * b.interest := by
  induction rows with
  | nil =>
    rw [List.map_nil, List.sum_nil, abs_zero, List.length_nil, Nat.cast_zero, zero_mul]
  | cons row rows ih =>
    rw [List.forall_mem_cons] at h
    rw [List.map_cons, List.sum_cons, List.length_cons]
    have hrest := ih h.2
    have hrow := h.1.interest
    push_cast
    calc |row.interest.toRat + (rows.map (·.interest.toRat)).sum|
        ≤ |row.interest.toRat| + |(rows.map (·.interest.toRat)).sum| := abs_add_le _ _
      _ ≤ (rows.length + 1) * b.interest := by linarith

theorem sum_service (rows : List DebtServiceRow) : (rows.map (·.service)).sum =
    (rows.map (·.principal.toRat)).sum + (rows.map (·.interest.toRat)).sum :=
  List.sum_map_add

/-- **The total is within the precision**, for rows on the cent within the bounds. -/
theorem totalWithin {rows : List DebtServiceRow} (hlen : rows.length ≤ b.term)
    (hcents : ∀ row ∈ rows, Cents row.principal ∧ Cents row.interest)
    (htelescopes : Telescopes b.balance rows) (h : ∀ row ∈ rows, RowWithin b row) :
    TotalWithin rows := by
  have hmem : ∀ row ∈ rows, row.service ∈ zmultiples cent := fun row hrow =>
    add_mem (hcents row hrow).1.mem (hcents row hrow).2.mem
  have hlimit := moneyLimit_lt
  constructor
  · intro row hrow
    apply representable_of_cents (hmem row hrow)
    have hboth := b.size_add_interest_lt
    have hprin := (h row hrow).principal
    have hint := (h row hrow).interest
    calc |row.service| ≤ |row.principal.toRat| + |row.interest.toRat| := abs_add_le _ _
      _ < 10 ^ contextPrecision * cent := by linarith
  · intro part hpart
    have hwithin : ∀ row ∈ part, RowWithin b row := fun row hrow => h row (hpart.subset hrow)
    have hsum : (part.map (·.service)).sum ∈ zmultiples cent := by
      apply list_sum_mem
      intro x hx
      obtain ⟨row, hrow, rfl⟩ := List.mem_map.1 hx
      exact hmem row (hpart.subset hrow)
    apply representable_of_cents hsum
    -- the principals telescope, and the interest is bounded row by row
    have hprins := (htelescopes.of_prefix hpart).sum
    obtain ⟨_, _⟩ := closing_within hwithin
    have hcount : (part.length : ℚ) ≤ b.term := by
      exact_mod_cast hpart.length_le.trans hlen
    have hints := (abs_interests_le hwithin).trans
      (mul_le_mul_of_nonneg_right hcount b.interest_nonneg)
    have htotal := b.total_lt
    have hsize : |b.balance - closing b.balance part| ≤ b.size := by
      rw [abs_of_nonneg (by linarith), size]
      linarith
    calc |(part.map (·.service)).sum|
        = |b.balance - closing b.balance part + (part.map (·.interest.toRat)).sum| := by
          rw [sum_service, hprins]
      _ ≤ |b.balance - closing b.balance part| + |(part.map (·.interest.toRat)).sum| := abs_add_le _ _
      _ < 10 ^ contextPrecision * cent := by linarith

end Bounds

/-! ## The schedule -/

/-- The inputs of a schedule: a principal and a rate that are not negative, and a whole term. -/
structure Loan where
  principal : CalculatorInput
  annualRatePercent : CalculatorInput
  termMonths : CalculatorInput
  amount : Decimal
  rate : Decimal
  termValue : Decimal
  term : Nat
  principal_value : principal.value = some amount
  rate_value : annualRatePercent.value = some rate
  term_value : termMonths.value = some termValue
  amount_nonneg : 0 ≤ amount.toRat
  rate_nonneg : 0 ≤ rate.toRat
  term_pos : 1 ≤ term
  term_whole : termValue.toRat = term

namespace Loan

variable (loan : Loan) (style : RepaymentStyle)

/-- The schedule of the loan. -/
def schedule : Except LedgerFault DebtServiceSchedule :=
  debtServiceSchedule loan.principal loan.annualRatePercent loan.termMonths style

/-- The principal, rounded to the cent. -/
def rounded : ℚ :=
  Waterfall.halfUp cent loan.amount.toRat

/-- The amounts of the schedule stay below the precision, with a cent a row for the rounding. -/
def Within : Prop :=
  (loan.rounded + loan.term * cent) * (1 + loan.term * (monthlyRate loan.rate).toRat) +
    loan.term * cent < moneyLimit

variable {loan style}

theorem schedule_eq (loan : Loan) (style : RepaymentStyle) : loan.schedule style =
    computeRows style loan.amount loan.rate loan.termValue >>= fun rows =>
      .ok ⟨resultId ("debt_service_schedule:" ++ style.value)
          [loan.principal, loan.annualRatePercent, loan.termMonths], style,
        [loan.principal, loan.annualRatePercent, loan.termMonths], .computed (totalService rows), rows⟩ := by
  unfold Loan.schedule debtServiceSchedule
  rw [rejectNegative_of_nonneg loan.principal_value loan.amount_nonneg,
    rejectNegative_of_nonneg loan.rate_value loan.rate_nonneg,
    validateTerm_of_whole loan.term_value loan.term_pos loan.term_whole, loan.principal_value,
    loan.rate_value, loan.term_value]
  rfl

theorem computeRows_eq_ok {rows : List DebtServiceRow} :
    computeRows style loan.amount loan.rate loan.termValue = .ok rows ↔ ∃ balance perInstalment,
      quantizeMoney loan.amount = .ok balance ∧
      quantizeMoney (balance.div contextPrecision (.ofInt loan.term)) = .ok perInstalment ∧
      scheduleRows style (monthlyRate loan.rate) perInstalment loan.term loan.term balance =
        .ok rows := by
  have hterm : loan.termValue.toInt.toNat = loan.term := by
    rw [toInt_of_whole loan.term_whole, Int.toNat_natCast]
  unfold computeRows
  dsimp only
  rw [hterm, bind_eq_ok]
  simp only [bind_eq_ok, exists_and_left]

/-- **A schedule that is returned** has the computed rows and their total. -/
theorem schedule_eq_ok {schedule : DebtServiceSchedule} (h : loan.schedule style = .ok schedule) :
    computeRows style loan.amount loan.rate loan.termValue = .ok schedule.rows ∧
      schedule.outcome = .computed (totalService schedule.rows) := by
  rw [schedule_eq] at h
  obtain ⟨_, hrows, hsched⟩ := bind_eq_ok.1 h
  cases hsched
  exact ⟨hrows, rfl⟩

theorem term_cast_pos (loan : Loan) : (0 : ℚ) < loan.term := by
  exact_mod_cast loan.term_pos

/-- **The equal instalment** is at most a cent above its share, and at most the principal. -/
theorem instalment_le {balance perInstalment : Decimal} (hbal : quantizeMoney loan.amount = .ok balance)
    (hinst : quantizeMoney (balance.div contextPrecision (.ofInt loan.term)) =
      .ok perInstalment) :
    0 ≤ perInstalment.toRat ∧ perInstalment.toRat ≤ balance.toRat / loan.term + cent ∧
      perInstalment.toRat ≤ balance.toRat := by
  have hpos := quantizeMoney_nonneg loan.amount_nonneg hbal
  have hterm : 0 < (ofInt loan.term).toRat := by
    rw [toRat_ofInt]
    exact_mod_cast loan.term_pos
  obtain ⟨x, hx, hle, hxle, hleast⟩ := exists_cents_ge (balance.toRat / loan.term)
  have hshare : balance.toRat / loan.term ≤ balance.toRat :=
    div_le_self hpos (by exact_mod_cast loan.term_pos)
  have hbalanceLe := hleast _ (cents_of_quantizeMoney hbal).mem hshare
  have hx0 : 0 ≤ x := (div_nonneg hpos loan.term_cast_pos.le).trans hle
  have hrepresentable : Representable contextPrecision x := by
    have hfits := (cents_of_quantizeMoney hbal).fits_iff.1 (fits_of_quantizeMoney hbal)
    rw [abs_of_nonneg hpos] at hfits
    apply representable_of_cents hx
    rw [abs_of_nonneg hx0]
    exact (hbalanceLe.trans_lt hfits).trans moneyLimit_lt
  have hquot : (balance.div contextPrecision (.ofInt loan.term)).toRat ≤ x := by
    apply toRat_div_le (by decide) hpos hterm hrepresentable
    rw [toRat_ofInt]
    exact_mod_cast hle
  have hquotientPos : 0 ≤ (balance.div contextPrecision (.ofInt loan.term)).toRat :=
    toRat_div_nonneg (by decide) hpos hterm.le
  have hinstalmentLe : perInstalment.toRat ≤ x := by
    rw [toRat_quantizeMoney hquotientPos hinst]
    exact Waterfall.halfUp_le cent_pos hquot hx
  exact ⟨quantizeMoney_nonneg hquotientPos hinst, hinstalmentLe.trans hxle,
    hinstalmentLe.trans hbalanceLe⟩

/-- The bounds of a loan within the precision. -/
def bounds (loan : Loan) (h : loan.Within) : Bounds where
  balance := loan.rounded
  term := loan.term
  rate := (monthlyRate loan.rate).toRat
  balance_cents := Waterfall.halfUp_mem cent loan.amount.toRat
  balance_nonneg := Waterfall.halfUp_nonneg cent_pos loan.amount_nonneg
  term_pos := loan.term_pos
  rate_nonneg := toRat_monthlyRate_nonneg loan.rate_nonneg
  within := h

/-- **Within the precision the rows are computed.** -/
theorem exists_computeRows (h : loan.Within) (style : RepaymentStyle) :
    ∃ rows, computeRows style loan.amount loan.rate loan.termValue = .ok rows ∧ TotalWithin rows := by
  have hsize : loan.rounded + cent < moneyLimit := by
    have hboth := (loan.bounds h).size_add_interest_lt
    have hterm := mul_nonneg loan.term_cast_pos.le cent_pos.le
    have hproduct := mul_nonneg (loan.bounds h).size_nonneg (loan.bounds h).rate_nonneg
    rw [Bounds.interest, Bounds.size] at hboth
    rw [Bounds.size] at hproduct
    simp only [bounds] at hboth hproduct
    linarith
  have hround := Waterfall.abs_sub_halfUp_le cent_pos loan.amount.toRat
  have hcent := cent_pos
  obtain ⟨balance, hbal⟩ : ∃ balance, quantizeMoney loan.amount = .ok balance := by
    apply exists_quantizeMoney.2
    rw [abs_of_nonneg loan.amount_nonneg]
    have hle := (le_abs_self _).trans hround
    have hrnd : loan.rounded = Waterfall.halfUp cent loan.amount.toRat := rfl
    linarith
  have hvalue : balance.toRat = loan.rounded := toRat_quantizeMoney loan.amount_nonneg hbal
  obtain ⟨perInstalment, hinst⟩ : ∃ perInstalment,
      quantizeMoney (balance.div contextPrecision (.ofInt loan.term)) = .ok perInstalment := by
    have hpos := quantizeMoney_nonneg loan.amount_nonneg hbal
    have hfits := fits_of_quantizeMoney hbal
    have hterm : (1 : ℚ) ≤ (ofInt loan.term).toRat := by
      rw [toRat_ofInt]
      exact_mod_cast loan.term_pos
    apply exists_quantizeMoney.2
    rw [abs_of_nonneg (toRat_div_nonneg (by decide) hpos (zero_le_one.trans hterm))]
    have hquot : (balance.div contextPrecision (.ofInt loan.term)).toRat ≤ balance.toRat :=
      toRat_div_le (by decide) hpos (zero_lt_one.trans_le hterm) ⟨balance, hfits, rfl⟩
        (div_le_self hpos hterm)
    linarith
  obtain ⟨hnn, hle, hleBalance⟩ := instalment_le hbal hinst
  rw [hvalue] at hle hleBalance
  have hbalanceCents := cents_of_quantizeMoney hbal
  have hcents := cents_of_quantizeMoney hinst
  have hinsts : Bounds.Instalments (loan.bounds h) (monthlyRate loan.rate) perInstalment :=
    ⟨rfl, hcents, hnn, hle, hleBalance⟩
  have hstart : (loan.bounds h).Opens loan.term balance.toRat := by
    rw [hvalue]
    exact Bounds.opens_start
  obtain ⟨rows, hrows⟩ :=
    Bounds.exists_scheduleRows style hinsts loan.term hbalanceCents hstart
  refine ⟨rows, computeRows_eq_ok.2 ⟨balance, perInstalment, hbal, hinst, hrows⟩, ?_⟩
  obtain ⟨hlen, htelescopes⟩ := scheduleRows_telescopes hcents loan.term hbalanceCents hrows
  rw [hvalue] at htelescopes
  exact Bounds.totalWithin (b := loan.bounds h) hlen.le
    (scheduleRows_cents hcents loan.term hbalanceCents hrows) htelescopes
    (Bounds.scheduleRows_within hinsts loan.term hbalanceCents hstart hrows)

end Loan

/-- The rows of a schedule reconcile: as many as the term, each balance the one before it minus the
principal of the row, the principals the rounded principal in total, and nothing left. -/
structure RowsReconcile (loan : Loan) (rows : List DebtServiceRow) : Prop where
  length : rows.length = loan.term
  telescopes : Telescopes loan.rounded rows
  principals : (rows.map (·.principal.toRat)).sum = loan.rounded
  final : ∃ row, rows.getLast? = some row ∧ row.balance.toRat = 0

/-- The outcome is the sum of all principal and interest. -/
def OutcomeIsSum (schedule : DebtServiceSchedule) : Prop :=
  ∃ total, schedule.outcome = .computed total ∧
    total.toRat = (schedule.rows.map fun row => row.principal.toRat + row.interest.toRat).sum

theorem rowsReconcile {loan : Loan} {style : RepaymentStyle} {rows : List DebtServiceRow}
    (h : computeRows style loan.amount loan.rate loan.termValue = .ok rows) : RowsReconcile loan rows := by
  obtain ⟨balance, _, hbal, hinst, hrows⟩ := Loan.computeRows_eq_ok.1 h
  have hcents := cents_of_quantizeMoney hinst
  have hbalanceCents := cents_of_quantizeMoney hbal
  have hvalue : balance.toRat = loan.rounded := toRat_quantizeMoney loan.amount_nonneg hbal
  obtain ⟨hlen, htelescopes⟩ := scheduleRows_telescopes hcents loan.term hbalanceCents hrows
  obtain ⟨n, hn⟩ : ∃ n, loan.term = n + 1 := ⟨loan.term - 1, by have := loan.term_pos; omega⟩
  have hfinal : ∃ row, rows.getLast? = some row ∧ row.balance.toRat = 0 := by
    rw [hn] at hrows
    exact scheduleRows_closing n hbalanceCents hrows
  rw [hvalue] at htelescopes
  refine ⟨hlen, htelescopes, ?_, hfinal⟩
  obtain ⟨_, hlast, hzero⟩ := hfinal
  -- the balance falls from the rounded principal to nothing
  rw [htelescopes.sum, closing, hlast]
  dsimp only
  rw [hzero, sub_zero]

theorem outcomeIsSum {loan : Loan} {style : RepaymentStyle} {schedule : DebtServiceSchedule}
    (h : loan.schedule style = .ok schedule) (hwithin : TotalWithin schedule.rows) :
    OutcomeIsSum schedule :=
  ⟨totalService schedule.rows, (Loan.schedule_eq_ok h).2, toRat_totalService hwithin⟩

/-- **The schedule reconciles.** Every schedule that is returned does, and its outcome is the sum of its
rows when no sum needs more digits than the context has; and below the precision a schedule is returned
for every principal, rate, term and style. -/
theorem schedule_reconciles (loan : Loan) (style : RepaymentStyle) :
    (∀ schedule, loan.schedule style = .ok schedule → RowsReconcile loan schedule.rows ∧
      (TotalWithin schedule.rows → OutcomeIsSum schedule)) ∧
    (loan.Within → ∃ schedule, loan.schedule style = .ok schedule ∧
      RowsReconcile loan schedule.rows ∧ OutcomeIsSum schedule) := by
  constructor
  · intro schedule h
    exact ⟨rowsReconcile (Loan.schedule_eq_ok h).1, outcomeIsSum h⟩
  · intro hwithin
    obtain ⟨rows, hrows, htotal⟩ := Loan.exists_computeRows hwithin style
    obtain ⟨schedule, hrun⟩ : ∃ schedule, loan.schedule style = .ok schedule := by
      rw [Loan.schedule_eq]
      exact ⟨_, bind_eq_ok.2 ⟨rows, hrows, rfl⟩⟩
    have hsame : schedule.rows = rows :=
      Except.ok.inj ((Loan.schedule_eq_ok hrun).1.symm.trans hrows)
    refine ⟨schedule, hrun, ?_, outcomeIsSum hrun ?_⟩
    · rw [hsame]
      exact rowsReconcile hrows
    · rw [hsame]
      exact htotal

/-- Forty thousand and one cent over three months at twelve percent a year. -/
def sampleLoan : Loan where
  principal := ⟨"loan_principal", some ⟨4000001, -2⟩, [], by decide⟩
  annualRatePercent := ⟨"loan_rate_percent", some ⟨12, 0⟩, [], by decide⟩
  termMonths := ⟨"loan_term_months", some ⟨3, 0⟩, [], by decide⟩
  amount := ⟨4000001, -2⟩
  rate := ⟨12, 0⟩
  termValue := ⟨3, 0⟩
  term := 3
  principal_value := rfl
  rate_value := rfl
  term_value := rfl
  amount_nonneg := by decide +kernel
  rate_nonneg := by decide +kernel
  term_pos := by decide
  term_whole := by decide +kernel

theorem schedule_reconciles_sample : ∃ schedule, sampleLoan.schedule .equalPrincipal = .ok schedule ∧
    RowsReconcile sampleLoan schedule.rows ∧ OutcomeIsSum schedule := by
  apply (schedule_reconciles sampleLoan .equalPrincipal).2
  unfold Loan.Within
  decide +kernel

end CreditOps.Repayments
