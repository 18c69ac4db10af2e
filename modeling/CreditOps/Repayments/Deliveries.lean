import CreditOps.Repayments.NetCash

/-!
# The order of delivery

The order in which a history is delivered is not part of it, but validation reads the history in that
order: of two payments with one id the later one counts, and a refusal names the first offender it meets.
So every order of a history leads to one outcome exactly when the history offers one refusal
(`perm_same_iff`), and a payment that is reversed in full changes the number of events only exactly when
the payment of its id that counts covers what is reversed of it (`cancel_same_iff`). Together with the
equality of snapshots of one net cash this says what the ledger depends on (`ledger_of_cash`); sums that
need more digits than the context has are beyond it (`cash_not_decisive`).
-/

set_option autoImplicit false

namespace CreditOps.Repayments

open Decimal Results

/-! ## Refusals -/

/-- The history has a payment of this id. -/
def HasPayment (events : List RepaymentEvent) (id : Uuid) : Prop :=
  ∃ payment ∈ events, payment.kind = .payment ∧ payment.id = id

/-- A reversal that refers to no payment of the history. -/
def Dangling (events : List RepaymentEvent) (event : RepaymentEvent) : Prop :=
  event ∈ events ∧ event.kind = .reversal ∧ ∀ id, event.reversedEventId = some id → ¬ HasPayment events id

/-- Some payment of this id is smaller than what was reversed of it. -/
def MayExceed (events : List RepaymentEvent) (id : Uuid) : Prop :=
  ∃ payment ∈ events, payment.kind = .payment ∧ payment.id = id ∧
    payment.amount.toRat < reversed events id

/-- Every payment of this id is smaller than what was reversed of it. -/
def AlwaysExceeds (events : List RepaymentEvent) (id : Uuid) : Prop :=
  HasPayment events id ∧ ∀ payment ∈ events, payment.kind = .payment → payment.id = id →
    payment.amount.toRat < reversed events id

/-- The events belong to the facility. -/
def Own (facilityId : Uuid) (events : List RepaymentEvent) : Prop :=
  ∀ event ∈ events, event.facilityId = facilityId

def foreignFault (facilityId : Uuid) (event : RepaymentEvent) : LedgerFault :=
  .repaymentLedger
    ("event " ++ uuidText event.id ++ " does not belong to facility " ++ uuidText facilityId)

def unknownFault (event : RepaymentEvent) : LedgerFault :=
  .repaymentLedger ("reversal " ++ uuidText event.id ++ " references unknown payment " ++
    (event.reversedEventId.map uuidText).getD "None")

def exceededFault (id : Uuid) : LedgerFault :=
  .repaymentLedger ("reversals of payment " ++ uuidText id ++ " exceed the amount paid")

/-- What some order of a history can be refused with. -/
inductive Offers (facilityId : Uuid) (events : List RepaymentEvent) : LedgerFault → Prop
  | foreign {event : RepaymentEvent} (hmem : event ∈ events) (hne : event.facilityId ≠ facilityId) :
      Offers facilityId events (foreignFault facilityId event)
  | unknown {event : RepaymentEvent} (hown : Own facilityId events) (h : Dangling events event) :
      Offers facilityId events (unknownFault event)
  | exceeded {id : Uuid} (hown : Own facilityId events) (hknown : ∀ event, ¬ Dangling events event)
      (h : MayExceed events id) : Offers facilityId events (exceededFault id)

/-- Every order of the history is refused. -/
def Certain (facilityId : Uuid) (events : List RepaymentEvent) : Prop :=
  ¬ Own facilityId events ∨ (∃ event, Dangling events event) ∨ ∃ id, AlwaysExceeds events id

/-- The history offers at most one refusal, and offers it in every order. -/
structure OneRefusal (facilityId : Uuid) (events : List RepaymentEvent) : Prop where
  unique : ∀ {f g}, Offers facilityId events f → Offers facilityId events g → f = g
  certain : ∀ {f}, Offers facilityId events f → Certain facilityId events

section Permutations

variable {facilityId : Uuid} {events others : List RepaymentEvent}

variable {id : Uuid}

theorem hasPayment_perm (h : others.Perm events) :
    HasPayment others id ↔ HasPayment events id := by
  simp only [HasPayment, h.mem_iff]

theorem dangling_perm (h : others.Perm events) {event : RepaymentEvent} :
    Dangling others event ↔ Dangling events event := by
  simp only [Dangling, h.mem_iff, hasPayment_perm h]

theorem mayExceed_perm (h : others.Perm events) :
    MayExceed others id ↔ MayExceed events id := by
  simp only [MayExceed, h.mem_iff, reversed_perm h]

theorem own_perm (h : others.Perm events) : Own facilityId others ↔ Own facilityId events := by
  simp only [Own, h.mem_iff]

theorem Offers.perm (h : others.Perm events) {fault : LedgerFault}
    (hoffers : Offers facilityId others fault) : Offers facilityId events fault := by
  cases hoffers with
  | foreign hmem hne => exact .foreign (h.mem_iff.1 hmem) hne
  | unknown hown hdangling => exact .unknown ((own_perm h).1 hown) ((dangling_perm h).1 hdangling)
  | exceeded hown hknown hmay =>
    refine .exceeded ((own_perm h).1 hown) (fun event hdangling => ?_) ((mayExceed_perm h).1 hmay)
    exact hknown event ((dangling_perm h).2 hdangling)

theorem Certain.perm (h : others.Perm events) (hcertain : Certain facilityId others) :
    Certain facilityId events := by
  simpa only [Certain, AlwaysExceeds, own_perm h, dangling_perm h, hasPayment_perm h, h.mem_iff,
    reversed_perm h] using hcertain

end Permutations

/-! ### What validation finds -/

section Validation

variable {facilityId : Uuid} {events : List RepaymentEvent}

variable {id : Uuid}

theorem paymentAmount_eq_some {amount : Decimal} (h : paymentAmount events id = some amount) :
    ∃ payment ∈ events, payment.kind = .payment ∧ payment.id = id ∧ payment.amount = amount := by
  unfold paymentAmount at h
  obtain ⟨payment, hlast, rfl⟩ := Option.map_eq_some_iff.1 h
  obtain ⟨hmem, hof⟩ := List.mem_filter.1 (List.mem_of_getLast? hlast)
  obtain ⟨hkind, hid⟩ := of_decide_eq_true hof
  exact ⟨payment, hmem, hkind, hid, rfl⟩

theorem paymentAmount_eq_none_iff :
    paymentAmount events id = none ↔ ¬ HasPayment events id := by
  unfold paymentAmount
  rw [Option.map_eq_none_iff, List.getLast?_eq_none_iff, List.filter_eq_nil_iff]
  constructor
  · rintro h ⟨payment, hmem, hof⟩
    exact h payment hmem (decide_eq_true hof)
  · intro h payment hmem hof
    exact h ⟨payment, hmem, of_decide_eq_true hof⟩

variable {event : RepaymentEvent}

theorem find_unknown :
    event ∈ events.filter (·.kind = .reversal) ∧ unknownTarget events event ↔
      Dangling events event := by
  unfold Dangling unknownTarget
  rw [List.mem_filter, decide_eq_true_iff, and_assoc]
  refine and_congr_right fun _ => and_congr_right fun hreversal => ?_
  cases htarget : event.reversedEventId with
  | none =>
    have hsome := event.reference.1 hreversal
    rw [htarget] at hsome
    cases hsome
  | some =>
    rw [Option.isNone_iff_eq_none, paymentAmount_eq_none_iff]
    simp only [Option.some.injEq, forall_eq']

theorem overReversed_iff (hexact : ExactSums events) :
    overReversed events id ↔
      ∃ amount, paymentAmount events id = some amount ∧ amount.toRat < reversed events id := by
  unfold overReversed
  cases paymentAmount events id with
  | none => simp
  | some =>
    rw [decide_eq_true_iff, lt_def, toRat_reversedTotal hexact]
    simp only [Option.some.injEq, exists_eq_left']

theorem overReversed_mem (hexact : ExactSums events) (h : overReversed events id) :
    id ∈ events.filterMap (·.reversedEventId) := by
  obtain ⟨amount, hpaid, hlt⟩ := (overReversed_iff hexact).1 h
  obtain ⟨payment, -, -, -, rfl⟩ := paymentAmount_eq_some hpaid
  have hpos := payment.amountPositive
  rw [lt_def, toRat_zero] at hpos
  cases hreversals : reversalsOf events id with
  | nil =>
    rw [reversed, hreversals, List.map_nil, List.sum_nil] at hlt
    linarith
  | cons event =>
    have hmem : event ∈ reversalsOf events id := hreversals ▸ List.mem_cons_self ..
    obtain ⟨hin, hof⟩ := List.mem_filter.1 hmem
    exact List.mem_filterMap.2 ⟨event, hin, (of_decide_eq_true hof).2⟩

theorem find_foreign_eq_none : events.find? (·.facilityId ≠ facilityId) = none ↔
    Own facilityId events := by
  rw [List.find?_eq_none]
  simp only [decide_eq_true_iff, ne_eq, not_not, Own]

theorem find_unknown_eq_none :
    (events.filter (·.kind = .reversal)).find? (unknownTarget events) = none ↔
      ∀ event, ¬ Dangling events event := by
  rw [List.find?_eq_none]
  constructor
  · intro h event hdangling
    obtain ⟨hmem, hunknown⟩ := find_unknown.2 hdangling
    exact h event hmem hunknown
  · intro h event hmem hunknown
    exact h event (find_unknown.1 ⟨hmem, hunknown⟩)

theorem orderEvents_of_foreign (h : events.find? (·.facilityId ≠ facilityId) = some event) :
    orderEvents facilityId events = .error (foreignFault facilityId event) := by
  unfold orderEvents
  rw [h]
  rfl

theorem orderEvents_of_unknown (hown : Own facilityId events)
    (h : (events.filter (·.kind = .reversal)).find? (unknownTarget events) = some event) :
    orderEvents facilityId events = .error (unknownFault event) := by
  unfold orderEvents
  rw [find_foreign_eq_none.2 hown, h]
  rfl

theorem orderEvents_of_exceeded (hown : Own facilityId events)
    (hknown : ∀ event, ¬ Dangling events event)
    (h : (events.filterMap (·.reversedEventId)).find? (overReversed events) = some id) :
    orderEvents facilityId events = .error (exceededFault id) := by
  unfold orderEvents
  rw [find_foreign_eq_none.2 hown, find_unknown_eq_none.2 hknown, h]
  rfl

/-- **A refusal is one that the history offers.** -/
theorem offers_of_error (hexact : ExactSums events) {fault : LedgerFault}
    (h : orderEvents facilityId events = .error fault) : Offers facilityId events fault := by
  unfold orderEvents at h
  split at h
  · rename_i event hfind
    cases h
    have hne := List.find?_some hfind
    exact .foreign (List.mem_of_find?_eq_some hfind) (of_decide_eq_true hne)
  · rename_i hnone
    have hown := find_foreign_eq_none.1 hnone
    split at h
    · rename_i event hfind
      cases h
      exact .unknown hown
        (find_unknown.1 ⟨List.mem_of_find?_eq_some hfind, List.find?_some hfind⟩)
    · rename_i hnone'
      split at h
      · rename_i id hfind
        cases h
        obtain ⟨amount, hpaid, hlt⟩ := (overReversed_iff hexact).1 (List.find?_some hfind)
        obtain ⟨payment, hmem, hkind, hid, rfl⟩ := paymentAmount_eq_some hpaid
        exact .exceeded hown (find_unknown_eq_none.1 hnone') ⟨payment, hmem, hkind, hid, hlt⟩
      · cases h

/-- **When a history is valid.** -/
theorem orderEvents_isOk_iff :
    (∃ ordered, orderEvents facilityId events = .ok ordered) ↔
      Own facilityId events ∧ (∀ event, ¬ Dangling events event) ∧
        ∀ id ∈ events.filterMap (·.reversedEventId), ¬ overReversed events id := by
  have hover : (events.filterMap (·.reversedEventId)).find? (overReversed events) = none ↔
      ∀ id ∈ events.filterMap (·.reversedEventId), ¬ overReversed events id := List.find?_eq_none
  rw [← find_foreign_eq_none, ← find_unknown_eq_none, ← hover]
  unfold orderEvents
  constructor
  · rintro ⟨ordered, h⟩
    split at h
    · cases h
    rename_i hforeign
    split at h
    · cases h
    rename_i hunknown
    split at h
    · cases h
    rename_i hexceeded
    exact ⟨hforeign, hunknown, hexceeded⟩
  · rintro ⟨hforeign, hunknown, hexceeded⟩
    rw [hforeign, hunknown, hexceeded]
    exact ⟨_, rfl⟩

theorem exists_ordered_iff (hexact : ExactSums events) :
    (∃ ordered, orderEvents facilityId events = .ok ordered) ↔
      Own facilityId events ∧ (∀ event, ¬ Dangling events event) ∧
        ∀ id, ¬ overReversed events id := by
  rw [orderEvents_isOk_iff]
  refine and_congr_right fun _ => and_congr_right fun _ => ?_
  exact ⟨fun h id hid => h id (overReversed_mem hexact hid) hid, fun h id _ => h id⟩

/-- **A history that is refused in every order is refused.** -/
theorem Certain.exists_error (hexact : ExactSums events) (h : Certain facilityId events) :
    ∃ fault, orderEvents facilityId events = .error fault := by
  cases horder : orderEvents facilityId events with
  | error fault => exact ⟨fault, rfl⟩
  | ok ordered =>
    obtain ⟨hown, hknown, hwithin⟩ := (exists_ordered_iff hexact).1 ⟨ordered, horder⟩
    rcases h with hforeign | ⟨event, hdangling⟩ | ⟨id, hhas, hall⟩
    · exact absurd hown hforeign
    · exact absurd hdangling (hknown event)
    cases hpaid : paymentAmount events id with
    | none => exact absurd hhas (paymentAmount_eq_none_iff.1 hpaid)
    | some =>
      obtain ⟨payment, hmem, hkind, hid, rfl⟩ := paymentAmount_eq_some hpaid
      have hlt := hall payment hmem hkind hid
      exact absurd ((overReversed_iff hexact).2 ⟨_, hpaid, hlt⟩) (hwithin id)

end Validation

/-! ### Orders of a history -/

section Orders

variable {facilityId : Uuid} {events : List RepaymentEvent}

/-- No order of the history rounds a sum. -/
def AlwaysExact (events : List RepaymentEvent) : Prop :=
  ∀ others : List RepaymentEvent, others.Perm events → ExactSums others

variable {payment : RepaymentEvent}

theorem paymentAmount_append (hkind : payment.kind = .payment) (others : List RepaymentEvent) :
    paymentAmount (others ++ [payment]) payment.id = some payment.amount := by
  have hself : [payment].filter (fun event => decide (event.kind = .payment ∧ event.id = payment.id)) =
      [payment] := List.filter_cons_of_pos (decide_eq_true ⟨hkind, rfl⟩)
  unfold paymentAmount
  rw [List.filter_append, hself, List.getLast?_append, List.getLast?_singleton, Option.some_or,
    Option.map_some]

/-- Deliver the offender first, and a payment that is too small last. -/
theorem exists_perm_of_offers (hexact : AlwaysExact events) {fault : LedgerFault}
    (h : Offers facilityId events fault) :
    ∃ others : List RepaymentEvent, others.Perm events ∧
      orderEvents facilityId others = .error fault := by
  cases h with
  | @foreign event hmem hne =>
    refine ⟨event :: events.erase event, (List.perm_cons_erase hmem).symm, ?_⟩
    exact orderEvents_of_foreign (List.find?_cons_of_pos (decide_eq_true hne))
  | @unknown event hown hdangling =>
    have hperm := (List.perm_cons_erase hdangling.1).symm
    refine ⟨event :: events.erase event, hperm, ?_⟩
    have hunknown := (find_unknown.2 ((dangling_perm hperm).2 hdangling)).2
    have hfirst : (event :: events.erase event).filter (fun e => decide (e.kind = .reversal)) =
        event :: (events.erase event).filter (fun e => decide (e.kind = .reversal)) :=
      List.filter_cons_of_pos (decide_eq_true hdangling.2.1)
    apply orderEvents_of_unknown ((own_perm hperm).2 hown)
    rw [hfirst]
    exact List.find?_cons_of_pos hunknown
  | @exceeded id hown hknown hmay =>
    obtain ⟨payment, hpay, hkind, rfl, hlt⟩ := hmay
    have hpos := payment.amountPositive
    rw [lt_def, toRat_zero] at hpos
    obtain ⟨reversal, hreversal⟩ : ∃ reversal, reversal ∈ reversalsOf events payment.id := by
      refine List.exists_mem_of_ne_nil _ fun hnone => ?_
      rw [reversed, hnone, List.map_nil, List.sum_nil] at hlt
      linarith
    obtain ⟨hmem, hof⟩ := List.mem_filter.1 hreversal
    obtain ⟨hreverses, htarget⟩ := of_decide_eq_true hof
    have hrest : payment ∈ events.erase reversal := by
      refine (List.mem_erase_of_ne ?_).2 hpay
      rintro rfl
      rw [hkind] at hreverses
      cases hreverses
    obtain ⟨others, hothers⟩ : ∃ others, others =
        reversal :: ((events.erase reversal).erase payment ++ [payment]) := ⟨_, rfl⟩
    have hperm : others.Perm events := by
      rw [hothers]
      calc List.Perm (reversal :: ((events.erase reversal).erase payment ++ [payment]))
            (reversal :: payment :: (events.erase reversal).erase payment) :=
          (List.perm_append_singleton _ _).cons _
        List.Perm _ (reversal :: events.erase reversal) := (List.perm_cons_erase hrest).symm.cons _
        List.Perm _ events := (List.perm_cons_erase hmem).symm
    have hover : overReversed others payment.id := by
      rw [overReversed_iff (hexact others hperm), reversed_perm hperm, hothers, ← List.cons_append,
        paymentAmount_append hkind]
      exact ⟨_, rfl, hlt⟩
    refine ⟨others, hperm, ?_⟩
    have hfirst : (others.filterMap (·.reversedEventId)).find? (overReversed others) =
        some payment.id := by
      conv_lhs => rw [hothers, List.filterMap_cons_some htarget, ← hothers]
      exact List.find?_cons_of_pos hover
    exact orderEvents_of_exceeded ((own_perm hperm).2 hown)
      (fun event hdangling => hknown event ((dangling_perm hperm).1 hdangling)) hfirst

/-- Smaller amounts first. -/
def ascending (events : List RepaymentEvent) : List RepaymentEvent :=
  events.insertionSort fun a b => a.amount ≤ b.amount

theorem ascending_perm (events : List RepaymentEvent) : (ascending events).Perm events :=
  List.perm_insertionSort _ events

/-- In ascending order the largest payment of an id counts. -/
theorem le_paymentAmount_ascending {id : Uuid} {amount : Decimal}
    (h : paymentAmount (ascending events) id = some amount) (hmem : payment ∈ events)
    (hkind : payment.kind = .payment) (hid : payment.id = id) :
    payment.amount.toRat ≤ amount.toRat := by
  have hsort : (ascending events).Pairwise fun a b => a.amount ≤ b.amount := by
    have htotal : Std.Total (fun a b : RepaymentEvent => a.amount ≤ b.amount) :=
      ⟨fun a b => le_total a.amount.toRat b.amount.toRat⟩
    have htrans : IsTrans RepaymentEvent fun a b => a.amount ≤ b.amount :=
      ⟨fun _ _ _ hab hbc => le_trans (le_def.1 hab) (le_def.1 hbc)⟩
    exact List.pairwise_insertionSort _ events
  unfold paymentAmount at h
  obtain ⟨last, hlast, rfl⟩ := Option.map_eq_some_iff.1 h
  obtain ⟨init, hinit⟩ := List.getLast?_eq_some_iff.1 hlast
  have hpairs := hsort.filter fun event => decide (event.kind = .payment ∧ event.id = id)
  have hin : payment ∈ (ascending events).filter fun event =>
      decide (event.kind = .payment ∧ event.id = id) :=
    List.mem_filter.2 ⟨(ascending_perm events).mem_iff.2 hmem, decide_eq_true ⟨hkind, hid⟩⟩
  rw [hinit] at hpairs hin
  rcases List.mem_append.1 hin with hearlier | hself
  · exact le_def.1 ((List.pairwise_append.1 hpairs).2.2 payment hearlier last
      (List.mem_singleton_self last))
  · rw [List.mem_singleton.1 hself]

/-- **Without certain refusal some order is valid**: deliver smaller amounts first. -/
theorem exists_ordered_of_not_certain (hexact : AlwaysExact events)
    (h : ¬ Certain facilityId events) :
    ∃ ordered, orderEvents facilityId (ascending events) = .ok ordered := by
  have hperm := ascending_perm events
  unfold Certain at h
  rw [not_or, not_or, not_not, not_exists, not_exists] at h
  obtain ⟨hown, hknown, hwithin⟩ := h
  rw [exists_ordered_iff (hexact _ hperm)]
  refine ⟨(own_perm hperm).2 hown, fun event hd => hknown event ((dangling_perm hperm).1 hd), ?_⟩
  intro id hover
  obtain ⟨amount, hpaid, hlt⟩ := (overReversed_iff (hexact _ hperm)).1 hover
  rw [reversed_perm hperm] at hlt
  obtain ⟨payment, hmem, hkind, hid, -⟩ := paymentAmount_eq_some hpaid
  refine hwithin id ⟨⟨payment, hperm.mem_iff.1 hmem, hkind, hid⟩, ?_⟩
  intro other hother hkindOther hidOther
  exact (le_paymentAmount_ascending hpaid hother hkindOther hidOther).trans_lt hlt

end Orders

/-! ## What the order of delivery changes -/

variable {facility : Facility} {events : List RepaymentEvent}

/-- **When the order of delivery does not matter.** Within the digits of the context, every order of a
history leads to one outcome exactly when the history offers at most one refusal. -/
theorem perm_same_iff (hscheduled : facility.Scheduled) (hexact : AlwaysExact events) (asOf : Date) :
    (∀ others : List RepaymentEvent, others.Perm events →
      SameOutcome LedgerSnapshot.Equal (applyEvents facility events asOf)
        (applyEvents facility others asOf)) ↔ OneRefusal facility.id events := by
  have hself := hexact events (List.Perm.refl events)
  constructor
  · intro hsame
    -- an order that is refused shows that the history itself is refused, with the same error
    have htransfer : ∀ {others : List RepaymentEvent} {fault : LedgerFault}, others.Perm events →
        orderEvents facility.id others = .error fault →
        orderEvents facility.id events = .error fault := by
      intro others fault hperm hrefused
      have hout := hsame others hperm
      rw [applyEvents_of_refused hscheduled hrefused] at hout
      cases horder : orderEvents facility.id events with
      | error =>
        rw [applyEvents_of_refused hscheduled horder] at hout
        exact congrArg Except.error hout
      | ok ordered =>
        obtain ⟨snapshot, -, hok, -⟩ := exists_equal_of_cash hscheduled ⟨ordered, horder⟩
          ⟨ordered, horder⟩ hself hself rfl asOf
        rw [hok] at hout
        exact hout.elim
    constructor
    · intro f g hf hg
      obtain ⟨others, hperm, hrefused⟩ := exists_perm_of_offers hexact hf
      obtain ⟨others', hperm', hrefused'⟩ := exists_perm_of_offers hexact hg
      have hboth := (htransfer hperm hrefused).symm.trans (htransfer hperm' hrefused')
      exact Except.error.inj hboth
    · intro f hf
      by_contra hcertain
      obtain ⟨others, hperm, hrefused⟩ := exists_perm_of_offers hexact hf
      have horder := htransfer hperm hrefused
      obtain ⟨ordered, hordered⟩ := exists_ordered_of_not_certain hexact hcertain
      have hout := hsame _ (ascending_perm events)
      obtain ⟨snapshot, -, hok, -⟩ := exists_equal_of_cash hscheduled ⟨ordered, hordered⟩
        ⟨ordered, hordered⟩ (hexact _ (ascending_perm events)) (hexact _ (ascending_perm events)) rfl
        asOf
      rw [applyEvents_of_refused hscheduled horder, hok] at hout
      exact hout
  · intro hone others hperm
    have hother := hexact others hperm
    cases horder : orderEvents facility.id events with
    | error =>
      have hoffers := offers_of_error hself horder
      obtain ⟨g, hg⟩ := ((hone.certain hoffers).perm hperm.symm).exists_error hother
      have hoffers' := (offers_of_error hother hg).perm hperm
      rw [applyEvents_of_refused hscheduled horder, applyEvents_of_refused hscheduled hg]
      exact hone.unique hoffers hoffers'
    | ok ordered =>
      cases horder' : orderEvents facility.id others with
      | error =>
        have hoffers := (offers_of_error hother horder').perm hperm
        obtain ⟨f, hf⟩ := (hone.certain hoffers).exists_error hself
        rw [horder] at hf
        cases hf
      | ok ordered' =>
        obtain ⟨snapshot, snapshot', hok, hok', hequal, hcount, hcount'⟩ :=
          exists_equal_of_cash hscheduled ⟨ordered, horder⟩ ⟨ordered', horder'⟩ hself hother
            (cash_perm hperm).symm asOf
        rw [hok, hok']
        exact ⟨hequal, hcount.trans (hperm.length_eq.symm.trans hcount'.symm)⟩

/-! ## Payments that are taken back -/

section TakenBack

variable {facilityId : Uuid} {events reversals others : List RepaymentEvent} {payment : RepaymentEvent}

/-- `others` is a history with one more payment and reversals of it that add up to its amount, delivered
anywhere in between. -/
structure TakenBack (facilityId : Uuid) (payment : RepaymentEvent)
    (reversals events others : List RepaymentEvent) : Prop where
  kind : payment.kind = .payment
  refers : ∀ event ∈ reversals, event.kind = .reversal ∧ event.reversedEventId = some payment.id
  amount : (reversals.map (·.amount.toRat)).sum = payment.amount.toRat
  own : Own facilityId (payment :: reversals)
  perm : others.Perm (payment :: reversals ++ events)
  order : events.Sublist others

theorem TakenBack.cash_eq (h : TakenBack facilityId payment reversals events others) :
    cash others = cash events := by
  have hpay : payment.value = payment.amount.toRat := by
    unfold RepaymentEvent.value
    rw [h.kind]
  have hreversals : (reversals.map (·.value)).sum = -(reversals.map (·.amount.toRat)).sum := by
    rw [List.sum_neg, List.map_map]
    refine congrArg List.sum (List.map_congr_left fun event hmem => ?_)
    unfold RepaymentEvent.value
    rw [(h.refers event hmem).1]
    rfl
  rw [cash_perm h.perm]
  unfold cash
  rw [List.cons_append, List.map_cons, List.sum_cons, List.map_append, List.sum_append, hreversals,
    hpay, h.amount]
  ring

theorem TakenBack.own_others (h : TakenBack facilityId payment reversals events others)
    (hown : Own facilityId events) : Own facilityId others := by
  intro event hmem
  rcases List.mem_append.1 (h.perm.mem_iff.1 hmem) with hnew | hold
  · exact h.own event hnew
  · exact hown event hold

theorem TakenBack.not_dangling (h : TakenBack facilityId payment reversals events others)
    (hknown : ∀ event, ¬ Dangling events event) (event : RepaymentEvent) : ¬ Dangling others event := by
  rintro ⟨hmem, hreversal, hnone⟩
  rcases List.mem_append.1 (h.perm.mem_iff.1 hmem) with hnew | hold
  · rcases List.mem_cons.1 hnew with rfl | hback
    · rw [h.kind] at hreversal
      cases hreversal
    · have hin : payment ∈ others := h.perm.mem_iff.2 (List.mem_cons_self ..)
      exact hnone payment.id (h.refers event hback).2 ⟨payment, hin, h.kind, rfl⟩
  · refine hknown event ⟨hold, hreversal, fun id htarget hhas => hnone id htarget ?_⟩
    obtain ⟨other, hother, hof⟩ := hhas
    exact ⟨other, h.order.subset hother, hof⟩

/-- Nothing changes for the other payments. -/
theorem TakenBack.overReversed_of_ne (h : TakenBack facilityId payment reversals events others)
    (hexact : ExactSums events) (hexact' : ExactSums others) {id : Uuid} (hne : id ≠ payment.id) :
    overReversed others id ↔ overReversed events id := by
  have hpays : others.filter (fun event => decide (event.kind = .payment ∧ event.id = id)) =
      events.filter fun event => decide (event.kind = .payment ∧ event.id = id) := by
    symm
    apply (h.order.filter _).eq_of_length
    have hnew : (payment :: reversals).filter
        (fun event => decide (event.kind = .payment ∧ event.id = id)) = [] := by
      rw [List.filter_eq_nil_iff]
      intro event hmem hof
      obtain ⟨hkind, hid⟩ := of_decide_eq_true hof
      rcases List.mem_cons.1 hmem with rfl | hback
      · exact hne hid.symm
      · rw [(h.refers event hback).1] at hkind
        cases hkind
    rw [(h.perm.filter _).length_eq, List.filter_append, hnew, List.nil_append]
  have hreversals : (reversalsOf (payment :: reversals) id) = [] := by
    refine List.filter_eq_nil_iff.2 fun event hmem hof => ?_
    obtain ⟨hkind, hid⟩ := of_decide_eq_true hof
    rcases List.mem_cons.1 hmem with rfl | hback
    · rw [h.kind] at hkind
      cases hkind
    · rw [(h.refers event hback).2, Option.some.injEq] at hid
      exact hne hid.symm
  have htotal : reversed others id = reversed events id := by
    rw [reversed_perm h.perm]
    unfold reversed reversalsOf at *
    rw [List.filter_append, hreversals, List.nil_append]
  rw [overReversed_iff hexact, overReversed_iff hexact', htotal]
  unfold paymentAmount
  rw [hpays]

end TakenBack

/-- **When a payment that is taken back changes nothing.** Within the digits of the context, exactly when
the payment of its id that counts covers what is reversed of that id. -/
theorem cancel_same_iff (hscheduled : facility.Scheduled) {reversals others : List RepaymentEvent}
    {payment : RepaymentEvent} (hvalid : ∃ ordered, orderEvents facility.id events = .ok ordered)
    (h : TakenBack facility.id payment reversals events others) (hexact : ExactSums events)
    (hexact' : ExactSums others) (asOf : Date) :
    SameOutcome LedgerSnapshot.EqualExceptCount (applyEvents facility events asOf)
        (applyEvents facility others asOf) ↔
      ∀ amount, paymentAmount others payment.id = some amount →
        reversed others payment.id ≤ amount.toRat := by
  obtain ⟨hown, hknown, hwithin⟩ := (exists_ordered_iff hexact).1 hvalid
  have hcovered : (∀ amount, paymentAmount others payment.id = some amount →
      reversed others payment.id ≤ amount.toRat) ↔ ¬ overReversed others payment.id := by
    rw [overReversed_iff hexact']
    push Not
    exact Iff.rfl
  rw [hcovered]
  constructor
  · intro hsame hover
    obtain ⟨snapshot, -, hok, -⟩ := exists_equal_of_cash hscheduled hvalid hvalid hexact hexact rfl asOf
    have hnone : ¬ ∃ ordered, orderEvents facility.id others = .ok ordered := fun hex =>
      ((exists_ordered_iff hexact').1 hex).2.2 payment.id hover
    cases horder : orderEvents facility.id others with
    | ok ordered => exact hnone ⟨ordered, horder⟩
    | error =>
      rw [hok, applyEvents_of_refused hscheduled horder] at hsame
      exact hsame
  · intro hself
    have hvalid' : ∃ ordered, orderEvents facility.id others = .ok ordered := by
      rw [exists_ordered_iff hexact']
      refine ⟨h.own_others hown, h.not_dangling hknown, fun id hover => ?_⟩
      by_cases hid : id = payment.id
      · exact hself (hid ▸ hover)
      · exact hwithin id ((h.overReversed_of_ne hexact hexact' hid).1 hover)
    obtain ⟨snapshot, snapshot', hok, hok', hequal, -, -⟩ := exists_equal_of_cash hscheduled hvalid
      hvalid' hexact hexact' h.cash_eq.symm asOf
    rw [hok, hok']
    exact hequal

/-! ## What the ledger depends on -/

/-- **The ledger depends on the net cash.** Valid histories with exact sums, as many events and the same
net cash lead to equal snapshots; every order of a history leads to one outcome exactly when the history
offers one refusal; and a payment that is taken back changes nothing but the number of events exactly when
the payment of its id that counts covers what is reversed of it. Without a schedule every read raises the
same. -/
theorem ledger_of_cash (facility : Facility) (asOf : Date) :
    (∀ events others : List RepaymentEvent,
      (∃ ordered, orderEvents facility.id events = .ok ordered) →
      (∃ ordered, orderEvents facility.id others = .ok ordered) →
      ExactSums events → ExactSums others → events.length = others.length →
      cash events = cash others →
      SameOutcome LedgerSnapshot.Equal (applyEvents facility events asOf)
          (applyEvents facility others asOf) ∧
        (facility.Scheduled → ∃ snapshot, applyEvents facility events asOf = .ok snapshot)) ∧
    (∀ events : List RepaymentEvent, AlwaysExact events →
      ((∀ others : List RepaymentEvent, others.Perm events →
          SameOutcome LedgerSnapshot.Equal (applyEvents facility events asOf)
            (applyEvents facility others asOf)) ↔
        (facility.Scheduled → OneRefusal facility.id events))) ∧
    (∀ (events reversals others : List RepaymentEvent) (payment : RepaymentEvent),
      (∃ ordered, orderEvents facility.id events = .ok ordered) →
      TakenBack facility.id payment reversals events others → ExactSums events → ExactSums others →
      (SameOutcome LedgerSnapshot.EqualExceptCount (applyEvents facility events asOf)
          (applyEvents facility others asOf) ↔
        (facility.Scheduled → ∀ amount, paymentAmount others payment.id = some amount →
          reversed others payment.id ≤ amount.toRat))) := by
  by_cases hscheduled : facility.Scheduled
  · refine ⟨?_, fun events hexact => ?_, fun events reversals others payment hvalid h hexact hexact' => ?_⟩
    · intro events others hvalid hvalid' hexact hexact' hcount hcash
      obtain ⟨snapshot, snapshot', hok, hok', hequal, hevts, hevts'⟩ :=
        exists_equal_of_cash hscheduled hvalid hvalid' hexact hexact' hcash asOf
      rw [hok, hok']
      exact ⟨⟨hequal, hevts.trans (hcount.trans hevts'.symm)⟩, fun _ => ⟨snapshot, rfl⟩⟩
    · rw [perm_same_iff hscheduled hexact asOf]
      exact ⟨fun h _ => h, fun h => h hscheduled⟩
    · rw [cancel_same_iff hscheduled hvalid h hexact hexact' asOf]
      exact ⟨fun h _ => h, fun h => h hscheduled⟩
  · have hraises := sameOutcome_of_not_scheduled hscheduled
    refine ⟨?_, fun events _ => ?_, fun events reversals others payment _ _ _ _ => ?_⟩
    · intro events others _ _ _ _ _ _
      exact ⟨hraises _ events others asOf, fun h => absurd h hscheduled⟩
    · exact ⟨fun _ h => absurd h hscheduled, fun _ others _ => hraises _ events others asOf⟩
    · exact ⟨fun _ h => absurd h hscheduled, fun _ => hraises _ events others asOf⟩

section Histories

/-- A payment or a reversal into the sample loan, on a day of January 2026. -/
def sampleEvent (id : Uuid) (kind : EventKind) (amount : Decimal) (reversedEventId : Option Uuid)
    (effectiveDate : Date) (hamount : 0 < amount) (href : kind = .reversal ↔ reversedEventId.isSome) :
    RepaymentEvent where
  id
  facilityId := 1
  kind
  amount
  externalReference := "ref"
  reversedEventId
  effectiveDate
  recordedAt := some 5
  amountPositive := hamount
  referenceNonempty := by decide
  reference := href

theorem payment_reverses_nothing : EventKind.payment = .reversal ↔ (none : Option Uuid).isSome := by
  decide

def samplePay (id : Uuid) (amount : Decimal) (day : Date) (h : 0 < amount) : RepaymentEvent :=
  sampleEvent id .payment amount none day h payment_reverses_nothing

def sampleReverse (id : Uuid) (amount : Decimal) (target : Uuid) (day : Date) (h : 0 < amount) :
    RepaymentEvent :=
  sampleEvent id .reversal amount (some target) day h (by simp)

def dayFive : Date := (Date.ofParts 2026 1 5).get (by decide)

def daySix : Date := (Date.ofParts 2026 1 6).get (by decide)

def daySeven : Date := (Date.ofParts 2026 1 7).get (by decide)

/-- `10 ^ 27` comes in, a cent comes in, and the first payment is taken back. -/
def centBefore : List RepaymentEvent :=
  [samplePay 10 ⟨1, 27⟩ dayFive (by decide), samplePay 11 ⟨1, -2⟩ daySix (by decide),
    sampleReverse 12 ⟨1, 27⟩ 10 daySeven (by decide)]

/-- The same, with the cent coming in last. -/
def centAfter : List RepaymentEvent :=
  [samplePay 10 ⟨1, 27⟩ dayFive (by decide), sampleReverse 12 ⟨1, 27⟩ 10 daySix (by decide),
    samplePay 11 ⟨1, -2⟩ daySeven (by decide)]

/-- One payment delivered with two amounts, and a reversal between them. -/
def paidTwice : List RepaymentEvent :=
  [samplePay 10 ⟨100, -2⟩ dayFive (by decide), samplePay 10 ⟨50, -2⟩ dayFive (by decide),
    sampleReverse 12 ⟨80, -2⟩ 10 daySeven (by decide)]

/-- The same, delivered the other way round. -/
def paidTwiceSwapped : List RepaymentEvent :=
  [samplePay 10 ⟨50, -2⟩ dayFive (by decide), samplePay 10 ⟨100, -2⟩ dayFive (by decide),
    sampleReverse 12 ⟨80, -2⟩ 10 daySeven (by decide)]

/-- Twelve and a half come in, in two payments. -/
def twoPayments : List RepaymentEvent :=
  [samplePay 10 ⟨500, -2⟩ dayFive (by decide), samplePay 11 ⟨750, -2⟩ daySix (by decide)]

/-- Twelve and a half come in, in two other payments. -/
def otherPayments : List RepaymentEvent :=
  [samplePay 12 ⟨250, -2⟩ daySeven (by decide), samplePay 13 ⟨1000, -2⟩ dayFive sampleFacility.principalPositive]

/-- Three more come in and are taken back. -/
def takenBack : List RepaymentEvent :=
  samplePay 14 ⟨300, -2⟩ daySix (by decide) :: sampleReverse 15 ⟨300, -2⟩ 14 daySeven (by decide) ::
    twoPayments

/-- The net cash a read reports. -/
def netPaidOf (events : List RepaymentEvent) : Option Decimal :=
  match applyEvents sampleFacility events sampleDay with
  | .ok snapshot => some snapshot.netPaid
  | .error _ => none

variable {events : List RepaymentEvent}

theorem netPaidOf_eq_some {net : Decimal} (h : netPaidOf events = some net) :
    ∃ snapshot, applyEvents sampleFacility events sampleDay = .ok snapshot ∧
      snapshot.netPaid = net := by
  unfold netPaidOf at h
  split at h
  · rename_i snapshot hok
    exact ⟨snapshot, hok, Option.some.inj h⟩
  · cases h

theorem exactSums_sample (hcents : ∀ event ∈ events, event.amount.exponent = -2)
    (hlt : (events.map (·.amount.toRat)).sum < 10 ^ contextPrecision * cent) : ExactSums events :=
  exactSums_of_cents (fun event hmem => Cents.mem (hcents event hmem)) hlt

/-- Twelve and a half, however they come in. -/
theorem ledger_of_cash_twelve :
    SameOutcome LedgerSnapshot.Equal (applyEvents sampleFacility twoPayments sampleDay)
        (applyEvents sampleFacility otherPayments sampleDay) ∧
      SameOutcome LedgerSnapshot.Equal (applyEvents sampleFacility twoPayments sampleDay)
        (applyEvents sampleFacility twoPayments.reverse sampleDay) ∧
      SameOutcome LedgerSnapshot.EqualExceptCount (applyEvents sampleFacility twoPayments sampleDay)
        (applyEvents sampleFacility takenBack sampleDay) := by
  have hbound : ∀ events ∈ [twoPayments, otherPayments, takenBack],
      (∀ event ∈ events, event.amount.exponent = -2) ∧
        (events.map (·.amount.toRat)).sum < 10 ^ contextPrecision * cent := by
    intro events hmem
    simp only [List.mem_cons, List.not_mem_nil, or_false] at hmem
    rcases hmem with rfl | rfl | rfl <;> constructor
    · decide
    · norm_num [twoPayments, samplePay, sampleEvent, toRat, contextPrecision, cent, unit, moneyExponent]
    · decide
    · norm_num [otherPayments, samplePay, sampleEvent, toRat, contextPrecision, cent, unit,
        moneyExponent]
    · decide
    · norm_num [takenBack, twoPayments, samplePay, sampleReverse, sampleEvent, toRat, contextPrecision,
        cent, unit, moneyExponent]
  have hexact : ∀ events ∈ [twoPayments, otherPayments, takenBack], ExactSums events :=
    fun events hmem => exactSums_sample (hbound events hmem).1 (hbound events hmem).2
  have htwo := hexact twoPayments (by simp)
  have hother := hexact otherPayments (by simp)
  have hback := hexact takenBack (by simp)
  have hvalid : ∃ ordered, orderEvents sampleFacility.id twoPayments = .ok ordered := ⟨_, rfl⟩
  obtain ⟨hequal, horder, hcancel⟩ := ledger_of_cash sampleFacility sampleDay
  refine ⟨?_, ?_, ?_⟩
  · refine (hequal twoPayments otherPayments hvalid ⟨_, rfl⟩ htwo hother rfl ?_).1
    norm_num [cash, twoPayments, otherPayments, samplePay, sampleEvent, RepaymentEvent.value, toRat]
  · have halways : AlwaysExact twoPayments := by
      intro others hperm
      apply exactSums_sample
      · intro event hmem
        exact (hbound twoPayments (by simp)).1 event (hperm.mem_iff.1 hmem)
      · rw [(hperm.map _).sum_eq]
        exact (hbound twoPayments (by simp)).2
    -- without reversals there is nothing to refuse
    have hnone : ∀ fault, ¬ Offers sampleFacility.id twoPayments fault := by
      intro fault hoffers
      obtain ⟨hown, hknown, -⟩ := (exists_ordered_iff htwo).1 hvalid
      have hnothing : ∀ id, reversed twoPayments id = 0 := fun _ => rfl
      cases hoffers with
      | foreign hmem hne => exact hne (hown _ hmem)
      | unknown _ hdangling => exact hknown _ hdangling
      | exceeded _ _ hmay =>
        obtain ⟨payment, -, -, -, hlt⟩ := hmay
        have hpos := amount_nonneg payment
        rw [hnothing] at hlt
        linarith
    exact (horder twoPayments halways).2
      (fun _ => ⟨fun hf _ => absurd hf (hnone _), fun hf => absurd hf (hnone _)⟩) _
      (List.reverse_perm _)
  · have htaken : TakenBack sampleFacility.id (samplePay 14 ⟨300, -2⟩ daySix (by decide))
        [sampleReverse 15 ⟨300, -2⟩ 14 daySeven (by decide)] twoPayments takenBack := by
      refine ⟨rfl, by decide, ?_, ?_, List.Perm.refl _, ?_⟩
      · norm_num [samplePay, sampleReverse, sampleEvent]
      · exact List.forall_mem_cons.2 ⟨rfl, List.forall_mem_singleton.2 rfl⟩
      · exact (List.sublist_cons_self _ _).trans (List.sublist_cons_self _ _)
    refine (hcancel twoPayments _ takenBack _ hvalid htaken htwo hback).2 fun _ amount hpaid => ?_
    have hamount : amount = ⟨300, -2⟩ := (Option.some.inj hpaid).symm
    rw [hamount, ← toRat_reversedTotal hback]
    exact le_def.1 (by decide)

/-- **Two histories of one cent, two ledgers**: a cent that comes in on top of `10 ^ 27` is lost. And of
two orders of one history one is refused. -/
theorem cash_not_decisive :
    (centBefore.length = centAfter.length ∧ cash centBefore = cash centAfter ∧
      (∃ ordered, orderEvents sampleFacility.id centBefore = .ok ordered) ∧
      (∃ ordered, orderEvents sampleFacility.id centAfter = .ok ordered) ∧
      ¬ SameOutcome LedgerSnapshot.Equal (applyEvents sampleFacility centBefore sampleDay)
        (applyEvents sampleFacility centAfter sampleDay)) ∧
    (paidTwiceSwapped.Perm paidTwice ∧
      ¬ SameOutcome LedgerSnapshot.Equal (applyEvents sampleFacility paidTwice sampleDay)
        (applyEvents sampleFacility paidTwiceSwapped sampleDay)) := by
  obtain ⟨before, hpre, hnet⟩ := netPaidOf_eq_some
    (show netPaidOf centBefore = some ⟨0, 0⟩ by decide +kernel)
  obtain ⟨after, hafter, hnet'⟩ := netPaidOf_eq_some
    (show netPaidOf centAfter = some ⟨1, -2⟩ by decide +kernel)
  obtain ⟨swapped, hswapped, -⟩ := netPaidOf_eq_some
    (show netPaidOf paidTwiceSwapped = some ⟨70, -2⟩ by decide +kernel)
  refine ⟨⟨rfl, ?_, ⟨sortEvents centBefore, rfl⟩, ⟨sortEvents centAfter, rfl⟩, ?_⟩, ?_, ?_⟩
  · simp only [cash, centBefore, centAfter, samplePay, sampleReverse, sampleEvent,
      RepaymentEvent.value, List.map_cons, List.map_nil, List.sum_cons, List.sum_nil]
    ring
  · rw [hpre, hafter]
    intro hequal
    have hvalue := hequal.netPaid
    rw [hnet, hnet'] at hvalue
    norm_num [toRat] at hvalue
  · exact List.Perm.swap _ _ _
  · have hrefused : orderEvents sampleFacility.id paidTwice = .error (exceededFault 10) := rfl
    have hscheduled : sampleFacility.Scheduled := by
      obtain ⟨_, installments, _, _, hbuild, -⟩ := applyEvents_eq_ok hswapped
      exact ⟨installments, hbuild⟩
    rw [applyEvents_of_refused hscheduled hrefused, hswapped]
    exact id

end Histories

end CreditOps.Repayments
