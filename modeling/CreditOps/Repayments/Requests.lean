import CreditOps.Library.Transition
import CreditOps.ContractPackages.Domain
import CreditOps.Domain.Api
import CreditOps.Domain.Money
import CreditOps.Repayments.Readability

/-!
# Ledger requests

The two writes of the repayment ledger, an officer opening a facility and recording a payment or a
reversal, and the read that follows. Both tables are append-only. A reversal is accepted when it refers
to a stored payment of the facility, whatever was reversed of it before; the schedule is not built when a
facility is opened.

So an accepted write can make the read raise for good (`reversedTwice_unreadable`). In every state the
requests reach, the ledger of a facility can be read exactly when its terms can be scheduled and no
payment has been reversed for more than its amount (`ledger_readable_iff`).
-/

set_option autoImplicit false

namespace CreditOps.Repayments

open Decimal Results Transition ContractPackages

/-! ## The tables -/

/-- `facilities` and `repayment_events`, oldest row first. -/
structure RepaymentStore where
  facilities : List Facility
  events : List RepaymentEvent
deriving DecidableEq

/-- Why a write is refused. -/
inductive LedgerRefusal where
  | api (error : ApiException)
  | sql (error : SqlError)
deriving DecidableEq

/-- A check constraint casts the text of an amount. -/
def castNumeric (value : Decimal) : Except LedgerRefusal Unit :=
  if numericInRange value then .ok () else .error (.sql .numericValueOutOfRange)

/-- A facility as its row reads back: amounts are stored as positional text. -/
def Facility.stored (facility : Facility) : Facility :=
  { facility with
    principal := facility.principal.positional
    annualRatePercent := facility.annualRatePercent.positional
    periodicFee := facility.periodicFee.positional
    principalPositive := by
      have hpos := facility.principalPositive
      rwa [lt_def, toRat_positional]
    rateNonneg := by
      have hnn := facility.rateNonneg
      rwa [le_def, toRat_positional]
    feeNonneg := by
      have hnn := facility.feeNonneg
      rwa [le_def, toRat_positional] }

/-- An event as its row reads back, with the time the database gave it. -/
def RepaymentEvent.stored (event : RepaymentEvent) (recordedAt : Timestamp) : RepaymentEvent :=
  { event with
    amount := event.amount.positional
    recordedAt := some recordedAt
    amountPositive := by
      have hpos := event.amountPositive
      rwa [lt_def, toRat_positional] }

namespace RepaymentStore

/-- `load_facility` -/
def loadFacility (store : RepaymentStore) (facilityId caseId : Uuid) (caseVersion : CaseVersion) :
    Option Facility :=
  store.facilities.find? fun facility =>
    facility.id = facilityId ∧ facility.caseId = caseId ∧ facility.caseVersion = caseVersion

/-- `list_events`: ordered by effective date, recording time and id. -/
def listEvents (store : RepaymentStore) (facilityId : Uuid) : List RepaymentEvent :=
  sortEvents (store.events.filter (·.facilityId = facilityId))

/-- The insert of a facility. -/
def insertFacility (store : RepaymentStore) (facility : Facility) :
    Except LedgerRefusal RepaymentStore := do
  castNumeric facility.principal
  castNumeric facility.annualRatePercent
  castNumeric facility.periodicFee
  if facility.id ∈ store.facilities.map (·.id) then
    .error (.sql (.uniqueViolation "facilities_pkey"))
  else .ok { store with facilities := store.facilities ++ [facility.stored] }

/-- `record_event`: a delivery with a known external reference changes nothing. -/
def insertEvent (store : RepaymentStore) (event : RepaymentEvent) (recordedAt : Timestamp) :
    Except LedgerRefusal RepaymentStore := do
  castNumeric event.amount
  if ∃ row ∈ store.events,
      row.facilityId = event.facilityId ∧ row.externalReference = event.externalReference then
    .ok store
  else if event.id ∈ store.events.map (·.id) then
    .error (.sql (.uniqueViolation "repayment_events_pkey"))
  else .ok { store with events := store.events ++ [event.stored recordedAt] }

end RepaymentStore

/-! ## Requests -/

/-- `_decimal` -/
def parseDecimal (code field : String) : ParsedDecimal → Except LedgerRefusal (Option Decimal)
  | .invalid => .error (.api ⟨422, code, "Giá trị " ++ field ++ " không hợp lệ."⟩)
  | .special => .ok none
  | .finite value => .ok (some value)

/-- The fee of a request; none was given means zero. -/
def parseFee : Option ParsedDecimal → Except LedgerRefusal (Option Decimal)
  | some fee => parseDecimal "INVALID_FACILITY" "periodicFee" fee
  | none => .ok (some 0)

/-- `CreateFacilityRequest` -/
structure CreateFacilityRequest where
  principal : ParsedDecimal
  annualRatePercent : ParsedDecimal
  termMonths : Nat
  repaymentStyle : String
  firstPaymentDate : Date
  periodicFee : Option ParsedDecimal
  termInRange : 1 ≤ termMonths ∧ termMonths ≤ 600

/-- `RecordEventRequest` -/
structure RecordEventRequest where
  kind : String
  amount : ParsedDecimal
  externalReference : String
  effectiveDate : Date
  reversedEventId : Option Uuid
  referenceNonempty : externalReference ≠ ""

/-- The case the actor is assigned to, at its current version, with its credit decision. -/
structure CaseContext where
  caseId : Uuid
  version : CaseVersion
  decision : Option CreditDecision
  versionPositive : 1 ≤ version

/-- The styles by their stored text. -/
def RepaymentStyle.ofValue (text : String) : Option RepaymentStyle :=
  [RepaymentStyle.equalPrincipal, .balloon].find? (·.value = text)

/-- The kinds by their stored text. -/
def EventKind.ofValue (text : String) : Option EventKind :=
  [EventKind.payment, .reversal].find? (·.value = text)

/-- The facility a request describes, if it is valid. -/
def buildFacility (context : CaseContext) (decision : CreditDecision) (newId : Uuid)
    (request : CreateFacilityRequest) (principal rate fee : Option Decimal) : Option Facility :=
  match principal, rate, fee, RepaymentStyle.ofValue request.repaymentStyle with
  | some principal, some rate, some fee, some style =>
    if h : 0 < principal ∧ 0 ≤ rate ∧ 0 ≤ fee then
      some
        { id := newId
          caseId := context.caseId
          caseVersion := context.version
          decisionId := decision.decisionId
          principal
          annualRatePercent := rate
          termMonths := request.termMonths
          repaymentStyle := style
          firstPaymentDate := request.firstPaymentDate
          periodicFee := fee
          versionPositive := context.versionPositive
          principalPositive := h.1
          rateNonneg := h.2.1
          termPositive := request.termInRange.1
          feeNonneg := h.2.2 }
    else none
  | _, _, _, _ => none

/-- `create_facility` -/
def createFacility (store : RepaymentStore) (context : CaseContext) (newId : Uuid)
    (request : CreateFacilityRequest) : Except LedgerRefusal RepaymentStore :=
  match context.decision.filter (·.decisionType ∈ approvalDecisions) with
  | none => .error (.api ⟨409, "FACILITY_REQUIRES_APPROVAL_DECISION",
      "Chưa có quyết định phê duyệt tín dụng cho phiên bản hồ sơ hiện tại để mở khoản vay."⟩)
  | some decision => do
    let principal ← parseDecimal "INVALID_FACILITY" "principal" request.principal
    let rate ← parseDecimal "INVALID_FACILITY" "annualRatePercent" request.annualRatePercent
    let fee ← parseFee request.periodicFee
    match buildFacility context decision newId request principal rate fee with
    | none => .error (.api ⟨422, "INVALID_FACILITY", "Thông tin khoản vay không hợp lệ."⟩)
    | some facility => store.insertFacility facility

/-- A reversal must refer to a stored payment of the facility. -/
def checkReversal (store : RepaymentStore) (facilityId : Uuid) (kind : EventKind)
    (reversedEventId : Option Uuid) : Except LedgerRefusal Unit :=
  if kind = .reversal ∧ ¬ ∃ event ∈ store.listEvents facilityId,
      event.kind = .payment ∧ reversedEventId = some event.id then
    .error (.api ⟨422, "INVALID_REVERSAL_REFERENCE",
      "Bút toán đảo phải tham chiếu một khoản thanh toán của khoản vay này."⟩)
  else .ok ()

/-- The event a request describes, if it is valid. -/
def buildEvent (facility : Facility) (newId : Uuid) (kind : EventKind) (request : RecordEventRequest)
    (amount : Option Decimal) : Option RepaymentEvent :=
  match amount with
  | none => none
  | some amount =>
    if h : 0 < amount ∧ (kind = .reversal ↔ request.reversedEventId.isSome) then
      some
        { id := newId
          facilityId := facility.id
          kind
          amount
          externalReference := request.externalReference
          reversedEventId := request.reversedEventId
          effectiveDate := request.effectiveDate
          recordedAt := none
          amountPositive := h.1
          referenceNonempty := request.referenceNonempty
          reference := h.2 }
    else none

/-- `record_event` of the endpoint. -/
def recordEvent (store : RepaymentStore) (context : CaseContext) (facilityId newId : Uuid)
    (recordedAt : Timestamp) (request : RecordEventRequest) : Except LedgerRefusal RepaymentStore :=
  match store.loadFacility facilityId context.caseId context.version with
  | none => .error (.api ⟨404, "FACILITY_NOT_FOUND", "Không tìm thấy khoản vay trong hồ sơ này."⟩)
  | some facility =>
    match EventKind.ofValue request.kind with
    | none => .error (.api ⟨422, "INVALID_EVENT_KIND", "Loại sự kiện thu nợ không hợp lệ."⟩)
    | some kind => do
      let amount ← parseDecimal "INVALID_EVENT" "amount" request.amount
      checkReversal store facilityId kind request.reversedEventId
      match buildEvent facility newId kind request amount with
      | none => .error (.api ⟨422, "INVALID_EVENT", "Sự kiện thu nợ không hợp lệ."⟩)
      | some event => store.insertEvent event recordedAt

/-- The fold of `get_ledger`. -/
def readLedger (store : RepaymentStore) (facility : Facility) (asOf : Date) :
    Except LedgerFault LedgerSnapshot :=
  applyEvents facility (store.listEvents facility.id) asOf

/-! ## Runs -/

/-- One write, with the values the server draws for it. -/
inductive LedgerRequest where
  | createFacility (context : CaseContext) (newId : Uuid) (request : CreateFacilityRequest)
  | recordEvent (context : CaseContext) (facilityId newId : Uuid) (recordedAt : Timestamp)
      (request : RecordEventRequest)

/-- An accepted write; none when it is refused. -/
def step (store : RepaymentStore) : LedgerRequest → Option RepaymentStore
  | .createFacility context newId request => (createFacility store context newId request).toOption
  | .recordEvent context facilityId newId recordedAt request =>
    (recordEvent store context facilityId newId recordedAt request).toOption

/-- No rows. -/
def emptyStore : RepaymentStore :=
  ⟨[], []⟩

/-- What the accepted writes keep. -/
structure Inv (store : RepaymentStore) : Prop where
  months : ∀ facility ∈ store.facilities, facility.termMonths ≤ 600
  ids : (store.events.map (·.id)).Nodup
  targets : ∀ event ∈ store.events, event.kind = .reversal →
    ∃ payment ∈ store.events, payment.kind = .payment ∧ payment.facilityId = event.facilityId ∧
      event.reversedEventId = some payment.id

theorem inv_empty : Inv emptyStore where
  months := by
    intro facility hmem
    cases hmem
  ids := List.nodup_nil
  targets := by
    intro event hmem
    cases hmem

variable {store store' : RepaymentStore} {newId facilityId : Uuid} {event : RepaymentEvent}

theorem mem_listEvents :
    event ∈ store.listEvents facilityId ↔ event ∈ store.events ∧ event.facilityId = facilityId := by
  rw [RepaymentStore.listEvents, sortEvents, (List.perm_insertionSort _ _).mem_iff, List.mem_filter,
    decide_eq_true_iff]

variable {facility : Facility}

theorem insertFacility_eq_ok (h : store.insertFacility facility = .ok store') :
    store' = { store with facilities := store.facilities ++ [facility.stored] } := by
  unfold RepaymentStore.insertFacility at h
  obtain ⟨_, -, h⟩ := bind_eq_ok.1 h
  obtain ⟨_, -, h⟩ := bind_eq_ok.1 h
  obtain ⟨_, -, h⟩ := bind_eq_ok.1 h
  split at h
  · cases h
  · exact (Except.ok.inj h).symm

variable {context : CaseContext} {request : CreateFacilityRequest}

theorem buildFacility_eq_some {decision : CreditDecision} {principal rate fee : Option Decimal}
    (h : buildFacility context decision newId request principal rate fee = some facility) :
    facility.termMonths = request.termMonths := by
  unfold buildFacility at h
  split at h
  · split at h
    · cases h
      rfl
    · cases h
  · cases h

/-- **An accepted facility** is appended, with a term of at most six hundred months. -/
theorem createFacility_eq_ok (h : createFacility store context newId request = .ok store') :
    ∃ facility : Facility, facility.termMonths ≤ 600 ∧
      store' = { store with facilities := store.facilities ++ [facility] } := by
  unfold createFacility at h
  split at h
  · cases h
  obtain ⟨principal, -, h⟩ := bind_eq_ok.1 h
  obtain ⟨rate, -, h⟩ := bind_eq_ok.1 h
  obtain ⟨fee, -, h⟩ := bind_eq_ok.1 h
  split at h
  · cases h
  rename_i facility hbuild
  refine ⟨facility.stored, ?_, insertFacility_eq_ok h⟩
  show facility.termMonths ≤ 600
  rw [buildFacility_eq_some hbuild]
  exact request.termInRange.2

variable {recordedAt : Timestamp}

theorem insertEvent_eq_ok (h : store.insertEvent event recordedAt = .ok store') :
    store' = store ∨ (event.id ∉ store.events.map (·.id) ∧
      store' = { store with events := store.events ++ [event.stored recordedAt] }) := by
  unfold RepaymentStore.insertEvent at h
  obtain ⟨_, -, h⟩ := bind_eq_ok.1 h
  split at h
  · exact Or.inl (Except.ok.inj h).symm
  · split at h
    · cases h
    rename_i hnew
    exact Or.inr ⟨hnew, (Except.ok.inj h).symm⟩

theorem buildEvent_eq_some {kind : EventKind} {request : RecordEventRequest} {amount : Option Decimal}
    (h : buildEvent facility newId kind request amount = some event) :
    event.facilityId = facility.id ∧ event.kind = kind ∧
      event.reversedEventId = request.reversedEventId := by
  unfold buildEvent at h
  split at h
  · cases h
  split at h
  · cases h
    exact ⟨rfl, rfl, rfl⟩
  · cases h

theorem loadFacility_id {caseId : Uuid} {version : CaseVersion}
    (h : store.loadFacility facilityId caseId version = some facility) :
    facility.id = facilityId := by
  have hfound := List.find?_some h
  exact (of_decide_eq_true hfound).1

/-- **An accepted event** is known already or appended under a new id, and a reversal refers to a stored
payment of its facility. -/
theorem recordEvent_eq_ok {request : RecordEventRequest}
    (h : recordEvent store context facilityId newId recordedAt request = .ok store') :
    store' = store ∨ ∃ event : RepaymentEvent,
      event.id ∉ store.events.map (·.id) ∧
      (event.kind = .reversal → ∃ payment ∈ store.events, payment.kind = .payment ∧
        payment.facilityId = event.facilityId ∧ event.reversedEventId = some payment.id) ∧
      store' = { store with events := store.events ++ [event] } := by
  unfold recordEvent at h
  split at h
  · cases h
  rename_i facility hfacility
  split at h
  · cases h
  rename_i kind _
  obtain ⟨amount, -, h⟩ := bind_eq_ok.1 h
  obtain ⟨_, hcheck, h⟩ := bind_eq_ok.1 h
  split at h
  · cases h
  rename_i event hbuild
  obtain ⟨hof, hkind, hreversed⟩ := buildEvent_eq_some hbuild
  rcases insertEvent_eq_ok h with hsame | ⟨hnew, hstore⟩
  · exact Or.inl hsame
  · refine Or.inr ⟨event.stored recordedAt, hnew, ?_, hstore⟩
    intro hreversal
    unfold checkReversal at hcheck
    split at hcheck
    · cases hcheck
    rename_i hallow
    rw [not_and, not_not] at hallow
    have hkind' : kind = .reversal := hkind.symm.trans hreversal
    obtain ⟨payment, hmem, hpayment, hid⟩ := hallow hkind'
    obtain ⟨hstored, hown⟩ := mem_listEvents.1 hmem
    refine ⟨payment, hstored, hpayment, ?_, hreversed.trans hid⟩
    exact hown.trans ((loadFacility_id hfacility).symm.trans hof.symm)

theorem Inv.step {q : LedgerRequest} (h : Inv store) (hstep : step store q = some store') :
    Inv store' := by
  cases q with
  | createFacility =>
    obtain ⟨_, hmonths, rfl⟩ := createFacility_eq_ok (toOption_eq_some.1 hstep)
    refine ⟨?_, h.ids, h.targets⟩
    intro f hf
    rcases List.mem_append.1 hf with hold | hnew
    · exact h.months f hold
    · rw [List.mem_singleton] at hnew
      rw [hnew]
      exact hmonths
  | recordEvent =>
    rcases recordEvent_eq_ok (toOption_eq_some.1 hstep) with rfl | ⟨_, hid, htarget, rfl⟩
    · exact h
    · refine ⟨h.months, ?_, ?_⟩
      · rw [List.map_append, List.map_singleton]
        exact List.nodup_append_comm.1 (List.nodup_cons.2 ⟨hid, h.ids⟩)
      · intro e he hreversal
        have hfound : ∃ payment ∈ store.events, payment.kind = .payment ∧
            payment.facilityId = e.facilityId ∧ e.reversedEventId = some payment.id := by
          rcases List.mem_append.1 he with hold | hnew
          · exact h.targets e hold hreversal
          · rw [List.mem_singleton] at hnew
            subst hnew
            exact htarget hreversal
        obtain ⟨payment, hmem, hrest⟩ := hfound
        exact ⟨payment, List.mem_append_left _ hmem, hrest⟩

/-! ## When the history is valid -/

/-- No payment is reversed for more than its amount, as the ledger adds the reversals up. -/
def WithinPayments (events : List RepaymentEvent) : Prop :=
  ∀ payment ∈ events, payment.kind = .payment → reversedTotal events payment.id ≤ payment.amount

variable {events : List RepaymentEvent}

theorem paymentAmount_eq {payment : RepaymentEvent} (hids : (events.map (·.id)).Nodup)
    (hmem : payment ∈ events) (hpayment : payment.kind = .payment) :
    paymentAmount events payment.id = some payment.amount := by
  have hfilter : payment ∈ events.filter fun e => e.kind = .payment ∧ e.id = payment.id :=
    List.mem_filter.2 ⟨hmem, decide_eq_true ⟨hpayment, rfl⟩⟩
  obtain ⟨last, hlast⟩ := Option.isSome_iff_exists.1
    (List.getLast?_isSome.2 (List.ne_nil_of_mem hfilter))
  have hin := List.mem_filter.1 (List.mem_of_getLast? hlast)
  have hsame : last = payment :=
    List.inj_on_of_nodup_map hids hin.1 hmem (of_decide_eq_true hin.2).2
  rw [paymentAmount, hlast, hsame]
  rfl

/-- **When a stored history is valid.** Its events belong to the facility and its reversals refer to
payments, so only the reversed amounts are left to check. -/
theorem orderEvents_exists_iff (hown : ∀ event ∈ events, event.facilityId = facilityId)
    (hids : (events.map (·.id)).Nodup)
    (htargets : ∀ event ∈ events, event.kind = .reversal → ∃ payment ∈ events, payment.kind = .payment ∧ event.reversedEventId = some payment.id) :
    (∃ ordered, orderEvents facilityId events = .ok ordered) ↔ WithinPayments events := by
  have hforeign : events.find? (fun event => decide (event.facilityId ≠ facilityId)) = none := by
    rw [List.find?_eq_none]
    intro event hmem hne
    exact of_decide_eq_true hne (hown event hmem)
  have hknown : (events.filter fun event => decide (event.kind = .reversal)).find?
      (unknownTarget events) = none := by
    rw [List.find?_eq_none]
    intro event hmem hunknown
    obtain ⟨hin, hreversal⟩ := List.mem_filter.1 hmem
    obtain ⟨_, hpay, hkind, hid⟩ := htargets event hin (of_decide_eq_true hreversal)
    unfold unknownTarget at hunknown
    rw [hid] at hunknown
    dsimp only at hunknown
    rw [paymentAmount_eq hids hpay hkind] at hunknown
    cases hunknown
  have horder : (∃ ordered, orderEvents facilityId events = .ok ordered) ↔
      (events.filterMap (·.reversedEventId)).find? (overReversed events) = none := by
    unfold orderEvents
    rw [hforeign, hknown]
    cases (events.filterMap (·.reversedEventId)).find? (overReversed events) with
    | none | some => simp
  rw [horder, List.find?_eq_none]
  constructor
  · intro hnone payment hmem hpayment
    by_cases hreversals : reversalsOf events payment.id = []
    · unfold reversedTotal
      rw [hreversals, List.foldl_nil]
      exact (lt_def.1 payment.amountPositive).le
    · obtain ⟨event, hevent⟩ := List.exists_mem_of_ne_nil _ hreversals
      obtain ⟨hin, hof⟩ := List.mem_filter.1 hevent
      have hid := (of_decide_eq_true hof).2
      have hnot := hnone payment.id (List.mem_filterMap.2 ⟨event, hin, hid⟩)
      unfold overReversed at hnot
      rw [paymentAmount_eq hids hmem hpayment] at hnot
      exact le_iff_not_lt.2 fun hlt => hnot (decide_eq_true hlt)
  · intro hwithin id hid hover
    obtain ⟨event, hin, hreversed⟩ := List.mem_filterMap.1 hid
    have hreversal : event.kind = .reversal :=
      event.reference.2 (Option.isSome_iff_exists.2 ⟨id, hreversed⟩)
    obtain ⟨payment, hpay, hkind, htarget⟩ := htargets event hin hreversal
    rw [hreversed, Option.some.injEq] at htarget
    subst htarget
    unfold overReversed at hover
    rw [paymentAmount_eq hids hpay hkind] at hover
    dsimp only at hover
    exact le_iff_not_lt.1 (hwithin payment hpay hkind) (of_decide_eq_true hover)

/-! ## When the ledger can be read -/

/-- **When a ledger can be read.** In every state that accepted writes reach: exactly when the terms of
the facility can be scheduled and no payment is reversed for more than its amount. -/
theorem ledger_readable_iff {store : RepaymentStore} {as : List LedgerRequest}
    (hrun : run step emptyStore as = some store) {facility : Facility}
    (hfacility : facility ∈ store.facilities) (asOf : Date) :
    (∃ snapshot, readLedger store facility asOf = .ok snapshot) ↔
      TermsReadable facility ∧ WithinPayments (store.listEvents facility.id) := by
  have hinv : Inv store := run_invariant (fun h hstep => Inv.step h hstep) inv_empty hrun
  have hmonths := hinv.months facility hfacility
  have hown : ∀ event ∈ store.listEvents facility.id, event.facilityId = facility.id :=
    fun event hmem => (mem_listEvents.1 hmem).2
  have hids : ((store.listEvents facility.id).map (·.id)).Nodup := by
    have hperm := (List.perm_insertionSort RepaymentEvent.ordered
      (store.events.filter (·.facilityId = facility.id))).map (·.id)
    exact hperm.nodup_iff.2 (hinv.ids.sublist (List.filter_sublist.map _))
  have htargets : ∀ event ∈ store.listEvents facility.id, event.kind = .reversal →
      ∃ payment ∈ store.listEvents facility.id,
        payment.kind = .payment ∧ event.reversedEventId = some payment.id := by
    intro event hmem hreversal
    obtain ⟨hin, hof⟩ := mem_listEvents.1 hmem
    obtain ⟨payment, hpay, hkind, hsame, hid⟩ := hinv.targets event hin hreversal
    exact ⟨payment, mem_listEvents.2 ⟨hpay, hsame.trans hof⟩, hkind, hid⟩
  rw [← installments_exist_iff hmonths, ← orderEvents_exists_iff hown hids htargets]
  unfold readLedger applyEvents
  constructor
  · rintro ⟨_, h⟩
    obtain ⟨_, -, h⟩ := bind_eq_ok.1 h
    obtain ⟨installments, hbuild, h⟩ := bind_eq_ok.1 h
    obtain ⟨ordered, horder, -⟩ := bind_eq_ok.1 h
    exact ⟨⟨installments, hbuild⟩, ⟨ordered, horder⟩⟩
  · rintro ⟨⟨installments, hbuild⟩, ⟨ordered, horder⟩⟩
    obtain ⟨schedule, hsched⟩ : ∃ schedule, facility.buildExpectedSchedule = .ok schedule := by
      unfold Facility.buildExpectedInstallments at hbuild
      obtain ⟨schedule, hok, -⟩ := bind_eq_ok.1 hbuild
      exact ⟨schedule, hok⟩
    obtain ⟨⟨_, _⟩, hallocate⟩ := exists_allocate asOf (installments_lt hbuild)
      (sumMoney (ordered.map (·.signedAmount)))
    exact ⟨_, bind_eq_ok.2 ⟨schedule, hsched, bind_eq_ok.2 ⟨installments, hbuild,
      bind_eq_ok.2 ⟨ordered, horder, bind_eq_ok.2 ⟨_, hallocate, rfl⟩⟩⟩⟩⟩

/-! ## Concrete histories -/

section Histories

instance (events : List RepaymentEvent) : Decidable (WithinPayments events) :=
  inferInstanceAs (Decidable (∀ payment ∈ events, _))

/-- An approved case. -/
def approvedContext : CaseContext where
  caseId := 2
  version := 1
  decision := some ⟨3, .approvedAsProposed, "đủ điều kiện", [],
    ⟨some ⟨1000, 0⟩, some "VND", some "12 tháng", some 0⟩, "snapshot"⟩
  versionPositive := Nat.one_pos

/-- A loan of 1000.00 over one month without interest or fees. -/
def openLoan : LedgerRequest :=
  .createFacility approvedContext 1
    { principal := .finite ⟨100000, -2⟩
      annualRatePercent := .finite 0
      termMonths := 1
      repaymentStyle := "BALLOON"
      firstPaymentDate := (Date.ofParts 2026 1 31).get (by decide)
      periodicFee := none
      termInRange := by decide }

/-- The customer pays 100.00. -/
def payIn : LedgerRequest :=
  .recordEvent approvedContext 1 10 5
    { kind := "PAYMENT"
      amount := .finite ⟨10000, -2⟩
      externalReference := "pay-1"
      effectiveDate := (Date.ofParts 2026 1 15).get (by decide)
      reversedEventId := none
      referenceNonempty := by decide }

/-- The bank takes back 60.00 of it. -/
def takeBack (newId : Uuid) (recordedAt : Timestamp) (reference : String) (h : reference ≠ "") :
    LedgerRequest :=
  .recordEvent approvedContext 1 newId recordedAt
    { kind := "REVERSAL"
      amount := .finite ⟨6000, -2⟩
      externalReference := reference
      effectiveDate := (Date.ofParts 2026 1 16).get (by decide)
      reversedEventId := some 10
      referenceNonempty := h }

/-- One reversal of 60.00. -/
def reversedOnce : List LedgerRequest :=
  [openLoan, payIn, takeBack 11 6 "rev-1" (by decide)]

/-- Two reversals of 60.00 each. -/
def reversedTwice : List LedgerRequest :=
  reversedOnce ++ [takeBack 12 7 "rev-2" (by decide)]

/-- The loan as it is stored. -/
def storedLoan : Facility where
  id := 1
  caseId := 2
  caseVersion := 1
  decisionId := 3
  principal := ⟨100000, -2⟩
  annualRatePercent := 0
  termMonths := 1
  repaymentStyle := .balloon
  firstPaymentDate := (Date.ofParts 2026 1 31).get (by decide)
  periodicFee := 0
  versionPositive := Nat.one_pos
  principalPositive := by decide
  rateNonneg := Decimal.zero_le_zero
  termPositive := Nat.one_pos
  feeNonneg := Decimal.zero_le_zero

theorem storedLoan_termsReadable : TermsReadable storedLoan := by
  have hrate : (monthlyRate storedLoan.annualRatePercent).toRat = 0 := by
    have hzero : (monthlyRate storedLoan.annualRatePercent).coefficient = 0 := by decide +kernel
    rw [toRat, hzero, Int.cast_zero, zero_mul]
  have hlimit : (10000 : ℚ) < moneyLimit := by
    norm_num [moneyLimit, contextPrecision, cent, unit, moneyExponent]
  refine ⟨?_, ?_, ?_, by decide⟩
  · refine lt_trans ?_ hlimit
    norm_num [storedLoan, toRat]
  · rw [hrate, mul_zero]
    linarith
  · show (0 : Decimal).toRat < moneyLimit
    rw [toRat_zero]
    linarith

/-- The day the ledger is read. -/
def readingDay : Date :=
  (Date.ofParts 2026 2 1).get (by decide)

theorem reversedOnce_readable :
    ∃ store, run step emptyStore reversedOnce = some store ∧ storedLoan ∈ store.facilities ∧
      ∃ snapshot, readLedger store storedLoan readingDay = .ok snapshot := by
  have hruns : (run step emptyStore reversedOnce).any (fun store =>
      storedLoan ∈ store.facilities ∧ WithinPayments (store.listEvents storedLoan.id)) = true := by
    decide +kernel
  obtain ⟨store, hrun, hstore⟩ := (Option.any_eq_true _ _).1 hruns
  obtain ⟨hmem, hwithin⟩ := of_decide_eq_true hstore
  exact ⟨store, hrun, hmem,
    (ledger_readable_iff hrun hmem _).2 ⟨storedLoan_termsReadable, hwithin⟩⟩

/-- Two reversals of one payment are accepted and close the ledger. -/
theorem reversedTwice_unreadable :
    ∃ store, run step emptyStore reversedTwice = some store ∧ storedLoan ∈ store.facilities ∧
      ¬ ∃ snapshot, readLedger store storedLoan readingDay = .ok snapshot := by
  have hruns : (run step emptyStore reversedTwice).any (fun store =>
      storedLoan ∈ store.facilities ∧ (readLedger store storedLoan readingDay).isOk = false) =
        true := by
    decide +kernel
  obtain ⟨store, hrun, hstore⟩ := (Option.any_eq_true _ _).1 hruns
  obtain ⟨hmem, hfails⟩ := of_decide_eq_true hstore
  refine ⟨store, hrun, hmem, ?_⟩
  rintro ⟨_, hok⟩
  rw [hok] at hfails
  cases hfails

end Histories

end CreditOps.Repayments
