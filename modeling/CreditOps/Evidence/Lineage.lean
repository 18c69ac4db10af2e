import CreditOps.Evidence.Confirmations

/-!
# The lineage of confirmed facts

Whatever batches run beside each other, no candidate has two confirmations, a confirmation with a value has
one fact, with the value and the edges of its candidate, and the others have none. The unique constraints
give the first (`Exclusive`); the rest holds because a batch commits only when each of its confirmations is
settled (`BatchSound`), and what is settled stays so (`SettledBut.mono`). A batch that has not committed has
no row (`lineage_of_run`).
-/

set_option autoImplicit false

namespace CreditOps.Evidence

open KeyedInserts Transition
open EvidenceBase (FactDisposition.expectedValue)

variable {ι : Type}

/-! ## Settled confirmations -/

/-- The rows have the confirmation. -/
def HasConfirmation (rows : List (BatchRow ι)) (confirmation : FactConfirmation) : Prop :=
  ∃ id, (id, LineageRow.confirmation confirmation) ∈ rows

/-- The rows have the fact. -/
def HasFact (rows : List (BatchRow ι)) (fact : ConfirmedFact) : Prop :=
  ∃ id, (id, LineageRow.fact fact) ∈ rows

/-- The rows have the edge. -/
def HasEdge (rows : List (BatchRow ι)) (edge : EvidenceEdge) : Prop :=
  ∃ id edgeId, (id, LineageRow.edge edgeId edge) ∈ rows

/-- The fact is the one its candidate and its confirmation make. -/
structure DerivedFrom (candidates : List CandidateFact) (confirmation : FactConfirmation)
    (fact : ConfirmedFact) : Prop where
  confirmationId : fact.confirmationId = confirmation.id
  candidateFactId : fact.candidateFactId = confirmation.candidateFactId
  candidate : ∃ candidate ∈ candidates, candidate.id = confirmation.candidateFactId ∧
    FactDisposition.expectedValue candidate confirmation.disposition = some fact.value ∧
    fact.pageRegionId = candidate.pageRegionId ∧ fact.documentVersionId = candidate.documentVersionId

/-- The disposition gives the candidate a value. -/
def FactDisposition.HasValue : FactDisposition → Prop
  | .accepted | .corrected _ => True
  | .absent | .unreadable => False

/-- A confirmation with a value has its fact, and the edges of the fact but for some. -/
def SettledBut (candidates : List CandidateFact) (rows : List (BatchRow ι)) (edges : List EvidenceEdge)
    (confirmation : FactConfirmation) : Prop :=
  confirmation.disposition.HasValue → ∃ fact, HasFact rows fact ∧
    DerivedFrom candidates confirmation fact ∧
    ∀ edge ∈ LineageWorld.evidenceEdges confirmation.caseVersion fact, HasEdge rows edge ∨ edge ∈ edges

/-- Every fact comes from a confirmation among the rows. -/
def Grounded (candidates : List CandidateFact) (rows : List (BatchRow ι)) : Prop :=
  ∀ fact, HasFact rows fact → ∃ confirmation, HasConfirmation rows confirmation ∧
    DerivedFrom candidates confirmation fact

section Mono

variable {candidates candidates' : List CandidateFact} {rows rows' : List (BatchRow ι)}
  {edges : List EvidenceEdge} {confirmation : FactConfirmation} {fact : ConfirmedFact}

theorem DerivedFrom.mono (h : DerivedFrom candidates confirmation fact)
    (hcands : candidates ⊆ candidates') : DerivedFrom candidates' confirmation fact := by
  obtain ⟨candidate, hmem, hrest⟩ := h.candidate
  exact ⟨h.confirmationId, h.candidateFactId, candidate, hcands hmem, hrest⟩

/-- **What is settled stays settled.** -/
theorem SettledBut.mono (h : SettledBut candidates rows edges confirmation)
    (hcands : candidates ⊆ candidates') (hrows : rows ⊆ rows') :
    SettledBut candidates' rows' edges confirmation := by
  intro hvalue
  obtain ⟨fact, ⟨id, hfact⟩, hderived, hedges⟩ := h hvalue
  refine ⟨fact, ⟨id, hrows hfact⟩, hderived.mono hcands, ?_⟩
  intro edge hedge
  rcases hedges edge hedge with ⟨id, edgeId, hmem⟩ | hleft
  · exact .inl ⟨id, edgeId, hrows hmem⟩
  · exact .inr hleft

theorem Grounded.mono (h : Grounded candidates rows) (hcands : candidates ⊆ candidates') :
    Grounded candidates' rows := by
  intro fact hfact
  obtain ⟨confirmation, hconf, hderived⟩ := h fact hfact
  exact ⟨confirmation, hconf, hderived.mono hcands⟩

theorem Grounded.append (h : Grounded candidates rows) (h' : Grounded candidates rows') :
    Grounded candidates (rows ++ rows') := by
  rintro fact ⟨id, hfact⟩
  rcases List.mem_append.1 hfact with hleft | hright
  · obtain ⟨confirmation, ⟨id, hmem⟩, hderived⟩ := h fact ⟨id, hleft⟩
    exact ⟨confirmation, ⟨id, List.mem_append_left _ hmem⟩, hderived⟩
  · obtain ⟨confirmation, ⟨id, hmem⟩, hderived⟩ := h' fact ⟨id, hright⟩
    exact ⟨confirmation, ⟨id, List.mem_append_right _ hmem⟩, hderived⟩

end Mono

/-! ## Sound batches -/

/-- The confirmations a batch has inserted, but for the one it works on, are settled. -/
def SettledExcept (candidates : List CandidateFact) (view staged : List (BatchRow ι))
    (current : Option FactConfirmation) : Prop :=
  ∀ confirmation, HasConfirmation staged confirmation → some confirmation ≠ current →
    SettledBut candidates view [] confirmation

/-- What a batch has inserted and left at a stage. -/
def StageSound (candidates : List CandidateFact) (view staged : List (BatchRow ι)) : BatchStage → Prop
  | .begin | .done _ | .failed => staged = []
  | .confirming _ _ _ => SettledExcept candidates view staged none
  | .confirmed caseVersion _ row _ _ =>
    SettledExcept candidates view staged (some row) ∧ HasConfirmation staged row ∧
      row.caseVersion = caseVersion ∧ ∀ fact, HasFact staged fact → fact.confirmationId ≠ row.id
  | .linking caseVersion _ edges row _ _ =>
    SettledExcept candidates view staged (some row) ∧ row.caseVersion = caseVersion ∧
      SettledBut candidates view edges row

/-- The batch has not committed. -/
def Uncommitted : Option (ConfirmationBatch × BatchStage) → Prop
  | some (_, .done _) => False
  | _ => True

/-- What holds of a batch, or of an id without one: it inserts rows under its id, each fact with its
confirmation, and has no committed row before it is done. -/
structure BatchSound (candidates : List CandidateFact) (session : Session LineageKey ι (BatchRow ι))
    (id : ι) (progress : Option (ConfirmationBatch × BatchStage)) : Prop where
  own : ∀ row ∈ session.staged id, row.1 = id
  grounded : Grounded candidates (session.staged id)
  stage : match progress with
    | none => session.staged id = []
    | some (_, stage) => StageSound candidates (session.view id) (session.staged id) stage
  absent : Uncommitted progress → ∀ row ∈ session.rows, row.1 ≠ id

/-- The world is sound. -/
structure LineageWorld.Sound (w : LineageWorld ι) : Prop where
  exclusive : Exclusive batchKeys w.session
  candidates : (w.candidates.map CandidateFact.id).Nodup
  settled : ∀ confirmation, HasConfirmation w.session.rows confirmation →
    SettledBut w.candidates w.session.rows [] confirmation
  grounded : Grounded w.candidates w.session.rows
  batches : ∀ id, BatchSound w.candidates w.session id (w.batches id)

/-! ## One more row -/

section Cons

variable {candidates : List CandidateFact} {rows : List (BatchRow ι)} {row : BatchRow ι}
  {confirmation : FactConfirmation} {fact : ConfirmedFact} {edge : EvidenceEdge}

@[simp] theorem hasConfirmation_cons : HasConfirmation (row :: rows) confirmation ↔
    row.2 = .confirmation confirmation ∨ HasConfirmation rows confirmation := by
  constructor
  · rintro ⟨id, hmem⟩
    rcases List.mem_cons.1 hmem with rfl | hold
    · exact .inl rfl
    · exact .inr ⟨id, hold⟩
  · rintro (hrow | ⟨id, hmem⟩)
    · exact ⟨row.1, List.mem_cons.2 (.inl (Prod.ext rfl hrow.symm))⟩
    · exact ⟨id, List.mem_cons_of_mem _ hmem⟩

@[simp] theorem hasFact_cons : HasFact (row :: rows) fact ↔ row.2 = .fact fact ∨ HasFact rows fact := by
  constructor
  · rintro ⟨id, hmem⟩
    rcases List.mem_cons.1 hmem with rfl | hold
    · exact .inl rfl
    · exact .inr ⟨id, hold⟩
  · rintro (hrow | ⟨id, hmem⟩)
    · exact ⟨row.1, List.mem_cons.2 (.inl (Prod.ext rfl hrow.symm))⟩
    · exact ⟨id, List.mem_cons_of_mem _ hmem⟩

theorem Grounded.cons (h : Grounded candidates rows) (hrow : ∀ fact, row.2 ≠ .fact fact) :
    Grounded candidates (row :: rows) := by
  intro fact hfact
  rcases hasFact_cons.1 hfact with hnew | hold
  · exact absurd hnew (hrow fact)
  obtain ⟨confirmation, hconf, hderived⟩ := h fact hold
  exact ⟨confirmation, hasConfirmation_cons.2 (.inr hconf), hderived⟩

theorem Grounded.cons_fact (h : Grounded candidates rows) {id : ι}
    (hconf : HasConfirmation rows confirmation)
    (hderived : DerivedFrom candidates confirmation fact) :
    Grounded candidates ((id, .fact fact) :: rows) := by
  intro other hother
  rcases hasFact_cons.1 hother with hnew | hold
  · cases hnew
    exact ⟨confirmation, hasConfirmation_cons.2 (.inr hconf), hderived⟩
  · obtain ⟨confirmation', hconf', hderived'⟩ := h other hold
    exact ⟨confirmation', hasConfirmation_cons.2 (.inr hconf'), hderived'⟩

theorem hasEdge_of_taken (h : Taken batchKeys rows (.typedEdge edge)) : HasEdge rows edge := by
  obtain ⟨⟨id, row⟩, _, hkey⟩ := h
  cases row with
  | edge edgeId other =>
    have hsame : edge = other := by simpa [batchKeys, LineageRow.keys] using hkey
    exact ⟨id, edgeId, by rwa [hsame]⟩
  | confirmation | fact | audit => simp [batchKeys, LineageRow.keys] at hkey

theorem hasFact_of_taken {confirmationId : Uuid} (h : Taken batchKeys rows (.factOf confirmationId)) :
    ∃ fact, HasFact rows fact ∧ fact.confirmationId = confirmationId := by
  obtain ⟨⟨id, row⟩, hmem, hkey⟩ := h
  cases row with
  | fact row =>
    have hsame : confirmationId = row.confirmationId := by simpa [batchKeys, LineageRow.keys] using hkey
    exact ⟨row, ⟨id, hmem⟩, hsame.symm⟩
  | confirmation | edge | audit => simp [batchKeys, LineageRow.keys] at hkey

end Cons

section Frame

variable {candidates candidates' : List CandidateFact} {s t : Session LineageKey ι (BatchRow ι)} {id : ι}
  {progress : Option (ConfirmationBatch × BatchStage)} {view view' staged : List (BatchRow ι)}
  {stage : BatchStage}

theorem StageSound.mono (h : StageSound candidates view staged stage)
    (hcands : candidates ⊆ candidates') (hview : view ⊆ view') :
    StageSound candidates' view' staged stage := by
  have hexcept : ∀ {current}, SettledExcept candidates view staged current →
      SettledExcept candidates' view' staged current :=
    fun hall confirmation hmem hne => (hall confirmation hmem hne).mono hcands hview
  cases stage with
  | begin | done | failed => exact h
  | confirming => exact hexcept h
  | confirmed => exact ⟨hexcept h.1, h.2⟩
  | linking =>
    exact ⟨hexcept h.1, h.2.1, h.2.2.mono hcands hview⟩

/-- **What other batches do leaves a batch sound.** -/
theorem BatchSound.frame (h : BatchSound candidates s id progress) (hcands : candidates ⊆ candidates')
    (hstaged : t.staged id = s.staged id) (hrows : s.rows ⊆ t.rows)
    (hnew : ∀ row ∈ t.rows, row ∈ s.rows ∨ row.1 ≠ id) : BatchSound candidates' t id progress where
  own := by rw [hstaged]; exact h.own
  grounded := by rw [hstaged]; exact h.grounded.mono hcands
  stage := by
    have hview : s.view id ⊆ t.view id := by
      rw [Session.view, Session.view, hstaged]
      exact List.append_subset.2 ⟨List.subset_append_left _ _,
        List.Subset.trans hrows (List.subset_append_right _ _)⟩
    have hstage := h.stage
    cases progress with
    | none => exact hstaged.trans hstage
    | some =>
      rw [hstaged]
      exact StageSound.mono hstage hcands hview
  absent huncommitted row hrow := by
    rcases hnew row hrow with hold | hne
    · exact h.absent huncommitted row hold
    · exact hne

end Frame

/-! ## What a batch does -/

section Moves

variable [DecidableEq ι] {w w' : LineageWorld ι} {id : ι} {batch : ConfirmationBatch} {stage : BatchStage}
  {progress : BatchStage} {session : Session LineageKey ι (BatchRow ι)} {row : LineageRow}

/-- A move of one batch that commits nothing. -/
theorem LineageWorld.Sound.move (h : w.Sound) (hexclusive : Exclusive batchKeys session)
    (hrows : session.rows = w.session.rows)
    (hothers : ∀ other, other ≠ id → session.staged other = w.session.staged other)
    (hbatch : BatchSound w.candidates session id (some (batch, stage))) :
    ({ w.put id batch stage with session } : LineageWorld ι).Sound where
  exclusive := hexclusive
  candidates := h.candidates
  settled := by
    intro confirmation hconf
    change HasConfirmation session.rows confirmation at hconf
    change SettledBut w.candidates session.rows [] confirmation
    rw [hrows] at hconf ⊢
    exact h.settled confirmation hconf
  grounded := by
    change Grounded w.candidates session.rows
    rw [hrows]
    exact h.grounded
  batches other := by
    change BatchSound w.candidates session other (Function.update w.batches id (some (batch, stage)) other)
    by_cases hother : other = id
    · rw [hother, Function.update_self]
      exact hbatch
    · rw [Function.update_of_ne hother]
      refine (h.batches other).frame (List.Subset.refl _) (hothers other hother) ?_ ?_
      · rw [hrows]
        exact List.Subset.refl _
      · rw [hrows]
        exact fun _ hrow => .inl hrow

theorem LineageWorld.Sound.put (h : w.Sound)
    (hbatch : BatchSound w.candidates w.session id (some (batch, stage))) :
    (w.put id batch stage).Sound :=
  h.move h.exclusive rfl (fun _ _ => rfl) hbatch

/-- **A batch that raises leaves nothing.** -/
theorem LineageWorld.Sound.abort (h : w.Sound) (hbatch : w.batches id = some (batch, progress))
    (huncommitted : ∀ recorded, progress ≠ .done recorded) : (w.abort id batch).Sound := by
  apply h.move (h.exclusive.rollback id) rfl
  · intro other hother
    exact Session.rollback_staged_of_ne hother
  · have hnone : (w.session.rollback id).staged id = [] := Session.rollback_staged_self
    have habsent := (h.batches id).absent
    rw [hbatch] at habsent
    refine ⟨?_, ?_, hnone, ?_⟩
    · rw [hnone]
      exact fun _ hrow => absurd hrow List.not_mem_nil
    · rw [hnone]
      rintro _ ⟨_, hmem⟩
      cases hmem
    · intro _
      apply habsent
      cases progress with
      | done recorded => exact absurd rfl (huncommitted recorded)
      | _ => trivial

/-- **A row a batch inserts.** -/
theorem LineageWorld.Sound.inserted (h : w.Sound) (hbatch : w.batches id = some (batch, progress))
    (huncommitted : ∀ recorded, progress ≠ .done recorded)
    (hins : w.session.insert batchKeys id (id, row) = .inserted session)
    (hgrounded : Grounded w.candidates ((id, row) :: w.session.staged id))
    (hstage : StageSound w.candidates ((id, row) :: w.session.view id)
      ((id, row) :: w.session.staged id) stage) :
    ({ w.put id batch stage with session } : LineageWorld ι).Sound := by
  have hstaged := Session.insert_staged_self hins
  have hrows := Session.insert_rows hins
  apply h.move (h.exclusive.insert hins) hrows
  · intro other hother
    exact Session.insert_staged_of_ne hins hother
  · have hsound := h.batches id
    rw [hbatch] at hsound
    refine ⟨?_, ?_, ?_, ?_⟩
    · rw [hstaged]
      intro written hmem
      rcases List.mem_cons.1 hmem with rfl | hold
      · rfl
      · exact hsound.own written hold
    · rw [hstaged]
      exact hgrounded
    · change StageSound w.candidates (session.view id) (session.staged id) stage
      rw [Session.view, hstaged, hrows]
      exact hstage
    · intro _ written hmem
      rw [hrows] at hmem
      apply hsound.absent _ written hmem
      cases progress with
      | done recorded => exact absurd rfl (huncommitted recorded)
      | _ => trivial

theorem insertNew_inserted (h : LineageWorld.insertNew w.session id row = .inserted session) :
    w.session.insert batchKeys id (id, row) = .inserted session := by
  rw [LineageWorld.insertNew] at h
  split at h
  · cases h
  · split at h <;> cases h
  · rename_i hins
    cases h
    exact hins

theorem insertNew_exists (h : LineageWorld.insertNew w.session id row = .exists) :
    ∃ key, row.target = some key ∧ Taken batchKeys (w.session.view id) key := by
  rw [LineageWorld.insertNew] at h
  split at h
  · cases h
  · split at h
    · rename_i htaken
      obtain ⟨key, htarget, hkey⟩ := (Option.any_eq_true _ _).1 htaken
      exact ⟨key, htarget, of_decide_eq_true hkey⟩
    · cases h
  · cases h

omit [DecidableEq ι] in
theorem LineageWorld.Sound.stageSound (h : w.Sound) (hbatch : w.batches id = some (batch, progress)) :
    StageSound w.candidates (w.session.view id) (w.session.staged id) progress := by
  have hstage := (h.batches id).stage
  rw [hbatch] at hstage
  exact hstage

theorem LineageWorld.Sound.goOn (h : w.Sound) (hbatch : w.batches id = some (batch, progress))
    (huncommitted : ∀ recorded, progress ≠ .done recorded)
    (hstage : StageSound w.candidates (w.session.view id) (w.session.staged id) stage) :
    (w.put id batch stage).Sound := by
  have hsound := h.batches id
  rw [hbatch] at hsound
  refine h.put ⟨hsound.own, hsound.grounded, hstage, ?_⟩
  intro _
  apply hsound.absent
  cases progress with
  | done recorded => exact absurd rfl (huncommitted recorded)
  | _ => trivial

omit [DecidableEq ι] in
theorem SettledExcept.cons {candidates : List CandidateFact} {view staged : List (BatchRow ι)}
    {current : Option FactConfirmation} (h : SettledExcept candidates view staged current)
    {written : BatchRow ι} (hwritten : ∀ confirmation, written.2 = .confirmation confirmation →
      some confirmation = current) :
    SettledExcept candidates (written :: view) (written :: staged) current := by
  intro confirmation hconf hne
  rcases hasConfirmation_cons.1 hconf with hnew | hold
  · exact absurd (hwritten confirmation hnew) hne
  · exact (h confirmation hold hne).mono (List.Subset.refl _) (List.subset_cons_self _ _)

variable {candidates : List CandidateFact}

omit [DecidableEq ι] in
theorem SettledExcept.weaken {view staged : List (BatchRow ι)}
    (h : SettledExcept candidates view staged none) (current : Option FactConfirmation) :
    SettledExcept candidates view staged current :=
  fun confirmation hconf _ => h confirmation hconf (by simp)

theorem LineageWorld.Sound.lockDocument (h : w.Sound) (hbatch : w.batches id = some (batch, .begin))
    (hstep : w.lockDocument id batch = some w') : w'.Sound := by
  have hbegun : ∀ recorded, BatchStage.begin ≠ .done recorded := fun _ => by rintro ⟨⟩
  have hnone : w.session.staged id = [] := h.stageSound hbatch
  obtain ⟨_, hlock, rfl⟩ := Option.map_eq_some_iff.1 hstep
  split
  · exact h.abort hbatch hbegun
  · split
    · exact h.abort hbatch hbegun
    · obtain ⟨-, hsession⟩ := Session.lock_eq_some hlock
      have hrows := congrArg Session.rows hsession
      have hstaged := congrArg Session.staged hsession
      apply h.move (h.exclusive.lock hlock) hrows
      · exact fun other _ => congrFun hstaged other
      · have hsound := h.batches id
        rw [hbatch] at hsound
        refine ⟨?_, ?_, ?_, ?_⟩
        · rw [hstaged]
          exact hsound.own
        · rw [hstaged]
          exact hsound.grounded
        · rintro _ ⟨_, hmem⟩
          rw [hstaged] at hmem
          change _ ∈ w.session.staged id at hmem
          rw [hnone] at hmem
          cases hmem
        · intro _
          rw [hrows]
          exact hsound.absent trivial

variable {input : DispositionInput}

/-- A requested disposition derives a fact exactly when it gives a value. -/
theorem hasValue_iff {disposition : FactDisposition} (h : input.toDisposition = some disposition) :
    disposition.HasValue ↔ input.disposition.derivesConfirmedFact = true := by
  rw [DispositionInput.toDisposition] at h
  cases hrequested : input.disposition with
  | accepted =>
    rw [hrequested] at h
    cases h
    exact iff_of_true trivial rfl
  | corrected =>
    rw [hrequested] at h
    obtain ⟨_, -, rfl⟩ := Option.map_eq_some_iff.1 h
    exact iff_of_true trivial rfl
  | absent | unreadable =>
    rw [hrequested] at h
    cases h
    exact iff_of_false id (by decide)

variable {newId : Uuid} {caseVersion : CaseVersion} {recorded : RecordedConfirmations}
  {pending : List DispositionInput}

theorem LineageWorld.Sound.recordOne (h : w.Sound)
    (hbatch : w.batches id = some (batch, .confirming caseVersion recorded (input :: pending)))
    (hstep : w.recordOne id newId batch caseVersion recorded input pending = some w') : w'.Sound := by
  have hconfirming : ∀ other, BatchStage.confirming caseVersion recorded (input :: pending) ≠ .done other :=
    fun _ => by rintro ⟨⟩
  have hsettled : SettledExcept w.candidates (w.session.view id) (w.session.staged id) none :=
    h.stageSound hbatch
  rw [LineageWorld.recordOne] at hstep
  split at hstep
  · cases hstep
    exact h.abort hbatch hconfirming
  · rename_i disposition hdisp
    split at hstep
    · cases hstep
      exact h.abort hbatch hconfirming
    · simp only at hstep
      split at hstep
      · cases hstep
      · cases hstep
        exact h.abort hbatch hconfirming
      · split at hstep
        · cases hstep
          exact h.abort hbatch hconfirming
        · cases hstep
          exact h.goOn hbatch hconfirming hsettled
      · rename_i session hinserted
        have hins := insertNew_inserted hinserted
        have hsound := h.batches id
        have hgrounded : Grounded w.candidates ((id, .confirmation
            ⟨newId, caseVersion, input.candidateId, disposition, batch.actorId⟩) ::
              w.session.staged id) := hsound.grounded.cons (by rintro fact ⟨⟩)
        split at hstep
        · split at hstep
          · cases hstep
            apply h.inserted hbatch hconfirming hins hgrounded
            refine ⟨(hsettled.weaken _).cons (by rintro confirmation ⟨⟩; rfl),
              hasConfirmation_cons.2 (.inl rfl), rfl, ?_⟩
            -- a fact of the batch comes from an earlier confirmation, which has another id
            intro fact hfact heq
            rcases hasFact_cons.1 hfact with hnew | hold
            · cases hnew
            obtain ⟨_, ⟨_, hmem⟩, hderived⟩ := hsound.grounded fact hold
            refine (Session.insert_eq_inserted hins).1 (.confirmation newId) (by
              simp [batchKeys, LineageRow.keys]) ⟨_, List.mem_append_left _ hmem, ?_⟩
            simp [batchKeys, LineageRow.keys, ← hderived.confirmationId, heq]
          · rename_i hderives
            cases hstep
            apply h.inserted hbatch hconfirming hins hgrounded
            refine ⟨(hsettled.weaken _).cons (by rintro confirmation ⟨⟩; rfl), rfl, ?_⟩
            intro hvalue
            exact absurd ((hasValue_iff hdisp).1 hvalue) hderives
        · cases hstep
          exact h.abort hbatch hconfirming

variable {confirmation : FactConfirmation} {now : Timestamp}

theorem derivedFrom {fact : ConfirmedFact}
    (h : LineageWorld.deriveConfirmedFact candidates confirmation newId now = some fact) :
    DerivedFrom candidates confirmation fact := by
  obtain ⟨candidate, hcand, hrest⟩ := Option.bind_eq_some_iff.1 h
  obtain ⟨_, hvalue, hfact⟩ := Option.bind_eq_some_iff.1 hrest
  have hid : candidate.id = confirmation.candidateFactId := by simpa using List.find?_some hcand
  split at hfact
  · cases hfact
  cases hfact
  exact ⟨rfl, hid, candidate, List.mem_of_find?_eq_some hcand, hid, hvalue, rfl, rfl⟩

theorem LineageWorld.Sound.derive (h : w.Sound)
    (hbatch : w.batches id = some (batch, .confirmed caseVersion recorded confirmation input pending))
    (hstep : w.derive id newId now batch caseVersion recorded confirmation input pending = some w') :
    w'.Sound := by
  have hconfirmed : ∀ other,
      BatchStage.confirmed caseVersion recorded confirmation input pending ≠ .done other :=
    fun _ => by rintro ⟨⟩
  obtain ⟨hsettled, hcur, hver, hfresh⟩ := h.stageSound hbatch
  have hsound := h.batches id
  rw [LineageWorld.derive] at hstep
  split at hstep
  · cases hstep
    exact h.abort hbatch hconfirmed
  · rename_i fact hfact
    have hderived := derivedFrom hfact
    split at hstep
    · cases hstep
    · cases hstep
      exact h.abort hbatch hconfirmed
    · rename_i hexists
      cases hstep
      apply h.goOn hbatch hconfirmed
      refine ⟨hsettled, hver, ?_⟩
      -- nobody can have derived the fact: the confirmation is the batch's own, and not committed
      obtain ⟨_, htarget, htaken⟩ := insertNew_exists hexists
      cases htarget
      obtain ⟨other, ⟨writer, hmem⟩, hother⟩ := hasFact_of_taken htaken
      rw [hderived.confirmationId] at hother
      rcases List.mem_append.1 hmem with hstaged | hcommitted
      · exact absurd hother (hfresh other ⟨writer, hstaged⟩)
      obtain ⟨source, ⟨writer', hsource⟩, hderived'⟩ := h.grounded other ⟨writer, hcommitted⟩
      obtain ⟨writer'', hown⟩ := hcur
      have hview := List.pairwise_append.1 (h.exclusive.view id)
      have hkey : LineageKey.confirmation confirmation.id ∈ batchKeys (writer', .confirmation source) := by
        simp [batchKeys, LineageRow.keys, ← hderived'.confirmationId, hother]
      have hkey' : LineageKey.confirmation confirmation.id ∈
          batchKeys (writer'', .confirmation confirmation) := by
        simp [batchKeys, LineageRow.keys]
      exact absurd hkey (hview.2.2 _ hown _ hsource hkey')
    · rename_i session hinserted
      cases hstep
      apply h.inserted hbatch hconfirmed (insertNew_inserted hinserted)
        (hsound.grounded.cons_fact hcur hderived)
      refine ⟨hsettled.cons (by rintro confirmation ⟨⟩), hver, ?_⟩
      intro _
      refine ⟨fact, hasFact_cons.2 (.inl rfl), hderived, ?_⟩
      intro edge hedge
      rw [hver] at hedge
      exact .inr hedge

theorem LineageWorld.Sound.link (h : w.Sound) {edges : List EvidenceEdge}
    (hbatch : w.batches id = some (batch, .linking caseVersion recorded edges confirmation input pending))
    (hstep : w.link id newId batch caseVersion recorded confirmation input pending edges = some w') :
    w'.Sound := by
  have hlinking : ∀ other,
      BatchStage.linking caseVersion recorded edges confirmation input pending ≠ .done other :=
    fun _ => by rintro ⟨⟩
  obtain ⟨hsettled, hver, hbut⟩ := h.stageSound hbatch
  have hsound := h.batches id
  cases edges with
  | cons edge edges =>
    -- the edge is in the view now, whoever has inserted it
    have hlinked : ∀ {view}, w.session.view id ⊆ view → HasEdge view edge →
        SettledBut w.candidates view edges confirmation := by
      intro view hsub hedge hvalue
      obtain ⟨fact, ⟨writer, hmem⟩, hderived, hedges⟩ := hbut hvalue
      refine ⟨fact, ⟨writer, hsub hmem⟩, hderived, ?_⟩
      intro other hother
      rcases hedges other hother with ⟨writer', edgeId, hhas⟩ | hleft
      · exact .inl ⟨writer', edgeId, hsub hhas⟩
      · rcases List.mem_cons.1 hleft with rfl | hrest
        · exact .inl hedge
        · exact .inr hrest
    rw [LineageWorld.link] at hstep
    split at hstep
    · cases hstep
    · cases hstep
      exact h.abort hbatch hlinking
    · rename_i hexists
      cases hstep
      obtain ⟨_, htarget, htaken⟩ := insertNew_exists hexists
      cases htarget
      exact h.goOn hbatch hlinking
        ⟨hsettled, hver, hlinked (List.Subset.refl _) (hasEdge_of_taken htaken)⟩
    · rename_i session hinserted
      cases hstep
      apply h.inserted hbatch hlinking (insertNew_inserted hinserted)
        (hsound.grounded.cons (by rintro fact ⟨⟩))
      exact ⟨hsettled.cons (by rintro confirmation ⟨⟩), hver,
        hlinked (List.subset_cons_self _ _) ⟨id, newId, List.mem_cons_self⟩⟩
  | nil =>
    rw [LineageWorld.link] at hstep
    split at hstep
    · cases hstep
    · cases hstep
      exact h.abort hbatch hlinking
    · cases hstep
      exact h.abort hbatch hlinking
    · rename_i session hinserted
      cases hstep
      apply h.inserted hbatch hlinking (insertNew_inserted hinserted)
        (hsound.grounded.cons (by rintro fact ⟨⟩))
      intro other hother _
      rcases hasConfirmation_cons.1 hother with hnew | hold
      · cases hnew
      by_cases hcur : some other = some confirmation
      · cases hcur
        exact hbut.mono (List.Subset.refl _) (List.subset_cons_self _ _)
      · exact (hsettled other hold hcur).mono (List.Subset.refl _) (List.subset_cons_self _ _)

/-- **A batch commits its confirmations settled.** -/
theorem LineageWorld.Sound.commit (h : w.Sound)
    (hbatch : w.batches id = some (batch, .confirming caseVersion recorded [])) :
    ({ w.put id batch (.done recorded) with session := w.session.commit id } : LineageWorld ι).Sound where
  exclusive := h.exclusive.commit id
  candidates := h.candidates
  settled := by
    rintro confirmation ⟨writer, hmem⟩
    change SettledBut w.candidates (w.session.staged id ++ w.session.rows) [] confirmation
    rcases List.mem_append.1 hmem with hstaged | hcommitted
    · exact h.stageSound hbatch confirmation ⟨writer, hstaged⟩ (by simp)
    · exact (h.settled confirmation ⟨writer, hcommitted⟩).mono (List.Subset.refl _)
        (List.subset_append_right _ _)
  grounded := (h.batches id).grounded.append h.grounded
  batches other := by
    change BatchSound w.candidates (w.session.commit id) other
      (Function.update w.batches id (some (batch, .done recorded)) other)
    by_cases hother : other = id
    · subst hother
      rw [Function.update_self]
      have hnone : (w.session.commit other).staged other = [] := Session.commit_staged_self
      refine ⟨?_, ?_, hnone, fun habsurd => habsurd.elim⟩
      · rw [hnone]
        exact fun _ hrow => absurd hrow List.not_mem_nil
      · rw [hnone]
        rintro _ ⟨_, hmem⟩
        cases hmem
    · rw [Function.update_of_ne hother]
      refine (h.batches other).frame (List.Subset.refl _) (Session.commit_staged_of_ne hother)
        (List.subset_append_right _ _) ?_
      intro written hmem
      rcases List.mem_append.1 hmem with hstaged | hcommitted
      · right
        rw [(h.batches id).own written hstaged]
        exact fun heq => hother heq.symm
      · exact .inl hcommitted

theorem LineageWorld.Sound.statement (h : w.Sound) (hstep : w.statement id newId now = some w') :
    w'.Sound := by
  rw [LineageWorld.statement] at hstep
  split at hstep
  · rename_i batch hbatch
    exact h.lockDocument hbatch hstep
  · rename_i batch caseVersion recorded hbatch
    cases hstep
    exact h.commit hbatch
  · rename_i batch caseVersion recorded input pending hbatch
    exact h.recordOne hbatch hstep
  · rename_i batch caseVersion recorded row input pending hbatch
    exact h.derive hbatch hstep
  · rename_i batch caseVersion recorded edges row input pending hbatch
    exact h.link hbatch hstep
  · cases hstep
  · cases hstep
  · cases hstep

/-- **Every step keeps the world sound.** -/
theorem LineageWorld.Sound.step {action : LineageWorld.Action ι} (h : w.Sound)
    (hstep : w.step action = some w') : w'.Sound := by
  cases action with
  | request id batch =>
    rw [LineageWorld.step] at hstep
    split at hstep
    · rename_i hnone
      cases hstep
      have hsound := h.batches id
      rw [hnone] at hsound
      exact h.put ⟨hsound.own, hsound.grounded, hsound.stage, fun _ => hsound.absent trivial⟩
    · cases hstep
  | statement => exact h.statement hstep
  | crash id =>
    rw [LineageWorld.step] at hstep
    split at hstep
    · cases hstep
    · cases hstep
    · cases hstep
    rename_i batch progress hdone _ hbatch
    cases hstep
    exact h.abort hbatch fun recorded heq => hdone recorded heq
  | putDocument =>
    obtain ⟨-, heq⟩ := Option.ite_none_right_eq_some.1 hstep
    cases heq
    exact ⟨h.exclusive, h.candidates, h.settled, h.grounded, h.batches⟩
  | addCandidate candidate =>
    rw [LineageWorld.step] at hstep
    split at hstep
    · cases hstep
    rename_i hfresh
    cases hstep
    have hmore : w.candidates ⊆ candidate :: w.candidates := List.subset_cons_self _ _
    refine ⟨h.exclusive, ?_, ?_, h.grounded.mono hmore, ?_⟩
    · rw [List.map_cons, List.nodup_cons]
      refine ⟨?_, h.candidates⟩
      intro hmem
      obtain ⟨other, hother, hid⟩ := List.mem_map.1 hmem
      exact hfresh (List.any_eq_true.2 ⟨other, hother, decide_eq_true hid⟩)
    · exact fun confirmation hconf =>
        (h.settled confirmation hconf).mono hmore (List.Subset.refl _)
    · exact fun id => (h.batches id).frame hmore rfl (List.Subset.refl _) fun _ hrow => .inl hrow
  | assign =>
    cases hstep
    exact ⟨h.exclusive, h.candidates, h.settled, h.grounded, h.batches⟩

omit [DecidableEq ι] in
theorem sound_empty : (LineageWorld.empty : LineageWorld ι).Sound where
  exclusive := exclusive_empty
  candidates := List.nodup_nil
  settled confirmation hconf := by
    obtain ⟨_, hmem⟩ := hconf
    cases hmem
  grounded fact hfact := by
    obtain ⟨_, hmem⟩ := hfact
    cases hmem
  batches id := by
    refine ⟨fun _ hrow => absurd hrow List.not_mem_nil, ?_, rfl,
      fun _ _ hrow => absurd hrow List.not_mem_nil⟩
    rintro _ ⟨_, hmem⟩
    cases hmem

theorem sound_of_run {actions : List (LineageWorld.Action ι)}
    (hrun : run LineageWorld.step LineageWorld.empty actions = some w) : w.Sound :=
  run_invariant LineageWorld.Sound.step sound_empty hrun

end Moves

/-! ## Runs -/

/-- The confirmations among the rows. -/
def confirmationsOf (rows : List (BatchRow ι)) : List FactConfirmation :=
  rows.filterMap fun row =>
    match row.2 with
    | .confirmation confirmation => some confirmation
    | .fact _ | .edge _ _ | .audit _ => none

/-- The facts among the rows. -/
def factsOf (rows : List (BatchRow ι)) : List ConfirmedFact :=
  rows.filterMap fun row =>
    match row.2 with
    | .fact fact => some fact
    | .confirmation _ | .edge _ _ | .audit _ => none

variable {rows : List (BatchRow ι)}

theorem mem_confirmationsOf {confirmation : FactConfirmation} :
    confirmation ∈ confirmationsOf rows ↔ HasConfirmation rows confirmation := by
  rw [confirmationsOf, List.mem_filterMap]
  constructor
  · rintro ⟨⟨id, row⟩, hmem, hrow⟩
    cases row <;> cases hrow
    exact ⟨id, hmem⟩
  · rintro ⟨_, hmem⟩
    exact ⟨_, hmem, rfl⟩

theorem mem_factsOf {fact : ConfirmedFact} :
    fact ∈ factsOf rows ↔ HasFact rows fact := by
  rw [factsOf, List.mem_filterMap]
  constructor
  · rintro ⟨⟨id, row⟩, hmem, hrow⟩
    cases row <;> cases hrow
    exact ⟨id, hmem⟩
  · rintro ⟨_, hmem⟩
    exact ⟨_, hmem, rfl⟩

/-- No candidate has two confirmations, no confirmation two facts, and no two confirmations one id. -/
theorem keys_apart (h : rows.Pairwise (Apart batchKeys)) :
    ((confirmationsOf rows).map FactConfirmation.candidateFactId).Nodup ∧
      ((confirmationsOf rows).map FactConfirmation.id).Nodup ∧
      ((factsOf rows).map ConfirmedFact.confirmationId).Nodup := by
  have hconfs : (confirmationsOf rows).Pairwise fun c c' =>
      c.candidateFactId ≠ c'.candidateFactId ∧ c.id ≠ c'.id := by
    refine List.Pairwise.filterMap _ ?_ h
    rintro ⟨_, row⟩ ⟨_, row'⟩ hapart _ hrow _ hrow'
    cases row <;> cases hrow
    cases row' <;> cases hrow'
    constructor
    · intro hsame
      exact hapart (List.mem_cons_of_mem _ List.mem_cons_self) (by
        simp [batchKeys, LineageRow.keys, hsame])
    · intro hsame
      exact hapart List.mem_cons_self (by simp [batchKeys, LineageRow.keys, hsame])
  refine ⟨List.pairwise_map.2 (hconfs.imp And.left),
    List.pairwise_map.2 (hconfs.imp And.right), List.pairwise_map.2 ?_⟩
  refine List.Pairwise.filterMap _ ?_ h
  rintro ⟨_, row⟩ ⟨_, row'⟩ hapart _ hrow _ hrow' hsame
  cases row <;> cases hrow
  cases row' <;> cases hrow'
  exact hapart (List.mem_cons_of_mem _ List.mem_cons_self) (by
    simp [batchKeys, LineageRow.keys, hsame])

/-- The only member with a key among members of different keys. -/
theorem filter_eq_singleton {α κ : Type} [DecidableEq κ] {key : α → κ} {l : List α}
    (h : (l.map key).Nodup) {a : α} (ha : a ∈ l) : l.filter (fun b => key b = key a) = [a] := by
  induction l with
  | nil => cases ha
  | cons _ _ ih =>
    rw [List.map_cons, List.nodup_cons] at h
    rw [List.filter_cons]
    rcases List.mem_cons.1 ha with rfl | hrest
    · rw [if_pos (by simp), List.filter_eq_nil_iff.2]
      intro c hc hkey
      exact h.1 (List.mem_map.2 ⟨c, hc, of_decide_eq_true hkey⟩)
    · rw [if_neg, ih h.2 hrest]
      intro hkey
      exact h.1 (List.mem_map.2 ⟨a, hrest, (of_decide_eq_true hkey).symm⟩)

/-- **The lineage of confirmed facts.** In every run of confirmation batches: no candidate has two
confirmations; a confirmation with a value has exactly one fact, with the value that its candidate and its
disposition give, and the three edges of the fact; a confirmation without a value has none; and a batch that
failed has left no row. -/
theorem lineage_of_run [DecidableEq ι] {actions : List (LineageWorld.Action ι)} {w : LineageWorld ι}
    (hrun : run LineageWorld.step LineageWorld.empty actions = some w) :
    ((confirmationsOf w.session.rows).map FactConfirmation.candidateFactId).Nodup ∧
    (∀ confirmation ∈ confirmationsOf w.session.rows, confirmation.disposition.HasValue →
      ∃ fact candidate,
        (factsOf w.session.rows).filter (fun fact => fact.confirmationId = confirmation.id) = [fact] ∧
        candidate ∈ w.candidates ∧ candidate.id = confirmation.candidateFactId ∧
        FactDisposition.expectedValue candidate confirmation.disposition = some fact.value ∧
        ∀ edge ∈ LineageWorld.evidenceEdges confirmation.caseVersion fact,
          HasEdge w.session.rows edge) ∧
    (∀ confirmation ∈ confirmationsOf w.session.rows, ¬ confirmation.disposition.HasValue →
      (factsOf w.session.rows).filter (fun fact => fact.confirmationId = confirmation.id) = []) ∧
    ∀ id batch, w.batches id = some (batch, .failed) → ∀ row ∈ w.session.rows, row.1 ≠ id := by
  have hsound := sound_of_run hrun
  obtain ⟨hcands, hids, hfacts⟩ := keys_apart hsound.exclusive.rows
  refine ⟨hcands, ?_, ?_, ?_⟩
  · intro confirmation hmem hvalue
    obtain ⟨fact, hfact, hderived, hedges⟩ :=
      hsound.settled confirmation (mem_confirmationsOf.1 hmem) hvalue
    obtain ⟨candidate, hcand, hid, hexpected, -⟩ := hderived.candidate
    have honly := filter_eq_singleton hfacts (mem_factsOf.2 hfact)
    rw [hderived.confirmationId] at honly
    refine ⟨fact, candidate, honly, hcand, hid, hexpected, ?_⟩
    intro edge hedge
    exact (hedges edge hedge).resolve_right List.not_mem_nil
  · intro confirmation hmem hnone
    rw [List.filter_eq_nil_iff]
    intro fact hfact hsame
    obtain ⟨source, hsource, hderived⟩ := hsound.grounded fact (mem_factsOf.1 hfact)
    have hid : source.id = confirmation.id :=
      hderived.confirmationId.symm.trans (of_decide_eq_true hsame)
    have heq := List.inj_on_of_nodup_map hids (mem_confirmationsOf.2 hsource) hmem hid
    obtain ⟨candidate, -, -, hexpected, -⟩ := hderived.candidate
    rw [heq] at hexpected
    cases hdisp : confirmation.disposition with
    | accepted | corrected => exact hnone (by rw [hdisp]; trivial)
    | absent | unreadable =>
      rw [hdisp] at hexpected
      cases hexpected
  · intro id batch hbatch
    have habsent := (hsound.batches id).absent
    rw [hbatch] at habsent
    exact habsent trivial

/-- Two officers confirm one candidate, the second finds it confirmed, and a third batch names a candidate
that does not exist: its confirmation of the second candidate goes with it. -/
def contestedConfirmations : List (LineageWorld.Action Nat) :=
  [.assign [1, 2], .putDocument ⟨10, 1, .readyForOfficerReview, "a.pdf", 0, none⟩,
    .addCandidate ⟨20, 1, 10, 30, "revenue", .string "100"⟩,
    .addCandidate ⟨21, 1, 10, 31, "margin", .string "7"⟩,
    .request 0 ⟨10, [⟨20, .accepted, none, none⟩], 1, .readyForOfficerReview⟩,
    .request 1 ⟨10, [⟨20, .corrected, some (.string "90"), some "typo"⟩], 2, .readyForOfficerReview⟩,
    .request 2 ⟨10, [⟨21, .absent, none, some "missing"⟩, ⟨22, .accepted, none, none⟩], 2,
      .readyForOfficerReview⟩] ++
    [40, 41, 42, 43, 44, 45, 46, 47].map (fun id => .statement 0 id 5) ++
    [50, 51, 52].map (fun id => .statement 1 id 6) ++
    [60, 61, 62, 63].map fun id => .statement 2 id 7

theorem lineage_of_run_contested :
    ∃ w, run LineageWorld.step LineageWorld.empty contestedConfirmations = some w ∧
      (confirmationsOf w.session.rows = [⟨40 + 1, 1, 20, .accepted, 1⟩] ∧
        (factsOf w.session.rows).length = 1 ∧ (w.batches 2).any (·.2 = .failed) = true) ∧
      ((confirmationsOf w.session.rows).map FactConfirmation.candidateFactId).Nodup := by
  have hrun : (run LineageWorld.step LineageWorld.empty contestedConfirmations).any (fun w =>
      decide (confirmationsOf w.session.rows = [⟨40 + 1, 1, 20, .accepted, 1⟩] ∧
        (factsOf w.session.rows).length = 1 ∧ (w.batches 2).any (·.2 = .failed) = true)) = true := by
    decide +kernel
  obtain ⟨w, hw, hrows⟩ := (Option.any_eq_true _ _).1 hrun
  exact ⟨w, hw, of_decide_eq_true hrows, (lineage_of_run hw).1⟩

end CreditOps.Evidence
