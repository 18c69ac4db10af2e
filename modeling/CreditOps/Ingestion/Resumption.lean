import CreditOps.Ingestion.RegionRows

/-!
# Resuming ingestion

What an attempt gets from outside decides what each stage writes and where the attempt ends. When every
attempt gets the same, the rows of a version are a function of its stage (`OnCourse`), whatever attempts ran,
stopped and ran beside each other; and an attempt that runs alone from there ends where an attempt from the
start ends, with the same result (`settled_of_process`). So ingestion may stop anywhere and be taken up again
(`resumable`).
-/

set_option autoImplicit false

namespace CreditOps.Ingestion

open Transition
open Evidence (DocumentStage)
open Workers (WorkerOutcome)

section Resumption

variable {ι : Type} [DecidableEq ι] (processor : Processor ι)

/-! ## An attempt alone -/

/-- The steps of an attempt that nothing runs beside. -/
def Processor.follow : Nat → DocumentState ι → Attempt → Option (DocumentState ι × Result)
  | 0, _, _ => none
  | fuel + 1, state, attempt =>
    match processor.advanceAttempt state attempt with
    | .moved next attempt => Processor.follow fuel next attempt
    | .ended next result => some (next, result)

/-- An attempt that runs from its delivery to its end: a load and two transactions for each stage. -/
def Processor.process (world : World) (state : DocumentState ι) : Option (DocumentState ι × Result) :=
  processor.follow 13 state ⟨world, 0, .load state.checkpoint⟩

/-! ## What a stage leaves behind -/

/-- The rows a stage writes, if it gets that far. -/
def Processor.written (world : World) (stage : DocumentStage) : Contents ι :=
  match processor.writes world stage with
  | .ok writes => writes
  | .error _ => noContents

/-- The result with which an attempt ends before a stage, if it does not lead to it. -/
def Processor.blocked (world : World) (toStage : DocumentStage) : Option Result :=
  match world.refusal toStage with
  | some outcome => some (.returned outcome)
  | none =>
    match processor.writes world toStage with
    | .error outcome => some (.returned outcome)
    | .ok writes => if writes.storable processor.platform.acceptsVector then none else some .raised

/-- The rows of a version at a stage, when all attempts get the same. -/
def Processor.contentsAt (world : World) : DocumentStage → Contents ι
  | .registered | .securityValidated => noContents
  | .parsed | .classified => noContents.insert (processor.written world .parsed)
  | .extracted =>
    (noContents.insert (processor.written world .parsed)).insert (processor.written world .extracted)
  | .indexed | .readyForOfficerReview =>
    ((noContents.insert (processor.written world .parsed)).insert
      (processor.written world .extracted)).insert (processor.written world .indexed)

variable {processor} {world : World} {state next : DocumentState ι} {attempt : Attempt}
  {toStage : DocumentStage} {writes : Contents ι}

theorem next_previous (h : 1 ≤ rank toStage) : (previous toStage).next = some toStage := by
  cases toStage with
  | registered => cases h
  | _ => rfl

theorem rank_previous (h : 1 ≤ rank toStage) : rank (previous toStage) + 1 = rank toStage :=
  (rank_of_next (next_previous h)).symm

omit [DecidableEq ι] in
theorem written_of_writes (h : processor.writes world toStage = .ok writes) :
    processor.written world toStage = writes := by
  rw [Processor.written, h]

/-- **A stage adds its rows to those of the stage before.** -/
theorem contentsAt_next (h : 1 ≤ rank toStage) :
    processor.contentsAt world toStage =
      (processor.contentsAt world (previous toStage)).insert (processor.written world toStage) := by
  cases toStage with
  | registered => cases h
  | securityValidated | parsed | extracted | indexed => rfl
  | classified | readyForOfficerReview => exact (Contents.insert_noContents _).symm

theorem contentsAt_insert (h : 1 ≤ rank toStage) :
    (processor.contentsAt world toStage).insert (processor.written world toStage) =
      processor.contentsAt world toStage := by
  rw [contentsAt_next h, Contents.insert_insert]

omit [DecidableEq ι] in
theorem blocked_eq_none :
    processor.blocked world toStage = none ↔
      world.refusal toStage = none ∧ ∃ writes, processor.writes world toStage = .ok writes ∧
        writes.storable processor.platform.acceptsVector = true := by
  rw [Processor.blocked]
  cases world.refusal toStage with
  | some => simp
  | none =>
    cases processor.writes world toStage with
    | error | ok => simp

/-- The version is where attempts with this world can have brought it, with the rows of its stage. -/
structure OnCourse (processor : Processor ι) (world : World) (stage : DocumentStage)
    (contents : Contents ι) : Prop where
  contents : contents = processor.contentsAt world stage
  passed : ∀ toStage, 1 ≤ rank toStage → rank toStage ≤ rank stage →
    processor.blocked world toStage = none

/-- **Every stage keeps the version on course.** -/
theorem OnCourse.persist (h : OnCourse processor world state.stage state.contents)
    (hworld : attempt.world = world) (hpersists : Persists processor state attempt toStage writes next) :
    OnCourse processor world next.stage next.contents := by
  subst hworld
  obtain ⟨hstorable, hnext, hstage, rfl⟩ := DocumentState.persist_eq_some.1 hpersists.persisted
  have hrank : 1 ≤ rank toStage := by
    have hstep := rank_of_next hnext
    omega
  have hwritten := written_of_writes hpersists.written
  have hblocked : processor.blocked attempt.world toStage = none :=
    blocked_eq_none.2 ⟨hpersists.accepted, writes, hpersists.written, hstorable⟩
  constructor
  · -- from the stage before the rows are added, at the stage itself they are there already
    rcases hstage with hpre | hrepeated
    · rw [contentsAt_next hrank, ← hpre, ← h.contents, hwritten]
    · have hconts := h.contents
      rw [hrepeated] at hconts
      rw [hconts, ← hwritten, contentsAt_insert hrank]
  · intro earlier hone hle
    rcases Nat.lt_or_eq_of_le hle with hlt | heq
    · refine h.passed earlier hone ?_
      have hprev := rank_previous hrank
      rcases hstage with hpre | hrepeated
      · rw [hpre]
        change rank earlier < rank toStage at hlt
        omega
      · rw [hrepeated]
        exact hle
    · rw [rank_inj.1 heq]
      exact hblocked

/-- Where an attempt that runs alone can be: on the stages the version had passed when it was loaded, or at
the next stage. -/
def Alone (processor : Processor ι) (world : World) (state : DocumentState ι) (attempt : Attempt) : Prop :=
  attempt.world = world ∧ OnCourse processor world state.stage state.contents ∧
    match attempt.point with
    | .load checkpoint =>
      state.stale = false ∧ ∀ saved, checkpoint = some saved → rank saved ≤ rank state.stage
    | .persist toStage =>
      1 ≤ rank toStage ∧ attempt.resumeRank ≤ rank state.stage ∧
        ((rank toStage ≤ attempt.resumeRank ∧ rank state.stage = attempt.resumeRank) ∨
          rank toStage = rank state.stage + 1)
    | .save stage => stage = state.stage ∧ attempt.resumeRank ≤ rank state.stage ∧ 1 ≤ rank stage

/-- Where an attempt ends: before a stage it does not lead to, or behind the last. -/
structure Settled (processor : Processor ι) (world : World) (state : DocumentState ι) (result : Result) :
    Prop where
  course : OnCourse processor world state.stage state.contents
  next : ∀ toStage, state.stage.next = some toStage → processor.blocked world toStage = some result
  last : state.stage.next = none → result = .returned .succeeded

/-- The steps an attempt has left at most. -/
def Point.stepsLeft : Point → Nat
  | .load _ => 13
  | .persist toStage => 2 * (7 - rank toStage)
  | .save stage => 2 * (7 - rank stage) - 1

theorem rank_le_six (stage : DocumentStage) : rank stage ≤ 6 := by
  cases stage <;> decide

/-- After a stage the attempt goes on to the next, or has settled the version. -/
theorem Alone.after {stage : DocumentStage} (hworld : attempt.world = world)
    (hcourse : OnCourse processor world state.stage state.contents) (hone : 1 ≤ rank stage)
    (hresume : attempt.resumeRank ≤ rank state.stage)
    (hat : (rank stage ≤ attempt.resumeRank ∧ rank state.stage = attempt.resumeRank) ∨
      stage = state.stage) :
    (∃ next, attempt.after stage state = .moved state next ∧ Alone processor world state next ∧
      next.point.stepsLeft < 2 * (7 - rank stage) - 1) ∨
    ∃ result, attempt.after stage state = .ended state result ∧ Settled processor world state result := by
  rw [Attempt.after]
  cases hnext : stage.next with
  | some toStage =>
    have hrank := rank_of_next hnext
    have hlast := rank_le_six toStage
    left
    refine ⟨_, rfl, ⟨hworld, hcourse, by omega, hresume, ?_⟩, ?_⟩
    · rcases hat with ⟨hle, heq⟩ | rfl
      · rcases Nat.lt_or_eq_of_le hle with hlt | hsame
        · exact .inl ⟨hrank ▸ hlt, heq⟩
        · exact .inr (by rw [hrank, hsame, heq])
      · exact .inr hrank
    · simp only [Point.stepsLeft]
      omega
  | none =>
    right
    refine ⟨_, rfl, hcourse, ?_, fun _ => rfl⟩
    -- behind the last stage the version has no next one either
    have hready : stage = .readyForOfficerReview := by
      cases stage <;> cases hnext
      rfl
    subst hready
    have hstage : state.stage = .readyForOfficerReview := by
      rcases hat with ⟨hle, heq⟩ | hsame
      · have hlast := rank_le_six state.stage
        exact rank_inj.1 (le_antisymm hlast (heq ▸ hle))
      · exact hsame.symm
    intro toStage habsurd
    rw [hstage] at habsurd
    cases habsurd

/-- **A step of an attempt that runs alone.** -/
theorem Alone.step (h : Alone processor world state attempt) :
    (∃ next attempt', processor.advanceAttempt state attempt = .moved next attempt' ∧
      Alone processor world next attempt' ∧ attempt'.point.stepsLeft < attempt.point.stepsLeft) ∨
    ∃ next result, processor.advanceAttempt state attempt = .ended next result ∧
      Settled processor world next result := by
  obtain ⟨hworld, hcourse, hpoint⟩ := h
  rw [Processor.advanceAttempt]
  cases hat : attempt.point with
  | load checkpoint =>
    rw [hat] at hpoint
    obtain ⟨hstale, hbehind⟩ := hpoint
    have hresume : resumeRank state.stage checkpoint = rank state.stage := by
      rw [resumeRank]
      cases checkpoint with
      | none => simp
      | some saved => exact max_eq_left (hbehind saved rfl)
    simp only [begin, hstale, hresume, Bool.false_eq_true, if_false]
    split_ifs with hready hcont
    · -- the version is ready
      have hstage : state.stage = .readyForOfficerReview :=
        rank_inj.1 (le_antisymm (rank_le_six state.stage) hready)
      right
      refine ⟨state, _, rfl, hcourse, ?_, fun _ => rfl⟩
      intro toStage habsurd
      rw [hstage] at habsurd
      cases habsurd
    · left
      refine ⟨state, _, rfl, ⟨hworld, hcourse, by decide, le_rfl, ?_⟩, (by decide : 12 < 13)⟩
      rcases Nat.eq_zero_or_pos (rank state.stage) with hzero | hpos
      · exact .inr (by rw [hzero]; rfl)
      · exact .inl ⟨hpos, rfl⟩
    · left
      refine ⟨state, _, rfl, ⟨hworld, hcourse, by decide, le_rfl, .inr ?_⟩, (by decide : 2 < 13)⟩
      simp only [rank] at hready hcont ⊢
      omega
  | save =>
    rw [hat] at hpoint
    obtain ⟨rfl, hresume, hone⟩ := hpoint
    have hsaved : OnCourse processor world
        { state with checkpoint := some state.stage : DocumentState ι }.stage
        { state with checkpoint := some state.stage : DocumentState ι }.contents := hcourse
    rcases Alone.after hworld hsaved hone hresume (.inr rfl) with
      ⟨next, hafter, halone, hsteps⟩ | ⟨result, hafter, hsettled⟩
    · exact .inl ⟨_, next, hafter, halone, hsteps⟩
    · exact .inr ⟨_, result, hafter, hsettled⟩
  | persist toStage =>
    rw [hat] at hpoint
    obtain ⟨hone, hresume, _⟩ := hpoint
    subst hworld
    by_cases hpassed : rank toStage ≤ attempt.resumeRank
    · -- the version is past the stage, so it did not refuse it
      have haccepted := (blocked_eq_none.1 (hcourse.passed toStage hone (hpassed.trans hresume))).1
      have hstage : rank state.stage = attempt.resumeRank := by omega
      simp only [haccepted, if_neg (not_lt.2 hpassed)]
      rcases Alone.after rfl hcourse hone hresume (.inl ⟨hpassed, hstage⟩) with
        ⟨next, hafter, halone, hsteps⟩ | ⟨result, hafter, hsettled⟩
      · refine .inl ⟨state, next, hafter, halone, hsteps.trans_le ?_⟩
        simp only [Point.stepsLeft]
        omega
      · exact .inr ⟨state, result, hafter, hsettled⟩
    · have hrank : rank toStage = rank state.stage + 1 := by omega
      have hprev : previous toStage = state.stage := by
        have hpre := rank_previous hone
        exact rank_inj.1 (by omega)
      have hnext : state.stage.next = some toStage := by
        rw [← hprev]
        exact next_previous hone
      -- whatever stops the attempt here is what blocks the stage
      have hsettled : ∀ result, processor.blocked attempt.world toStage = some result →
          Settled processor attempt.world state result := by
        intro result hblocked
        refine ⟨hcourse, ?_, ?_⟩
        · intro other hother
          rw [hnext] at hother
          cases hother
          exact hblocked
        · intro hnone
          rw [hnext] at hnone
          cases hnone
      simp only [if_pos (not_le.1 hpassed)]
      cases haccepted : attempt.world.refusal toStage with
      | some =>
        exact .inr ⟨state, _, rfl, hsettled _ (by rw [Processor.blocked, haccepted])⟩
      | none =>
        cases hwritten : processor.writes attempt.world toStage with
        | error =>
          exact .inr ⟨state, _, rfl, hsettled _ (by simp only [Processor.blocked, haccepted, hwritten])⟩
        | ok writes =>
          simp only
          cases hpersist : state.persist processor.platform.acceptsVector writes (previous toStage)
            toStage with
          | none =>
            have hunstorable : writes.storable processor.platform.acceptsVector = false := by
              by_contra hstorable
              have hsome := DocumentState.persist_eq_some.2
                ⟨by simpa using hstorable, next_previous hone, .inl hprev.symm, rfl⟩
              rw [hpersist] at hsome
              cases hsome
            exact .inr ⟨state, _, rfl, hsettled _
              (by simp [Processor.blocked, haccepted, hwritten, hunstorable])⟩
          | some next =>
            have hpersists : Persists processor state attempt toStage writes next :=
              ⟨hat, haccepted, not_le.1 hpassed, hwritten, hpersist⟩
            obtain ⟨-, -, -, rfl⟩ := DocumentState.persist_eq_some.1 hpersist
            left
            refine ⟨_, _, rfl, ⟨rfl, hcourse.persist rfl hpersists, rfl, ?_, hone⟩, ?_⟩
            · exact (not_le.1 hpassed).le
            · have hlast := rank_le_six toStage
              simp only [Point.stepsLeft]
              omega

/-- **An attempt that runs alone settles the version.** -/
theorem Alone.follow {fuel : Nat} :
    ∀ {state : DocumentState ι} {attempt : Attempt}, Alone processor world state attempt →
      attempt.point.stepsLeft ≤ fuel →
      ∃ next result, processor.follow fuel state attempt = some (next, result) ∧
        Settled processor world next result := by
  induction fuel with
  | zero =>
    intro state attempt halone hfuel
    -- an attempt always has a step left
    have hpos : 0 < attempt.point.stepsLeft := by
      cases attempt.point with
      | load => exact Nat.succ_pos 12
      | persist toStage =>
        have hlast := rank_le_six toStage
        simp only [Point.stepsLeft]
        omega
      | save stage =>
        have hlast := rank_le_six stage
        simp only [Point.stepsLeft]
        omega
    omega
  | succ _ ih =>
    intro state attempt halone hfuel
    rw [Processor.follow]
    rcases halone.step with ⟨next, _, hmoved, halone', _⟩ | ⟨next, result, hended, hsettled⟩
    · rw [hmoved]
      exact ih halone' (by omega)
    · rw [hended]
      exact ⟨next, result, rfl, hsettled⟩

theorem settled_of_process (hcourse : OnCourse processor world state.stage state.contents)
    (hstale : state.stale = false)
    (hbehind : ∀ saved, state.checkpoint = some saved → rank saved ≤ rank state.stage) :
    ∃ next result, processor.process world state = some (next, result) ∧
      Settled processor world next result :=
  Alone.follow ⟨rfl, hcourse, hstale, hbehind⟩ le_rfl

/-- **There is one way to end.** -/
theorem Settled.unique {other : DocumentState ι} {result result' : Result}
    (h : Settled processor world state result) (h' : Settled processor world other result') :
    state.stage = other.stage ∧ state.contents = other.contents ∧ result = result' := by
  -- a version that had gone further would have passed the stage that blocks the other
  have hnotLess : ∀ {a b : DocumentState ι} {r r' : Result}, Settled processor world a r →
      Settled processor world b r' → ¬ rank a.stage < rank b.stage := by
    intro a b r r' ha hb hless
    cases hnext : a.stage.next with
    | none =>
      have hready : a.stage = .readyForOfficerReview := by
        revert hnext
        cases a.stage <;> intro hnext <;> cases hnext
        rfl
      have hlast := rank_le_six b.stage
      rw [hready] at hless
      exact absurd hless (not_lt.2 hlast)
    | some toStage =>
      have hrank := rank_of_next hnext
      have hblocked := ha.next toStage hnext
      rw [hb.course.passed toStage (by omega) (by omega)] at hblocked
      cases hblocked
  have hstage : state.stage = other.stage :=
    rank_inj.1 (le_antisymm (not_lt.1 (hnotLess h' h)) (not_lt.1 (hnotLess h h')))
  refine ⟨hstage, ?_, ?_⟩
  · rw [h.course.contents, h'.course.contents, hstage]
  · cases hnext : state.stage.next with
    | none => rw [h.last hnext, h'.last (hstage ▸ hnext)]
    | some toStage =>
      have hsame := (h.next toStage hnext).symm.trans (h'.next toStage (hstage ▸ hnext))
      exact Option.some.inj hsame

theorem onCourse_registered : OnCourse processor world .registered noContents where
  contents := rfl
  passed toStage hone hle := absurd (hone.trans hle) (by decide)

/-! ## Complete versions -/

/-- The rows of every stage are there: what the parser and the two routes gave, stored. -/
structure Complete (processor : Processor ι) (world : World) (contents : Contents ι) : Prop where
  regions : ∃ parsed, world.parsed = some parsed ∧ contents.regions =
    KeyedTable.addAll PageRegion.id [] (regionRows processor.uuid5 processor.documentVersionId parsed)
  candidates : ∃ parsed rows, world.parsed = some parsed ∧
    extract processor.uuid5 processor.documentVersionId processor.platform parsed world.extraction =
      .ok rows ∧
    contents.candidates = KeyedTable.addAll CandidateFact.id [] rows
  passages : ∃ parsed rows, world.parsed = some parsed ∧
    index processor.uuid5 processor.documentVersionId processor.expectedDimension parsed
      world.embedding = .ok rows ∧
    contents.passages = KeyedTable.addAll RetrievalPassage.id [] rows

omit [DecidableEq ι] in
/-- What the three stages that write rows write. -/
theorem writes_parsed (h : processor.writes world .parsed = .ok writes) :
    ∃ parsed, world.parsed = some parsed ∧
      writes = { noContents with
        regions := regionRows processor.uuid5 processor.documentVersionId parsed } := by
  rw [Processor.writes] at h
  cases hparsed : world.parsed with
  | none =>
    rw [hparsed] at h
    cases h
  | some parsed =>
    rw [hparsed] at h
    cases h
    exact ⟨parsed, rfl, rfl⟩

omit [DecidableEq ι] in
theorem writes_extracted (h : processor.writes world .extracted = .ok writes) :
    ∃ parsed rows, world.parsed = some parsed ∧
      extract processor.uuid5 processor.documentVersionId processor.platform parsed world.extraction =
        .ok rows ∧ writes = { noContents with candidates := rows } := by
  rw [Processor.writes] at h
  cases hparsed : world.parsed with
  | none =>
    rw [hparsed] at h
    cases h
  | some parsed =>
    rw [hparsed] at h
    obtain ⟨rows, hrows, rfl⟩ := Results.map_eq_ok h
    exact ⟨parsed, rows, rfl, hrows, rfl⟩

omit [DecidableEq ι] in
theorem writes_indexed (h : processor.writes world .indexed = .ok writes) :
    ∃ parsed rows, world.parsed = some parsed ∧
      index processor.uuid5 processor.documentVersionId processor.expectedDimension parsed
        world.embedding = .ok rows ∧ writes = { noContents with passages := rows } := by
  rw [Processor.writes] at h
  cases hparsed : world.parsed with
  | none =>
    rw [hparsed] at h
    cases h
  | some parsed =>
    rw [hparsed] at h
    obtain ⟨rows, hrows, rfl⟩ := Results.map_eq_ok h
    exact ⟨parsed, rows, rfl, hrows, rfl⟩

/-- **From `INDEXED` on the rows are complete.** -/
theorem OnCourse.complete {stage : DocumentStage} {contents : Contents ι}
    (h : OnCourse processor world stage contents) (hstage : rank .indexed ≤ rank stage) :
    Complete processor world contents := by
  have hwrites : ∀ toStage, 1 ≤ rank toStage → rank toStage ≤ rank .indexed →
      ∃ writes, processor.writes world toStage = .ok writes := by
    intro toStage hone hle
    obtain ⟨-, writes, hwritten, -⟩ := blocked_eq_none.1 (h.passed toStage hone (hle.trans hstage))
    exact ⟨writes, hwritten⟩
  obtain ⟨regions, hregs⟩ := hwrites .parsed (by decide) (by decide)
  obtain ⟨candidates, hcands⟩ := hwrites .extracted (by decide) (by decide)
  obtain ⟨passages, hpassages⟩ := hwrites .indexed (by decide) (by decide)
  have hconts : contents = ((noContents.insert regions).insert candidates).insert passages := by
    rw [h.contents, ← written_of_writes hregs, ← written_of_writes hcands,
      ← written_of_writes hpassages]
    cases stage with
    | indexed | readyForOfficerReview => rfl
    | _ => exact absurd hstage (by decide)
  obtain ⟨parsed, hparsed, rfl⟩ := writes_parsed hregs
  obtain ⟨parsed', rows, hparsed', hextract, rfl⟩ := writes_extracted hcands
  obtain ⟨parsed'', rows', hparsed'', hindex, rfl⟩ := writes_indexed hpassages
  rw [hconts]
  exact ⟨⟨parsed, hparsed, rfl⟩, ⟨parsed', rows, hparsed', hextract, rfl⟩,
    ⟨parsed'', rows', hparsed'', hindex, rfl⟩⟩

/-! ## Crashes and redeliveries -/

variable {events : List Event} {s t : IngestionSystem ι} {event : Event}

theorem onCourse_of_run
    (hworlds : ∀ worker other, Event.deliver worker other ∈ events → other = world)
    (hrun : run processor.ingest notStarted events = some s) :
    OnCourse processor world s.document.stage s.document.contents := by
  have hevts : ∀ event ∈ events, event.Delivers (· = world) := by
    rintro _ hmem worker other rfl
    exact hworlds worker other hmem
  exact document_invariant onCourse_registered OnCourse.persist hevts hrun

theorem indexed_of_ready (hstep : processor.ingest s event = some t)
    (hready : t.document.stage = .readyForOfficerReview) :
    s.document.stage = .indexed ∨ s.document.stage = .readyForOfficerReview := by
  rcases ingest_document hstep with ⟨hstage, -⟩ | ⟨_, _, toStage, _, -, hpersists⟩
  · exact .inr (hstage.symm.trans hready)
  · obtain ⟨-, -, hstage, hnext⟩ := DocumentState.persist_eq_some.1 hpersists.persisted
    rw [hnext] at hready
    change toStage = .readyForOfficerReview at hready
    subst hready
    exact hstage

/-- **Ingestion is resumable.** Attempts that all get the same outside may be delivered, stop and run beside
each other in any order: the stage never moves backwards; an attempt that then runs to its end leaves the
rows, and the stage, of one attempt that ran undisturbed from the start, with the same result; an indexed or
ready version has the rows of every stage, and only an indexed version becomes ready. -/
theorem resumable (processor : Processor ι) (world : World) {events : List Event}
    (hworlds : ∀ worker other, Event.deliver worker other ∈ events → other = world)
    {s : IngestionSystem ι} (hrun : run processor.ingest notStarted events = some s) :
    (∀ done rest m, events = done ++ rest → run processor.ingest notStarted done = some m →
      rank m.document.stage ≤ rank s.document.stage) ∧
    (s.document.stale = false → ∃ once again result,
      processor.process world registered = some (once, result) ∧
      processor.process world s.document = some (again, result) ∧
      again.stage = once.stage ∧ again.contents = once.contents) ∧
    (rank .indexed ≤ rank s.document.stage → Complete processor world s.document.contents) ∧
    ∀ event t, processor.ingest s event = some t → t.document.stage = .readyForOfficerReview →
      s.document.stage = .indexed ∨ s.document.stage = .readyForOfficerReview := by
  have hcourse := onCourse_of_run hworlds hrun
  refine ⟨?_, ?_, hcourse.complete, fun event t => indexed_of_ready⟩
  · rintro _ _ m rfl hm
    obtain ⟨_, hm', hrest⟩ := run_append_eq_some.1 hrun
    rw [hm] at hm'
    cases hm'
    exact rank_le_of_run hrest
  · intro hstale
    have hbehind := (checkpointBehind_of_run hrun).saved
    obtain ⟨again, result, hagain, hsettled⟩ := settled_of_process hcourse hstale hbehind
    have hstart : ∃ once result, processor.process world registered = some (once, result) ∧
        Settled processor world once result :=
      settled_of_process onCourse_registered rfl fun saved hsaved => by cases hsaved
    obtain ⟨once, _, honce, hsettled'⟩ := hstart
    obtain ⟨hstage, hconts, rfl⟩ := hsettled.unique hsettled'
    exact ⟨once, again, result, honce, hagain, hstage, hconts⟩

end Resumption

/-- An attempt stops before it saves the checkpoint of the parsed version. The next one is delivered again
while it runs on, and both are left before their ends. -/
def interrupted (world : World) : List Event :=
  .deliver 0 world :: List.replicate 4 (.work 0) ++ .stop 0 :: .deliver 1 world ::
    List.replicate 6 (.work 1) ++ .deliver 2 world :: List.replicate 2 (.work 1) ++
      List.replicate 2 (.work 2)

theorem resumable_interrupted :
    ∃ s once again result,
      run asciiProcessor.ingest notStarted (interrupted (requestWorld creditRequest requestVectors)) =
        some s ∧
      asciiProcessor.process (requestWorld creditRequest requestVectors) registered = some (once, result) ∧
      asciiProcessor.process (requestWorld creditRequest requestVectors) s.document =
        some (again, result) ∧
      again.stage = once.stage ∧ again.contents = once.contents := by
  have hrun : (run asciiProcessor.ingest notStarted
      (interrupted (requestWorld creditRequest requestVectors))).any (fun s => s.document.stale = false) =
        true := by decide +kernel
  obtain ⟨s, hs, hstale⟩ := (Option.any_eq_true _ _).1 hrun
  have hdelivered : ∀ worker world,
      Event.deliver worker world ∈ interrupted (requestWorld creditRequest requestVectors) →
        world = requestWorld creditRequest requestVectors := by
    intro worker world hmem
    have hpair : (worker = 0 ∨ worker = 1 ∨ worker = 2) ∧
        world = requestWorld creditRequest requestVectors := by
      simp [interrupted] at hmem
      grind
    exact hpair.2
  obtain ⟨once, again, result, honce, hagain, hstage, hconts⟩ :=
    (resumable asciiProcessor (requestWorld creditRequest requestVectors) hdelivered hs).2.1
      (of_decide_eq_true hstale)
  exact ⟨s, once, again, result, hs, honce, hagain, hstage, hconts⟩

end CreditOps.Ingestion
