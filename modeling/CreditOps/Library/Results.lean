import Mathlib.Data.List.Forall2

/-!
# Computations that may fail

Inversion of sequenced computations in `Except`: a sequence succeeds when every part does, on what the
parts before it returned. A fold that may stop keeps what each of its steps keeps
(`foldlM_invariant`).
-/

set_option autoImplicit false

namespace Results

universe u v w

variable {ε : Type u} {α β : Type v}

variable {x : Except ε α} {f : α → Except ε β}

/-- **A sequence succeeds when both parts do.** -/
theorem bind_eq_ok {b : β} :
    (x >>= f) = .ok b ↔ ∃ a, x = .ok a ∧ f a = .ok b := by
  cases x with
  | error =>
    constructor
    · intro h
      cases h
    · rintro ⟨_, h, _⟩
      cases h
  | ok a =>
    constructor
    · intro h
      exact ⟨a, rfl, h⟩
    · rintro ⟨_, h, hf⟩
      cases h
      exact hf

variable {a : α}

/-- **A refusal.** A guarded computation succeeds when the guard does not refuse and the rest succeeds. -/
theorem refuse_eq_ok {c : Prop} [Decidable c] {e : ε} :
    (if c then .error e else x) = .ok a ↔ ¬ c ∧ x = .ok a := by
  by_cases hc : c
  · rw [if_pos hc]
    constructor
    · intro h
      cases h
    · rintro ⟨hnot, -⟩
      exact absurd hc hnot
  · rw [if_neg hc]
    exact (and_iff_right hc).symm

theorem map_eq_ok {α β : Type v} {x : Except ε α} {f : α → β} {b : β} (h : x.map f = .ok b) :
    ∃ a, x = .ok a ∧ b = f a := by
  cases x with
  | error => cases h
  | ok a =>
    cases h
    exact ⟨a, rfl, rfl⟩

theorem ok_bind : ((.ok a : Except ε α) >>= f) = f a :=
  rfl

theorem mapError_eq_ok {ε' : Type w} {f : ε → ε'} :
    x.mapError f = .ok a ↔ x = .ok a := by
  cases x with
  | error =>
    constructor
    all_goals
      intro h
      cases h
  | ok =>
    constructor
    all_goals
      intro h
      cases h
      rfl

theorem toOption_eq_some : x.toOption = some a ↔ x = .ok a := by
  cases x with
  | error | ok => simp [Except.toOption]

theorem exists_bind_eq_ok :
    (∃ b, (x >>= f) = .ok b) ↔ ∃ a, x = .ok a ∧ ∃ b, f a = .ok b := by
  constructor
  · rintro ⟨b, h⟩
    obtain ⟨a, hx, hf⟩ := bind_eq_ok.1 h
    exact ⟨a, hx, b, hf⟩
  · rintro ⟨a, hx, b, hf⟩
    exact ⟨b, bind_eq_ok.2 ⟨a, hx, hf⟩⟩

variable {xs : List α}

/-- **A mapped list succeeds element by element.** -/
theorem mapM_eq_ok :
    ∀ {ys : List β}, xs.mapM f = .ok ys ↔ List.Forall₂ (fun x y => f x = .ok y) xs ys := by
  induction xs with
  | nil =>
    intro ys
    rw [List.mapM_nil, List.forall₂_nil_left_iff]
    constructor
    · intro h
      cases h
      rfl
    · rintro rfl
      rfl
  | cons _ _ ih =>
    intro ys
    rw [List.mapM_cons, List.forall₂_cons_left_iff, bind_eq_ok]
    constructor
    · rintro ⟨y, hy, hrest⟩
      obtain ⟨zs, hzs, hcons⟩ := bind_eq_ok.1 hrest
      cases hcons
      exact ⟨y, zs, hy, ih.1 hzs, rfl⟩
    · rintro ⟨y, zs, hy, hzs, rfl⟩
      exact ⟨y, hy, bind_eq_ok.2 ⟨zs, ih.2 hzs, rfl⟩⟩

theorem exists_mapM_eq_ok {f : α → Except ε β} {xs : List α} :
    (∃ ys, xs.mapM f = .ok ys) ↔ ∀ x ∈ xs, ∃ y, f x = .ok y := by
  induction xs with
  | nil =>
    constructor
    · intro _ x hx
      cases hx
    · intro _
      exact ⟨[], rfl⟩
  | cons _ _ ih =>
    rw [List.mapM_cons, exists_bind_eq_ok, List.forall_mem_cons, ← ih]
    constructor
    · rintro ⟨y, hy, hrest⟩
      obtain ⟨ys, hys, -⟩ := exists_bind_eq_ok.1 hrest
      exact ⟨⟨y, hy⟩, ys, hys⟩
    · rintro ⟨⟨y, hy⟩, ys, hys⟩
      exact ⟨y, hy, exists_bind_eq_ok.2 ⟨ys, hys, _, rfl⟩⟩

/-- A dictionary that is filled key by key. -/
def tabulate {ι : Type v} [DecidableEq ι] (f : ι → Except ε α) (empty : ι → α) :
    List ι → Except ε (ι → α)
  | [] => .ok empty
  | i :: is => do
    let x ← f i
    let table ← tabulate f empty is
    return Function.update table i x

/-- **A dictionary is filled key by key.** -/
theorem tabulate_eq_ok {ι : Type v} [DecidableEq ι] {f : ι → Except ε α} {empty table : ι → α}
    {is : List ι} :
    tabulate f empty is = .ok table ↔ (∀ i ∈ is, f i = .ok (table i)) ∧ ∀ i ∉ is, table i = empty i := by
  induction is generalizing table with
  | nil =>
    constructor
    · intro h
      cases h
      exact ⟨fun i hi => (nomatch hi), fun _ _ => rfl⟩
    · rintro ⟨-, h⟩
      obtain rfl : table = empty := funext fun i => h i List.not_mem_nil
      rfl
  | cons i is ih =>
    constructor
    · intro h
      obtain ⟨x, hx, h⟩ := bind_eq_ok.1 h
      obtain ⟨_, hrest, h⟩ := bind_eq_ok.1 h
      cases h
      obtain ⟨hin, hout⟩ := ih.1 hrest
      refine ⟨fun j hj => ?_, fun j hj => ?_⟩
      · by_cases hji : j = i
        · rw [hji, hx, Function.update_self]
        · rw [Function.update_of_ne hji]
          exact hin j ((List.mem_cons.1 hj).resolve_left hji)
      · rw [List.mem_cons, not_or] at hj
        rw [Function.update_of_ne hj.1]
        exact hout j hj.2
    · rintro ⟨hin, hout⟩
      -- a key that comes again is filled again, with the same value
      obtain ⟨rest, hrest⟩ : ∃ rest, tabulate f empty is = .ok rest := by
        refine ⟨fun j => if j ∈ is then table j else empty j, ih.2 ⟨fun j hj => ?_, fun j hj => ?_⟩⟩
        · rw [if_pos hj]
          exact hin j (List.mem_cons_of_mem i hj)
        · rw [if_neg hj]
      obtain ⟨hrestIn, hrestOut⟩ := ih.1 hrest
      refine bind_eq_ok.2 ⟨table i, hin i List.mem_cons_self, bind_eq_ok.2 ⟨rest, hrest, ?_⟩⟩
      congr 1
      funext j
      by_cases hji : j = i
      · rw [hji, Function.update_self]
      · rw [Function.update_of_ne hji]
        by_cases hj : j ∈ is
        · have hsame := hin j (List.mem_cons_of_mem i hj)
          rw [hrestIn j hj] at hsame
          exact Except.ok.inj hsame
        · rw [hrestOut j hj, hout j (by rw [List.mem_cons, not_or]; exact ⟨hji, hj⟩)]

/-- The same for a partial function. -/
theorem mapM_eq_some {α β : Type v} {f : α → Option β} {xs : List α} :
    ∀ {ys : List β}, xs.mapM f = some ys ↔ List.Forall₂ (fun x y => f x = some y) xs ys := by
  induction xs with
  | nil =>
    intro ys
    rw [List.mapM_nil, List.forall₂_nil_left_iff]
    constructor
    · intro h
      cases h
      rfl
    · rintro rfl
      rfl
  | cons _ _ ih =>
    intro ys
    rw [List.mapM_cons, List.forall₂_cons_left_iff, Option.bind_eq_bind, Option.bind_eq_some_iff]
    constructor
    · rintro ⟨y, hy, hrest⟩
      obtain ⟨zs, hzs, hcons⟩ := Option.bind_eq_some_iff.1 hrest
      cases hcons
      exact ⟨y, zs, hy, ih.1 hzs, rfl⟩
    · rintro ⟨y, zs, hy, hzs, rfl⟩
      exact ⟨y, hy, Option.bind_eq_some_iff.2 ⟨zs, ih.2 hzs, rfl⟩⟩

theorem exists_mapM_eq_some {α β : Type v} {f : α → Option β} {xs : List α} :
    (∃ ys, xs.mapM f = some ys) ↔ ∀ x ∈ xs, ∃ y, f x = some y := by
  simp only [mapM_eq_some]
  induction xs with
  | nil =>
    constructor
    · intro _ x hx
      cases hx
    · intro _
      exact ⟨[], List.Forall₂.nil⟩
  | cons _ _ ih =>
    rw [List.forall_mem_cons, ← ih]
    constructor
    · rintro ⟨_, h⟩
      obtain ⟨y, ys, hy, hys, -⟩ := List.forall₂_cons_left_iff.1 h
      exact ⟨⟨y, hy⟩, ys, hys⟩
    · rintro ⟨⟨y, hy⟩, ys, hys⟩
      exact ⟨y :: ys, List.Forall₂.cons hy hys⟩

theorem map_eq_of_forall₂ {α : Type v} {β : Type w} {γ : Type u} {f : α → γ} {g : β → γ}
    {R : α → β → Prop} {xs : List α} {ys : List β} (h : List.Forall₂ R xs ys)
    (hR : ∀ {x y}, R x y → g y = f x) : ys.map g = xs.map f := by
  induction h with
  | nil => rfl
  | cons hxy _ ih => rw [List.map_cons, List.map_cons, ih, hR hxy]

/-- A list that extends a sublist of it by one member is the sublist with the member put in. -/
theorem exists_insert_of_sublist {α : Type v} {x : α} {xs ys : List α} (h : xs.Sublist ys)
    (hperm : ys.Perm (x :: xs)) : ∃ early late, xs = early ++ late ∧ ys = early ++ x :: late := by
  induction h with
  | slnil => exact absurd hperm.length_eq (by simp)
  | @cons xs ys y h _ =>
    -- the first member is the new one: the rest is as long as the sublist
    have hlen : ys.length + 1 = xs.length + 1 := hperm.length_eq
    have hsame : xs = ys := h.eq_of_length (by omega)
    subst hsame
    have hhead : [y].Perm [x] := (List.perm_append_right_iff xs).1 hperm
    rw [List.singleton_perm_singleton.1 hhead]
    exact ⟨[], xs, rfl, rfl⟩
  | @cons_cons xs ys y h ih =>
    have htail : ys.Perm (x :: xs) := (hperm.trans (List.Perm.swap y x xs)).cons_inv
    obtain ⟨early, late, rfl, rfl⟩ := ih htail
    exact ⟨y :: early, late, rfl, rfl⟩

variable {R : α → β → Prop} {ys : List β}

theorem exists_left_of_mem (h : List.Forall₂ R xs ys) {y : β} (hy : y ∈ ys) : ∃ x ∈ xs, R x y := by
  induction h with
  | nil => cases hy
  | cons hxy _ ih =>
    rcases List.mem_cons.1 hy with rfl | htail
    · exact ⟨_, List.mem_cons_self .., hxy⟩
    · obtain ⟨x, hx, hR⟩ := ih htail
      exact ⟨x, List.mem_cons_of_mem _ hx, hR⟩

theorem exists_right_of_mem (h : List.Forall₂ R xs ys) {x : α} (hx : x ∈ xs) : ∃ y ∈ ys, R x y :=
  exists_left_of_mem h.flip hx

/-- **The fold rule.** What each step of a fold keeps, a fold that goes through keeps. -/
theorem foldlM_invariant {σ : Type u} {α : Type w} {f : σ → α → Option σ} {P : σ → Prop}
    (hstep : ∀ {s x t}, P s → f s x = some t → P t) {xs : List α} :
    ∀ {s t : σ}, P s → xs.foldlM f s = some t → P t := by
  induction xs with
  | nil =>
    intro s t hs h
    cases h
    exact hs
  | cons _ _ ih =>
    intro s t hs h
    rw [List.foldlM_cons, Option.bind_eq_bind, Option.bind_eq_some_iff] at h
    obtain ⟨m, hm, hrest⟩ := h
    exact ih (hstep hs hm) hrest

/-- **The rule of checking beside the earlier.** A fold that takes each element after a check of it and of it
beside the ones before it takes exactly the lists whose elements pass, one by one and in pairs. -/
theorem foldlM_checked {α : Type v} {check : List α → α → Except ε (List α)} {P : α → Prop}
    {R : α → α → Prop}
    (hcheck : ∀ seen x out, check seen x = .ok out ↔ P x ∧ (∀ y ∈ seen, R y x) ∧ out = seen ++ [x])
    {xs : List α} : ∀ {seen out : List α}, xs.foldlM check seen = .ok out ↔
      (∀ x ∈ xs, P x) ∧ xs.Pairwise R ∧ (∀ y ∈ seen, ∀ x ∈ xs, R y x) ∧ out = seen ++ xs := by
  induction xs with
  | nil =>
    intro seen out
    rw [List.append_nil]
    constructor
    · intro h
      cases h
      exact ⟨List.forall_mem_nil _, List.Pairwise.nil, fun _ _ => List.forall_mem_nil _, rfl⟩
    · rintro ⟨-, -, -, rfl⟩
      rfl
  | cons x _ ih =>
    intro seen out
    rw [List.foldlM_cons, bind_eq_ok, List.forall_mem_cons, List.pairwise_cons]
    constructor
    · rintro ⟨taken, hx, hrest⟩
      obtain ⟨hP, hpre, rfl⟩ := (hcheck seen x taken).1 hx
      obtain ⟨hall, hpairs, hapart, rfl⟩ := ih.1 hrest
      refine ⟨⟨hP, hall⟩, ⟨?_, hpairs⟩, ?_, ?_⟩
      · exact hapart x (List.mem_append_right _ List.mem_cons_self)
      · intro y hy
        exact List.forall_mem_cons.2 ⟨hpre y hy, hapart y (List.mem_append_left _ hy)⟩
      · rw [List.append_assoc, List.singleton_append]
    · rintro ⟨⟨hP, hall⟩, ⟨hhead, hpairs⟩, hapart, rfl⟩
      refine ⟨seen ++ [x], (hcheck seen x _).2 ⟨hP, ?_, rfl⟩, ih.2 ⟨hall, hpairs, ?_, ?_⟩⟩
      · intro y hy
        exact hapart y hy x List.mem_cons_self
      · intro y hy z hz
        rcases List.mem_append.1 hy with hold | hnew
        · exact hapart y hold z (List.mem_cons_of_mem _ hz)
        · rw [List.mem_singleton.1 hnew]
          exact hhead z hz
      · rw [List.append_assoc, List.singleton_append]

/-! ## The first failure -/

/-- The computation returns something. -/
def Succeeds (x : Except ε α) : Prop :=
  ∃ a, x = .ok a

/-- The computation fails, and with a failure of interest. -/
def FailsWith (K : ε → Prop) (x : Except ε α) : Prop :=
  ∃ e, x = .error e ∧ K e

section FirstFailure

variable {K : ε → Prop}

theorem not_failsWith_ok {a : α} : ¬ FailsWith K (.ok a : Except ε α) := by
  rintro ⟨e, h, -⟩
  cases h

theorem failsWith_error {e : ε} : FailsWith K (.error e : Except ε α) ↔ K e := by
  constructor
  · rintro ⟨_, h, hK⟩
    cases h
    exact hK
  · intro hK
    exact ⟨e, rfl, hK⟩

variable {x : Except ε α} {f : α → Except ε β}

/-- **A sequence fails with the failure of its first part, or else of its second.** -/
theorem failsWith_bind :
    FailsWith K (x >>= f) ↔ FailsWith K x ∨ ∃ a, x = .ok a ∧ FailsWith K (f a) := by
  cases x with
  | error e =>
    have hbind : ((.error e : Except ε α) >>= f) = .error e := rfl
    rw [hbind, failsWith_error, failsWith_error]
    constructor
    · intro hK
      exact .inl hK
    · rintro (hK | ⟨a, h, -⟩)
      · exact hK
      · cases h
  | ok a =>
    have hbind : ((.ok a : Except ε α) >>= f) = f a := rfl
    rw [hbind]
    constructor
    · intro hf
      exact .inr ⟨a, rfl, hf⟩
    · rintro (hx | ⟨_, h, hf⟩)
      · exact absurd hx not_failsWith_ok
      · cases h
        exact hf

theorem not_failsWith_bind (hx : ¬ FailsWith K x) (hf : ∀ a, ¬ FailsWith K (f a)) :
    ¬ FailsWith K (x >>= f) := by
  rw [failsWith_bind]
  rintro (h | ⟨a, -, h⟩)
  · exact hx h
  · exact hf a h

/-- The first element that is not fine is off. -/
def FirstOff (fine off : α → Prop) : List α → Prop
  | [] => False
  | x :: xs => off x ∨ fine x ∧ FirstOff fine off xs

variable {xs : List α}

/-- **A mapped list fails with the first failure of its elements.** -/
theorem failsWith_mapM {off : α → Prop} (hf : ∀ x, FailsWith K (f x) ↔ off x) :
    FailsWith K (xs.mapM f) ↔ FirstOff (fun x => Succeeds (f x)) off xs := by
  induction xs with
  | nil => exact iff_of_false not_failsWith_ok id
  | cons _ xs ih =>
    rw [List.mapM_cons, failsWith_bind, hf, FirstOff]
    have hrest : ∀ y, FailsWith K (do let ys ← xs.mapM f; pure (y :: ys)) ↔ FailsWith K (xs.mapM f) := by
      intro y
      rw [failsWith_bind]
      constructor
      · rintro (h | ⟨_, -, h⟩)
        · exact h
        · exact absurd h not_failsWith_ok
      · exact .inl
    constructor
    · rintro (hoff | ⟨y, hy, h⟩)
      · exact .inl hoff
      · exact .inr ⟨⟨y, hy⟩, ih.1 ((hrest y).1 h)⟩
    · rintro (hoff | ⟨⟨y, hy⟩, h⟩)
      · exact .inl hoff
      · exact .inr ⟨y, hy, (hrest y).2 (ih.2 h)⟩

theorem not_failsWith_mapM (hf : ∀ x, ¬ FailsWith K (f x)) :
    ¬ FailsWith K (xs.mapM f) := by
  induction xs with
  | nil => exact not_failsWith_ok
  | cons x _ ih =>
    rw [List.mapM_cons]
    exact not_failsWith_bind (hf x) fun y => not_failsWith_bind ih fun ys => not_failsWith_ok

/-- One stage of a sequence: whether it succeeds, and whether it fails in the way of interest. -/
structure Stage where
  fine : Prop
  off : Prop

/-- The first stage that is not fine is off. -/
def Stage.FirstOff (stages : List Stage) : Prop :=
  Results.FirstOff Stage.fine Stage.off stages

/-- A stage that never fails in the way of interest. -/
def Stage.guard (x : Except ε α) : Stage :=
  ⟨Succeeds x, False⟩

variable {rest : List Stage}

/-- **Stage by stage.** -/
theorem failsWith_stage {off : Prop} (hx : FailsWith K x ↔ off)
    (hf : ∀ a, x = .ok a → (FailsWith K (f a) ↔ Stage.FirstOff rest)) :
    FailsWith K (x >>= f) ↔ Stage.FirstOff (⟨Succeeds x, off⟩ :: rest) := by
  rw [failsWith_bind, hx]
  constructor
  · rintro (hoff | ⟨a, ha, h⟩)
    · exact .inl hoff
    · exact .inr ⟨⟨a, ha⟩, (hf a ha).1 h⟩
  · rintro (hoff | ⟨⟨a, ha⟩, h⟩)
    · exact .inl hoff
    · exact .inr ⟨a, ha, (hf a ha).2 h⟩

theorem failsWith_guard (hx : ¬ FailsWith K x)
    (hf : ∀ a, x = .ok a → (FailsWith K (f a) ↔ Stage.FirstOff rest)) :
    FailsWith K (x >>= f) ↔ Stage.FirstOff (Stage.guard x :: rest) :=
  failsWith_stage (iff_of_false hx id) hf

theorem failsWith_nil (hx : ¬ FailsWith K x) : FailsWith K x ↔ Stage.FirstOff [] :=
  iff_of_false hx id

end FirstFailure

end Results
