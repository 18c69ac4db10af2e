import Mathlib.Data.List.Sort

/-!
# Pages cut by a key

A listing in descending order of a key is read page by page: each query takes the rows below the last key
of the page before, one more than a page holds, and there is a next page when there was one more. A key may
have several rows. The walk lists every key once exactly when a key with several rows stands at the end of
a page (`walk_iff`).
-/

set_option autoImplicit false

namespace KeysetPages

universe u

variable {α : Type u} [LinearOrder α]

/-! ## Pages and walks -/

/-- One page of the rows below the cursor, and the cursor of the next. -/
def page (rows : List α) (limit : Nat) (cursor : Option α) : List α × Option α :=
  let found := (rows.filter fun key => ∀ bound ∈ cursor, key < bound).take (limit + 1)
  (found.take limit, if limit < found.length then (found.take limit).getLast? else none)

/-- What the pages list, from a cursor until there is no next one. -/
inductive Walk (rows : List α) (limit : Nat) : Option α → List α → Prop
  | last {cursor : Option α} (h : (page rows limit cursor).2 = none) :
    Walk rows limit cursor (page rows limit cursor).1
  | more {cursor : Option α} {next : α} {listed : List α} (h : (page rows limit cursor).2 = some next)
      (hrest : Walk rows limit (some next) listed) :
    Walk rows limit cursor ((page rows limit cursor).1 ++ listed)

/-- The keys, each as often as it has rows. -/
def expand (count : α → Nat) (keys : List α) : List α :=
  keys.flatMap fun key => List.replicate (count key) key

/-- Each key with several rows is the last one of its page. -/
def EndsPages (count : α → Nat) (limit : Nat) (keys : List α) : Prop :=
  ∀ i key, keys[i]? = some key → 1 < count key → limit ∣ i + 1

/-! ## The rows of a page -/

variable {count : α → Nat} {keys front back rows : List α} {key : α} {limit : Nat} {cursor : Option α}

omit [LinearOrder α] in
/-- Single rows up to the last place of the page are the keys. -/
theorem take_expand (hcount : ∀ key ∈ keys, 1 ≤ count key)
    (hone : ∀ i key, keys[i]? = some key → i + 1 < limit → count key = 1) :
    (expand count keys).take limit = keys.take limit := by
  induction keys generalizing limit with
  | nil => rfl
  | cons k ks ih =>
    obtain _ | n := limit
    · rfl
    · obtain ⟨m, hm⟩ := Nat.exists_eq_add_of_le' (hcount k List.mem_cons_self)
      have hsplit : expand count (k :: ks) = k :: (List.replicate m k ++ expand count ks) := by
        rw [expand, List.flatMap_cons, hm, List.replicate_succ]
        rfl
      rw [hsplit, List.take_succ_cons, List.take_succ_cons]
      obtain _ | n := n
      · rfl
      · have hfirst := hone 0 k rfl (by omega)
        obtain rfl : m = 0 := by omega
        rw [List.replicate_zero, List.nil_append,
          ih (fun key hkey => hcount key (List.mem_cons_of_mem _ hkey))]
        intro i key hi hlt
        exact hone (i + 1) key hi (by omega)

omit [LinearOrder α] in
/-- Several rows before the last place of the page list a key twice. -/
theorem not_nodup_take_expand (hcount : ∀ key ∈ keys, 1 ≤ count key)
    (hmany : ∃ i key, keys[i]? = some key ∧ i + 1 < limit ∧ count key ≠ 1) :
    ¬ ((expand count keys).take limit).Nodup := by
  induction keys generalizing limit with
  | nil =>
    obtain ⟨i, _, hi, -⟩ := hmany
    cases hi
  | cons k ks ih =>
    obtain ⟨i, key, hi, _, hne⟩ := hmany
    obtain ⟨n, rfl⟩ : ∃ n, limit = n + 2 := Nat.exists_eq_add_of_le' (by omega)
    obtain ⟨m, hm⟩ := Nat.exists_eq_add_of_le' (hcount k List.mem_cons_self)
    rw [expand, List.flatMap_cons, hm]
    obtain _ | m := m
    · -- the first key has one row
      have hrest : ∃ i key, ks[i]? = some key ∧ i + 1 < n + 1 ∧ count key ≠ 1 := by
        obtain _ | i := i
        · cases hi
          exact absurd hm hne
        · exact ⟨i, key, hi, by omega, hne⟩
      intro hnodup
      exact ih (fun key hkey => hcount key (List.mem_cons_of_mem _ hkey)) hrest
        (List.nodup_cons.1 hnodup).2
    · intro hnodup
      exact (List.nodup_cons.1 hnodup).1 List.mem_cons_self

/-- The rows below a key are those of the keys after it. -/
theorem filter_expand (hkeys : (front ++ key :: back).Pairwise (· > ·)) :
    (expand count (front ++ key :: back)).filter (· < key) = expand count back := by
  obtain ⟨-, hback, hfront⟩ := List.pairwise_append.1 hkeys
  rw [expand, List.flatMap_append, List.flatMap_cons, List.filter_append, List.filter_append]
  have hpre : (front.flatMap fun key => List.replicate (count key) key).filter (· < key) = [] := by
    refine List.filter_eq_nil_iff.2 fun other hother => ?_
    obtain ⟨source, hsource, hrow⟩ := List.mem_flatMap.1 hother
    rw [List.eq_of_mem_replicate hrow, decide_eq_true_eq]
    exact lt_asymm (hfront source hsource key List.mem_cons_self)
  have hhere : (List.replicate (count key) key).filter (· < key) = [] := by
    refine List.filter_eq_nil_iff.2 fun other hother => ?_
    rw [List.eq_of_mem_replicate hother, decide_eq_true_eq]
    exact lt_irrefl key
  rw [hpre, hhere, List.nil_append, List.nil_append]
  refine List.filter_eq_self.2 fun other hother => ?_
  obtain ⟨source, hsource, hrow⟩ := List.mem_flatMap.1 hother
  rw [List.eq_of_mem_replicate hrow]
  exact decide_eq_true ((List.pairwise_cons.1 hback).1 source hsource)

omit [LinearOrder α] in
theorem length_le_expand (hcount : ∀ key ∈ keys, 1 ≤ count key) :
    keys.length ≤ (expand count keys).length := by
  induction keys with
  | nil => exact le_refl _
  | cons k _ ih =>
    have hfirst := hcount k List.mem_cons_self
    have hrest := ih fun key hkey => hcount key (List.mem_cons_of_mem _ hkey)
    rw [expand, List.flatMap_cons, List.length_append, List.length_replicate, List.length_cons]
    unfold expand at hrest
    omega

theorem mem_of_next (h : (page rows limit cursor).2 = some key) : key ∈ rows := by
  dsimp only [page] at h
  split at h
  · exact List.mem_of_mem_filter (List.mem_of_mem_take (List.mem_of_mem_take (List.mem_of_getLast? h)))
  · cases h

theorem sorted_expand (hkeys : keys.Pairwise (· > ·)) : (expand count keys).Pairwise (· ≥ ·) := by
  refine List.pairwise_flatMap.2 ⟨fun key _ => List.pairwise_replicate.2 (Or.inr (le_refl key)), ?_⟩
  refine hkeys.imp fun hlt other hother other' hother' => ?_
  rw [List.eq_of_mem_replicate hother, List.eq_of_mem_replicate hother']
  exact le_of_lt hlt

/-! ## The walk -/

theorem walk_iff_of_none {listed : List α} (h : (page rows limit cursor).2 = none) :
    Walk rows limit cursor listed ↔ listed = (page rows limit cursor).1 := by
  constructor
  · intro hwalk
    cases hwalk with
    | last => rfl
    | more hnext => cases h.symm.trans hnext
  · rintro rfl
    exact .last h

theorem walk_iff_of_some {listed : List α} (h : (page rows limit cursor).2 = some key) :
    Walk rows limit cursor listed ↔
      ∃ rest, Walk rows limit (some key) rest ∧ listed = (page rows limit cursor).1 ++ rest := by
  constructor
  · intro hwalk
    cases hwalk with
    | last hnone => cases hnone.symm.trans h
    | more hnext hrest =>
      obtain rfl := Option.some.inj (h.symm.trans hnext)
      exact ⟨_, hrest, rfl⟩
  · rintro ⟨_, hrest, rfl⟩
    exact .more h hrest

/-- A walk lists rows. -/
theorem mem_of_walk {listed : List α} (h : Walk rows limit cursor listed) (hkey : key ∈ listed) :
    key ∈ rows := by
  have hpage : ∀ {cursor}, key ∈ (page rows limit cursor).1 → key ∈ rows := fun hmem =>
    List.mem_of_mem_filter (List.mem_of_mem_take (List.mem_of_mem_take hmem))
  induction h with
  | last => exact hpage hkey
  | more _ _ ih => exact (List.mem_append.1 hkey).elim hpage ih

/-- The rows below a key that is below the cursor. -/
theorem filter_below (hkey : ∀ bound ∈ cursor, key < bound) :
    (rows.filter fun other => ∀ bound ∈ some key, other < bound) =
      (rows.filter fun other => ∀ bound ∈ cursor, other < bound).filter (· < key) := by
  rw [List.filter_filter]
  refine List.filter_congr fun other _ => ?_
  rw [← Bool.decide_and, decide_eq_decide]
  constructor
  · intro h
    exact ⟨h key rfl, fun bound hbound => (h key rfl).trans (hkey bound hbound)⟩
  · rintro ⟨h, -⟩ _ hbound
    cases hbound
    exact h

omit [LinearOrder α] in
theorem endsPages_drop (hone : ∀ i key, keys[i]? = some key → i + 1 < limit → count key = 1) :
    EndsPages count limit (keys.drop limit) ↔ EndsPages count limit keys := by
  constructor
  · intro h i key hi hmany
    obtain hlt | rfl | hge : i + 1 < limit ∨ i + 1 = limit ∨ limit ≤ i := by omega
    · have := hone i key hi hlt
      omega
    · exact Nat.dvd_refl _
    · have hdvd := h (i - limit) key (by rw [List.getElem?_drop, Nat.add_sub_cancel' hge, hi]) hmany
      have hsum : i + 1 = limit + (i - limit + 1) := by omega
      rw [hsum]
      exact (Nat.dvd_add_right (Nat.dvd_refl _)).2 hdvd
  · intro h i key hi hmany
    rw [List.getElem?_drop] at hi
    have hdvd := h (limit + i) key hi hmany
    rw [Nat.add_assoc] at hdvd
    exact (Nat.dvd_add_right (Nat.dvd_refl _)).1 hdvd

/-- **The walk from a cursor**, with the keys that are left below it. -/
theorem walk_from_iff (n : Nat) (hn : keys.length ≤ n) (hkeys : keys.Pairwise (· > ·))
    (hcount : ∀ key ∈ keys, 1 ≤ count key) (hlimit : 0 < limit)
    (hrows : (rows.filter fun key => ∀ bound ∈ cursor, key < bound) = expand count keys) :
    Walk rows limit cursor keys ↔ EndsPages count limit keys := by
  induction n generalizing keys cursor with
  | zero =>
    obtain rfl := List.eq_nil_of_length_eq_zero (Nat.le_zero.1 hn)
    refine iff_of_true ?_ fun i key hi => nomatch hi
    have hpage : page rows limit cursor = ([], none) := by
      simp only [page, hrows, expand, List.flatMap_nil, List.take_nil, List.length_nil, Nat.not_lt_zero,
        if_false]
    rw [walk_iff_of_none (by rw [hpage]), hpage]
  | succ _ ih =>
    have hfst : (page rows limit cursor).1 = (expand count keys).take limit := by
      simp only [page, hrows, List.take_take, Nat.min_eq_left (Nat.le_succ limit)]
    by_cases hone : ∀ i key, keys[i]? = some key → i + 1 < limit → count key = 1
    · rw [take_expand hcount hone] at hfst
      by_cases hlong : limit < (expand count keys).length
      · -- a full page, and the rows of the keys after it
        have hlen : limit ≤ keys.length := by
          have h := congrArg List.length (take_expand hcount hone)
          rw [List.length_take, List.length_take] at h
          omega
        obtain ⟨front, key, hfront⟩ : ∃ front key, keys.take limit = front ++ [key] := by
          have hne : keys.take limit ≠ [] := by
            rw [← List.length_pos_iff, List.length_take]
            omega
          exact ⟨_, _, (List.dropLast_concat_getLast hne).symm⟩
        have hsplit : keys = front ++ key :: keys.drop limit := by
          conv_lhs => rw [← List.take_append_drop limit keys, hfront]
          rw [List.append_assoc]
          rfl
        have hsnd : (page rows limit cursor).2 = some key := by
          have hbelow : limit < ((expand count keys).take (limit + 1)).length := by
            rw [List.length_take]
            omega
          have hpage : (page rows limit cursor).2 = (page rows limit cursor).1.getLast? := by
            simp only [page, hrows, if_pos hbelow]
          rw [hpage, hfst, hfront, List.getLast?_concat]
        have hnext : (rows.filter fun other => ∀ bound ∈ some key, other < bound) =
            expand count (keys.drop limit) := by
          have hkey : ∀ bound ∈ cursor, key < bound := by
            have hmem : key ∈ expand count keys := by
              refine List.mem_flatMap.2 ⟨key, ?_, List.mem_replicate.2 ⟨?_, rfl⟩⟩
              · rw [hsplit]
                exact List.mem_append_right _ List.mem_cons_self
              · refine Nat.one_le_iff_ne_zero.1 (hcount key ?_)
                rw [hsplit]
                exact List.mem_append_right _ List.mem_cons_self
            rw [← hrows] at hmem
            exact of_decide_eq_true (List.mem_filter.1 hmem).2
          have hcut : (expand count keys).filter (· < key) = expand count (keys.drop limit) := by
            conv_lhs => rw [hsplit]
            exact filter_expand (hsplit ▸ hkeys)
          rw [← hcut, ← hrows, filter_below hkey]
        have hrest := ih (by rw [List.length_drop]; omega) (hkeys.drop) (fun other hother =>
          hcount other (List.mem_of_mem_drop hother)) hnext
        rw [← endsPages_drop hone, ← hrest]
        rw [walk_iff_of_some hsnd, hfst]
        constructor
        · rintro ⟨_, _, heq⟩
          rwa [List.append_cancel_left ((List.take_append_drop limit keys).trans heq)]
        · intro hwalk
          exact ⟨_, hwalk, (List.take_append_drop limit keys).symm⟩
      · -- the last page
        have hall : keys.length ≤ limit := (length_le_expand hcount).trans (not_lt.1 hlong)
        have hsnd : (page rows limit cursor).2 = none := by
          simp only [page, hrows, List.length_take]
          exact if_neg (by omega)
        refine iff_of_true ?_ ?_
        · rw [walk_iff_of_none hsnd, hfst, List.take_of_length_le hall]
        · intro i key hi hmany
          obtain hlt | _ := Nat.lt_or_ge (i + 1) limit
          · have := hone i key hi hlt
            omega
          · obtain ⟨hi, -⟩ := List.getElem?_eq_some_iff.1 hi
            obtain rfl : i + 1 = limit := by omega
            exact Nat.dvd_refl _
    · -- a key stands twice on the page
      push Not at hone
      refine iff_of_false ?_ ?_
      · intro hwalk
        have hnodup : keys.Nodup := hkeys.imp fun h => (ne_of_lt h).symm
        have hpage : ((page rows limit cursor).1).Nodup := by
          generalize keys = listed at hwalk hnodup
          cases hwalk with
          | last => exact hnodup
          | more => exact (List.nodup_append.1 hnodup).1
        rw [hfst] at hpage
        exact not_nodup_take_expand hcount hone hpage
      · intro h
        obtain ⟨i, key, hi, _, _⟩ := hone
        have hmany : 1 < count key := by
          have := hcount key (List.mem_of_getElem? hi)
          omega
        exact absurd (Nat.le_of_dvd (Nat.succ_pos i) (h i key hi hmany)) (by omega)

/-- **When a walk lists every key once.** -/
theorem walk_iff (hkeys : keys.Pairwise (· > ·)) (hcount : ∀ key ∈ keys, 1 ≤ count key)
    (hlimit : 0 < limit) :
    Walk (expand count keys) limit none keys ↔ EndsPages count limit keys := by
  refine walk_from_iff keys.length (le_refl _) hkeys hcount hlimit ?_
  exact List.filter_eq_self.2 fun key _ => decide_eq_true fun bound hbound => nomatch hbound

end KeysetPages
