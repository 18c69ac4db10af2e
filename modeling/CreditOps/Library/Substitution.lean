import Mathlib.Data.List.Forall2
import Mathlib.Data.List.Infix

/-!
# Substituting the matches of a pattern

`re.sub` and `str.replace`: from left to right, each match is replaced and the search goes on behind it. What
a match is at the head of a text is a parameter, the number of elements it takes.
-/

set_option autoImplicit false

universe u

namespace Substitution

variable {α : Type u}

/-! ## Substitution -/

/-- Replace every match, with the number of elements of a match still to drop. -/
def substitute (matchAt : List α → Option Nat) (replacement : List α) : Nat → List α → List α
  | _, [] => []
  | skip + 1, _ :: cs => substitute matchAt replacement skip cs
  | 0, c :: cs =>
    match matchAt (c :: cs) with
    | some n => replacement ++ substitute matchAt replacement (n - 1) cs
    | none => c :: substitute matchAt replacement 0 cs

/-- A word at the head of a text. -/
def wordAt [DecidableEq α] (word text : List α) : Option Nat :=
  if word.isPrefixOf text then some word.length else none

/-- `text.replace(word, replacement)` -/
def replaceWord [DecidableEq α] (word replacement text : List α) : List α :=
  substitute (wordAt word) replacement 0 text

variable {matchAt : List α → Option Nat} {replacement word : List α}

theorem substitute_skip (skip : Nat) (text : List α) :
    substitute matchAt replacement skip text = substitute matchAt replacement 0 (text.drop skip) := by
  induction text generalizing skip with
  | nil => cases skip <;> rfl
  | cons _ _ ih =>
    cases skip with
    | zero => rfl
    | succ skip => exact ih skip

variable {c : α} {cs text : List α}

theorem substitute_of_some {n : Nat} (h : matchAt (c :: cs) = some n) :
    substitute matchAt replacement 0 (c :: cs) =
      replacement ++ substitute matchAt replacement (n - 1) cs := by
  rw [substitute, h]

theorem substitute_of_none (h : matchAt (c :: cs) = none) :
    substitute matchAt replacement 0 (c :: cs) = c :: substitute matchAt replacement 0 cs := by
  rw [substitute, h]

/-! ## Words apart -/

/-- No end of the word begins the other, or begins with it. -/
def NoOverlap (word other : List α) : Prop :=
  ∀ tail ∈ word.tails, tail ≠ [] → ¬ tail <+: other ∧ ¬ other <+: tail

instance [DecidableEq α] (word other : List α) : Decidable (NoOverlap word other) :=
  inferInstanceAs (Decidable (∀ tail ∈ word.tails, _))

/-- The words cannot share an element of a text. -/
def Apart (word other : List α) : Prop :=
  NoOverlap word other ∧ NoOverlap other word

instance [DecidableEq α] (word other : List α) : Decidable (Apart word other) :=
  inferInstanceAs (Decidable (_ ∧ _))

/-- Where a word apart from the replacement begins in the result, it begins in the text. -/
theorem prefix_of_prefix_substitute (h : NoOverlap word replacement) {tail : List α} {skip : Nat}
    (htail : tail <:+ word) (hpre : tail <+: substitute matchAt replacement skip text) :
    tail <+: text.drop skip := by
  induction text generalizing tail skip with
  | nil =>
    cases skip <;> exact hpre
  | cons c cs ih =>
    cases skip with
    | succ => exact ih htail hpre
    | zero =>
      cases tail with
      | nil => exact List.nil_prefix
      | cons d tail =>
        cases hmatch : matchAt (c :: cs) with
        | some =>
          -- the word would begin inside the replacement
          rw [substitute_of_some hmatch] at hpre
          obtain ⟨hbegins, hcontains⟩ := h (d :: tail) ((List.mem_tails _ _).2 htail) (List.cons_ne_nil _ _)
          rcases List.prefix_or_prefix_of_prefix hpre (List.prefix_append _ _) with hshort | hlong
          · exact absurd hshort hbegins
          · exact absurd hlong hcontains
        | none =>
          rw [substitute_of_none hmatch] at hpre
          obtain ⟨heq, hrest⟩ := List.cons_prefix_cons.1 hpre
          exact List.cons_prefix_cons.2 ⟨heq, ih ((List.suffix_cons d tail).trans htail) hrest⟩

/-- **A word apart from the replacement occurs only where it occurred and was not matched.** -/
theorem exists_unmatched_of_infix (hword : word ≠ []) (h : Apart word replacement) {skip : Nat}
    (hseg : word <:+: substitute matchAt replacement skip text) :
    ∃ rest, rest <:+ text ∧ word <+: rest ∧ matchAt rest = none := by
  induction text generalizing skip with
  | nil =>
    have hnil : substitute matchAt replacement skip [] = [] := by cases skip <;> rfl
    rw [hnil] at hseg
    exact absurd (List.infix_nil.1 hseg) hword
  | cons c cs ih =>
    -- what is found behind the first element is found in the whole text
    have hbehind : ∀ k, word <:+: substitute matchAt replacement k cs →
        ∃ rest, rest <:+ c :: cs ∧ word <+: rest ∧ matchAt rest = none := by
      intro k hk
      obtain ⟨rest, hsfx, hpre, hnone⟩ := ih hk
      exact ⟨rest, hsfx.trans (List.suffix_cons c cs), hpre, hnone⟩
    cases skip with
    | succ skip => exact hbehind skip hseg
    | zero =>
      cases hmatch : matchAt (c :: cs) with
      | some n =>
        rw [substitute_of_some hmatch] at hseg
        rcases List.infix_append_iff_ne_nil.1 hseg with
          hinside | hlater | ⟨front, back, hfront, -, rfl, hends, -⟩
        · -- the word would lie inside the replacement
          obtain ⟨tail, hpre, hsfx⟩ := List.infix_iff_prefix_suffix.1 hinside
          have htail : tail ≠ [] := by
            rintro rfl
            exact hword (List.prefix_nil.1 hpre)
          exact absurd hpre (h.2 tail ((List.mem_tails _ _).2 hsfx) htail).2
        · exact hbehind (n - 1) hlater
        · -- the word would begin inside the replacement and end behind it
          exact absurd (List.prefix_append front back) (h.2 front ((List.mem_tails _ _).2 hends) hfront).1
      | none =>
        rw [substitute_of_none hmatch] at hseg
        rcases List.infix_cons_iff.1 hseg with _ | hlater
        · have hkept : word <+: substitute matchAt replacement 0 (c :: cs) := by
            rwa [substitute_of_none hmatch]
          exact ⟨c :: cs, List.suffix_refl _, prefix_of_prefix_substitute h.1 (List.suffix_refl word) hkept,
            hmatch⟩
        · exact hbehind 0 hlater

/-- **A word apart from the replacement occurs only where it occurred.** -/
theorem infix_of_infix_substitute (h : Apart word replacement) {skip : Nat}
    (hseg : word <:+: substitute matchAt replacement skip text) : word <:+: text := by
  by_cases hword : word = []
  · subst hword
    exact List.nil_infix
  · obtain ⟨_, hsfx, hpre, -⟩ := exists_unmatched_of_infix hword h hseg
    exact hpre.isInfix.trans hsfx.isInfix

/-- **A word replaced by one it is apart from does not occur any more.** -/
theorem not_infix_replaceWord [DecidableEq α] (hword : word ≠ []) (h : Apart word replacement) (text : List α) :
    ¬ word <:+: replaceWord word replacement text := by
  intro hseg
  obtain ⟨_, -, hpre, hnone⟩ := exists_unmatched_of_infix hword h hseg
  rw [wordAt, if_pos (List.isPrefixOf_iff_prefix.2 hpre)] at hnone
  cases hnone

/-- The elements of the text stand in the result, each itself or as the replacement has it. -/
theorem forall₂_replaceWord [DecidableEq α] {R : α → α → Prop} (hrefl : ∀ a, R a a)
    (hreplace : List.Forall₂ R word replacement) (hword : word ≠ []) (text : List α) :
    List.Forall₂ R text (replaceWord word replacement text) := by
  suffices hsuffices : ∀ n (text : List α), text.length ≤ n →
      List.Forall₂ R text (replaceWord word replacement text) from hsuffices text.length text (Nat.le_refl _)
  intro n
  induction n with
  | zero =>
    intro text hn
    obtain rfl := List.eq_nil_of_length_eq_zero (Nat.le_zero.1 hn)
    exact .nil
  | succ n ih =>
    intro text hn
    cases text with
    | nil => exact .nil
    | cons c cs =>
      have hcs : cs.length ≤ n := Nat.le_of_succ_le_succ hn
      cases hmatch : wordAt word (c :: cs) with
      | none =>
        rw [replaceWord, substitute_of_none hmatch]
        exact .cons (hrefl c) (ih cs hcs)
      | some k =>
        have hpre : word <+: c :: cs := by
          by_contra hnot
          rw [wordAt, if_neg fun hp => hnot (List.isPrefixOf_iff_prefix.1 hp)] at hmatch
          cases hmatch
        have hk : k = word.length := by
          rw [wordAt, if_pos (List.isPrefixOf_iff_prefix.2 hpre)] at hmatch
          exact (Option.some.inj hmatch).symm
        obtain ⟨rest, hrest⟩ := hpre
        have hdrop : cs.drop (k - 1) = rest := by
          cases word with
          | nil => exact absurd rfl hword
          | cons =>
            obtain ⟨-, hcs'⟩ := List.cons.inj hrest
            rw [hk, ← hcs']
            exact List.drop_left
        have hlen : rest.length ≤ n := by
          rw [← hdrop, List.length_drop]
          exact Nat.le_trans (Nat.sub_le _ _) hcs
        rw [replaceWord, substitute_of_some hmatch, substitute_skip, hdrop, ← hrest]
        exact List.rel_append hreplace (ih rest hlen)

/-! ## Removal -/

/-- What removing the matches keeps of a text, with the text that stands behind it. -/
def keptFront (matchAt : List α → Option Nat) (behind : List α) : Nat → List α → List α
  | _, [] => []
  | skip + 1, _ :: cs => keptFront matchAt behind skip cs
  | 0, c :: cs =>
    match matchAt (c :: cs ++ behind) with
    | some n => keptFront matchAt behind (n - 1) cs
    | none => c :: keptFront matchAt behind 0 cs

/-- How far the last match of a text reaches into the text that stands behind it. -/
def leftover (matchAt : List α → Option Nat) (behind : List α) : Nat → List α → Nat
  | skip, [] => skip
  | skip + 1, _ :: cs => leftover matchAt behind skip cs
  | 0, c :: cs =>
    match matchAt (c :: cs ++ behind) with
    | some n => leftover matchAt behind (n - 1) cs
    | none => leftover matchAt behind 0 cs

variable {front behind : List α} {skip : Nat}

/-- **The front and what stands behind it.** -/
theorem substitute_append (skip : Nat) (front behind : List α) :
    substitute matchAt [] skip (front ++ behind) =
      keptFront matchAt behind skip front ++
        substitute matchAt [] (leftover matchAt behind skip front) behind := by
  induction front generalizing skip with
  | nil => cases skip <;> rfl
  | cons c cs ih =>
    cases skip with
    | succ skip => exact ih skip
    | zero =>
      rw [List.cons_append, substitute, keptFront, leftover, List.cons_append]
      cases matchAt (c :: (cs ++ behind)) with
      | some n => exact ih (n - 1)
      | none => exact congrArg _ (ih 0)

theorem keptFront_skip (skip : Nat) (front : List α) :
    keptFront matchAt behind skip front = keptFront matchAt behind 0 (front.drop skip) := by
  induction front generalizing skip with
  | nil => cases skip <;> rfl
  | cons _ _ ih =>
    cases skip with
    | zero => rfl
    | succ skip => exact ih skip

theorem keptFront_sublist (matchAt : List α → Option Nat) (behind : List α) (skip : Nat) (front : List α) :
    (keptFront matchAt behind skip front).Sublist front := by
  induction front generalizing skip with
  | nil => cases skip <;> exact .slnil
  | cons c cs ih =>
    cases skip with
    | succ skip => exact (ih skip).cons c
    | zero =>
      rw [keptFront]
      cases matchAt (c :: cs ++ behind) with
      | some n => exact (ih (n - 1)).cons c
      | none => exact (ih 0).cons_cons c

theorem removed_sublist (skip : Nat) (text : List α) : (substitute matchAt [] skip text).Sublist text := by
  have hall := keptFront_sublist matchAt [] skip text
  have hsplit : substitute matchAt [] skip (text ++ []) = _ := substitute_append skip text []
  have hnil : ∀ k, substitute matchAt [] k ([] : List α) = [] := by
    intro k
    cases k <;> rfl
  rw [List.append_nil, hnil, List.append_nil] at hsplit
  rwa [hsplit]

/-- A front is kept whole where no match begins in it. -/
theorem keptFront_zero_eq_self_iff (front : List α) :
    keptFront matchAt behind 0 front = front ↔
      ∀ rest, rest ≠ [] → rest <:+ front → matchAt (rest ++ behind) = none := by
  induction front with
  | nil =>
    refine iff_of_true rfl fun rest hrest hsfx => ?_
    exact absurd (List.suffix_nil.1 hsfx) hrest
  | cons c cs ih =>
    rw [keptFront]
    cases hhere : matchAt (c :: cs ++ behind) with
    | some n =>
      dsimp only
      constructor
      · intro h
        -- the element at which the match begins is gone
        have hlen := (keptFront_sublist matchAt behind (n - 1) cs).length_le
        rw [h, List.length_cons] at hlen
        exact absurd hlen (Nat.not_succ_le_self _)
      · intro h
        have hnone := h (c :: cs) (List.cons_ne_nil _ _) (List.suffix_refl _)
        rw [hhere] at hnone
        cases hnone
    | none =>
      dsimp only
      rw [List.cons_inj_right, ih]
      constructor
      · intro h rest hrest hsfx
        rcases List.suffix_cons_iff.1 hsfx with rfl | hbehind
        · exact hhere
        · exact h rest hrest hbehind
      · intro h rest hrest hsfx
        exact h rest hrest (hsfx.trans (List.suffix_cons c cs))

/-- **A front is kept whole where no match reaches into it and none begins in it.** -/
theorem keptFront_eq_self_iff (hfront : front ≠ []) :
    keptFront matchAt behind skip front = front ↔
      skip = 0 ∧ ∀ rest, rest ≠ [] → rest <:+ front → matchAt (rest ++ behind) = none := by
  rw [← keptFront_zero_eq_self_iff]
  constructor
  · intro h
    have hskip : skip = 0 := by
      have hlen := (keptFront_sublist matchAt behind 0 (front.drop skip)).length_le
      rw [← keptFront_skip, h, List.length_drop] at hlen
      have hpos := List.length_pos_iff.2 hfront
      omega
    subst hskip
    exact ⟨rfl, h⟩
  · rintro ⟨rfl, h⟩
    exact h

/-! ## Occurrences -/

/-- How often a word occurs in a text. -/
def occurrences [DecidableEq α] (word : List α) : List α → Nat
  | [] => if word = [] then 1 else 0
  | c :: cs => (if word.isPrefixOf (c :: cs) then 1 else 0) + occurrences word cs

theorem occurrences_eq_zero_iff [DecidableEq α] (hword : word ≠ []) (text : List α) :
    occurrences word text = 0 ↔ ¬ word <:+: text := by
  induction text with
  | nil =>
    rw [occurrences, if_neg hword, List.infix_nil]
    exact iff_of_true rfl hword
  | cons c cs ih =>
    rw [occurrences, Nat.add_eq_zero_iff, ih, List.infix_cons_iff, not_or, ← List.isPrefixOf_iff_prefix]
    by_cases hhere : word.isPrefixOf (c :: cs) = true
    · rw [if_pos hhere]
      exact iff_of_false (fun h => absurd h.1 Nat.one_ne_zero) fun h => h.1 hhere
    · rw [if_neg hhere]
      exact and_congr_left fun _ => iff_of_true rfl hhere

theorem prefix_append_cons_iff (hc : c ∉ word) (text rest : List α) :
    word <+: text ++ c :: rest ↔ word <+: text := by
  constructor
  · intro h
    rcases List.prefix_or_prefix_of_prefix h (List.prefix_append text (c :: rest)) with hshort | ⟨more, rfl⟩
    · exact hshort
    · cases more with
      | nil =>
        rw [List.append_nil]
      | cons =>
        obtain ⟨hd, -⟩ := List.cons_prefix_cons.1 ((List.prefix_append_right_inj text).1 h)
        subst hd
        exact absurd (List.mem_append_right text List.mem_cons_self) hc
  · intro h
    exact h.trans (List.prefix_append text (c :: rest))

/-- **On two sides of an element a word does not have, its occurrences are counted apart.** -/
theorem occurrences_append_cons [DecidableEq α] (hc : c ∉ word) (hword : word ≠ []) (text rest : List α) :
    occurrences word (text ++ c :: rest) = occurrences word text + occurrences word rest := by
  induction text with
  | nil =>
    have hnot : ¬ word.isPrefixOf (c :: rest) = true := by
      rw [List.isPrefixOf_iff_prefix]
      intro h
      exact hword (List.prefix_nil.1 ((prefix_append_cons_iff hc [] rest).1 h))
    rw [List.nil_append, occurrences.eq_2, if_neg hnot, occurrences.eq_1, if_neg hword]
  | cons d text ih =>
    have hhere : word.isPrefixOf (d :: (text ++ c :: rest)) = word.isPrefixOf (d :: text) := by
      rw [Bool.eq_iff_iff, List.isPrefixOf_iff_prefix, List.isPrefixOf_iff_prefix]
      exact prefix_append_cons_iff hc (d :: text) rest
    rw [List.cons_append, occurrences.eq_2, occurrences.eq_2, ih, hhere, Nat.add_assoc]

end Substitution
