import CreditOps.Assessments.RiskReviewDomain

/-!
# Paths of items

An item of an assessment is addressed by the name of its section and its position. An enumeration of the
items goes over families, each with a name and its items in order. When the names are distinct and have
no bracket in them, a path addresses one item (`locateAll_nodup`).
-/

set_option autoImplicit false

namespace CreditOps.Assessments.RiskReview

/-- A family of items: the name of its section, and what is read of each item. -/
abbrev Family (α : Type) := String × List α

/-- The items of the families, each with its path. -/
def locateAll {α : Type} (families : List (Family α)) : List (String × α) :=
  families.flatMap fun family => located family.1 family.2 fun item => item

theorem located_map {α β : Type} (name : String) (items : List α) (f : α → β) :
    located name (items.map f) (fun item => item) = located name items f := by
  unfold located
  rw [List.zipIdx_map, List.map_map]
  rfl

theorem locateAll_append {α : Type} (families more : List (Family α)) :
    locateAll (families ++ more) = locateAll families ++ locateAll more :=
  List.flatMap_append

/-! ## A path determines its section and its position -/

theorem toList_path (name : String) (i : Nat) :
    (name ++ "[" ++ toString i ++ "]").toList =
      name.toList ++ '[' :: (Nat.toDigits 10 i ++ [']']) := by
  rw [String.toList_append, String.toList_append, String.toList_append, Nat.toString_eq_repr,
    Nat.toList_repr]
  simp

theorem takeWhile_path {name : List Char} (rest : List Char) (h : '[' ∉ name) :
    (name ++ '[' :: rest).takeWhile (· ≠ '[') = name := by
  induction name with
  | nil => rfl
  | cons c _ ih =>
    rw [List.mem_cons, not_or] at h
    have hc : decide (c ≠ '[') = true := decide_eq_true fun heq => h.1 heq.symm
    rw [List.cons_append, List.takeWhile_cons, if_pos hc, ih h.2]

theorem path_inj {name other : String} {i j : Nat} (hname : '[' ∉ name.toList)
    (hother : '[' ∉ other.toList)
    (h : name ++ "[" ++ toString i ++ "]" = other ++ "[" ++ toString j ++ "]") :
    name = other ∧ i = j := by
  have hchars := congrArg String.toList h
  rw [toList_path, toList_path] at hchars
  have hsec : name.toList = other.toList := by
    rw [← takeWhile_path (Nat.toDigits 10 i ++ [']']) hname, hchars, takeWhile_path _ hother]
  refine ⟨String.toList_inj.1 hsec, ?_⟩
  rw [hsec] at hchars
  have hdigits : Nat.toDigits 10 i = Nat.toDigits 10 j :=
    List.append_cancel_right (List.cons.inj (List.append_cancel_left hchars)).2
  rw [← Nat.ofDigitChars_ten_toDigits (n := i), hdigits, Nat.ofDigitChars_ten_toDigits]

/-! ## Paths of different items differ -/

theorem mem_located {α β : Type} {name : String} {items : List α} {f : α → β} {entry : String × β}
    (h : entry ∈ located name items f) : ∃ (i : Nat) (item : α), items[i]? = some item ∧
      entry = (name ++ "[" ++ toString i ++ "]", f item) := by
  obtain ⟨⟨item, i⟩, hmem, rfl⟩ := List.mem_map.1 h
  exact ⟨i, item, List.mem_zipIdx_iff_getElem?.1 hmem, rfl⟩

theorem located_nodup {α β : Type} {name : String} (hname : '[' ∉ name.toList) (items : List α)
    (f : α → β) : ((located name items f).map (·.1)).Nodup := by
  unfold located
  rw [List.map_map]
  apply List.Nodup.map_on
  · rintro ⟨item, i⟩ hitem ⟨other, j⟩ hother heq
    have hitem' : items[i]? = some item := List.mem_zipIdx_iff_getElem?.1 hitem
    have hother' : items[j]? = some other := List.mem_zipIdx_iff_getElem?.1 hother
    have hij : i = j := (path_inj hname hname heq).2
    -- one position holds one item
    rw [hij, hother'] at hitem'
    rw [hij, Option.some.inj hitem']
  · exact List.Nodup.of_map (·.2) (by rw [List.zipIdx_map_snd]; exact List.nodup_range')

/-- The names of the families are distinct and plain. -/
def PlainNames {α : Type} (families : List (Family α)) : Prop :=
  (families.map (·.1)).Nodup ∧ ∀ name ∈ families.map (·.1), '[' ∉ name.toList

theorem PlainNames.left_of_append {α : Type} {families more : List (Family α)}
    (h : PlainNames (families ++ more)) : PlainNames families := by
  obtain ⟨hnodup, hplain⟩ := h
  rw [List.map_append] at hnodup hplain
  exact ⟨(List.nodup_append.1 hnodup).1, fun name hname => hplain name (List.mem_append_left _ hname)⟩

/-- **A path addresses one item.** -/
theorem locateAll_nodup {α : Type} {families : List (Family α)} (h : PlainNames families) :
    ((locateAll families).map (·.1)).Nodup := by
  induction families with
  | nil => exact List.nodup_nil
  | cons family rest ih =>
    obtain ⟨hnodup, hplain⟩ := h
    rw [List.map_cons, List.nodup_cons] at hnodup
    rw [List.map_cons, List.forall_mem_cons] at hplain
    have hsplit : locateAll (family :: rest) =
        located family.1 family.2 (fun item => item) ++ locateAll rest := rfl
    rw [hsplit, List.map_append]
    apply List.Nodup.append (located_nodup hplain.1 _ _) (ih ⟨hnodup.2, hplain.2⟩)
    -- a path of this family is no path of another
    intro path hhere hthere
    obtain ⟨_, hentry, rfl⟩ := List.mem_map.1 hhere
    obtain ⟨_, hentry', hpath⟩ := List.mem_map.1 hthere
    obtain ⟨_, hother, hin⟩ := List.mem_flatMap.1 hentry'
    obtain ⟨i, _, -, rfl⟩ := mem_located hentry
    obtain ⟨j, _, -, rfl⟩ := mem_located hin
    have hmem := List.mem_map_of_mem (f := Prod.fst) hother
    obtain ⟨hname, -⟩ := path_inj (hplain.2 _ hmem) hplain.1 hpath
    apply hnodup.1
    rw [← hname]
    exact hmem

end CreditOps.Assessments.RiskReview
