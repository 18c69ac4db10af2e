import Mathlib.Data.Nat.Basic
import CreditOps.Library.Results

/-!
# Dates

The dates of the proleptic Gregorian calendar from year 1 to year 9999, as `datetime.date` has them. A
date carries the ranges of its parts, so a day that does not exist cannot be built; shifting a date by
months fails exactly when the year leaves the range (`addMonths_isSome_iff`). The shifted date is that
many months after the anchor's month and clamped to its length (`addMonths_eq_some_iff`), so dates shifted
by more and more months grow, and a short month shortens itself only (`keepsAnchor_of_each`).
-/

set_option autoImplicit false

namespace CreditOps

/-- `calendar.isleap` -/
def isLeap (year : Nat) : Bool :=
  year % 4 = 0 ∧ (year % 100 ≠ 0 ∨ year % 400 = 0)

/-- `calendar.monthrange(year, month)[1]` -/
def daysInMonth (year month : Nat) : Nat :=
  if month = 2 then if isLeap year then 29 else 28
  else if month = 4 ∨ month = 6 ∨ month = 9 ∨ month = 11 then 30
  else 31

/-- `datetime.date` -/
structure Date where
  year : Nat
  month : Nat
  day : Nat
  yearInRange : 1 ≤ year ∧ year ≤ 9999
  monthInRange : 1 ≤ month ∧ month ≤ 12
  dayInRange : 1 ≤ day ∧ day ≤ daysInMonth year month
deriving DecidableEq

namespace Date

/-- `date(year, month, day)`; none where it raises `ValueError`. -/
def ofParts (year month day : Nat) : Option Date :=
  if h : (1 ≤ year ∧ year ≤ 9999) ∧ (1 ≤ month ∧ month ≤ 12) ∧ 1 ≤ day ∧ day ≤ daysInMonth year month
  then some ⟨year, month, day, h.1, h.2.1, h.2.2⟩
  else none

/-- A number that grows with the date. -/
def serial (date : Date) : Nat :=
  (date.year * 13 + date.month) * 32 + date.day

instance : LE Date :=
  ⟨fun a b => a.serial ≤ b.serial⟩

instance : DecidableLE Date :=
  fun a b => inferInstanceAs (Decidable (a.serial ≤ b.serial))

/-- A number with leading zeros. -/
def padded (width n : Nat) : String :=
  String.ofList (List.replicate (width - (toString n).length) '0') ++ toString n

/-- `date.isoformat()` -/
def isoformat (date : Date) : String :=
  padded 4 date.year ++ "-" ++ padded 2 date.month ++ "-" ++ padded 2 date.day

/-- `_add_months`: the day is clamped to the length of the month. -/
def addMonths (anchor : Date) (months : Nat) : Option Date :=
  let total := anchor.month - 1 + months
  let year := anchor.year + total / 12
  let month := total % 12 + 1
  ofParts year month (min anchor.day (daysInMonth year month))

theorem one_le_daysInMonth (year month : Nat) : 1 ≤ daysInMonth year month := by
  unfold daysInMonth
  split_ifs <;> omega

/-- **When a shifted date exists.** -/
theorem addMonths_isSome_iff {anchor : Date} {months : Nat} :
    (anchor.addMonths months).isSome ↔ anchor.year + (anchor.month - 1 + months) / 12 ≤ 9999 := by
  have hyear := anchor.yearInRange
  have hday := anchor.dayInRange
  have hlen := one_le_daysInMonth (anchor.year + (anchor.month - 1 + months) / 12)
    ((anchor.month - 1 + months) % 12 + 1)
  unfold addMonths ofParts
  dsimp only
  constructor
  · intro h
    split at h
    · rename_i hparts
      exact hparts.1.2
    · cases h
  · intro h
    rw [dif_pos ⟨⟨by omega, h⟩, ⟨by omega, by omega⟩, by omega, Nat.min_le_right _ _⟩]
    rfl

/-! ## Dates shifted from one anchor -/

theorem daysInMonth_le (year month : Nat) : daysInMonth year month ≤ 31 := by
  unfold daysInMonth
  split_ifs <;> omega

/-- The months before the month of the date. -/
def monthIndex (date : Date) : Nat :=
  date.year * 12 + (date.month - 1)

/-- A date in the month that many months later, on the day of the anchor as far as the month goes. -/
structure MonthsAfter (anchor : Date) (months : Nat) (date : Date) : Prop where
  month : date.monthIndex = anchor.monthIndex + months
  day : date.day = min anchor.day (daysInMonth date.year date.month)

/-- **What `_add_months` returns.** -/
theorem addMonths_eq_some_iff {anchor date : Date} {months : Nat} :
    anchor.addMonths months = some date ↔ MonthsAfter anchor months date := by
  have hanchor := anchor.monthInRange
  have hmonth := date.monthInRange
  have hyear := date.yearInRange
  have hday := date.dayInRange
  unfold addMonths ofParts
  dsimp only
  constructor
  · intro h
    split at h
    · cases h
      refine ⟨?_, rfl⟩
      simp only [monthIndex]
      omega
    · cases h
  · rintro ⟨hindex, hclamped⟩
    simp only [monthIndex] at hindex
    -- the parts of the date are the quotient and the remainder of its month index
    have hy : anchor.year + (anchor.month - 1 + months) / 12 = date.year := by omega
    have hm : (anchor.month - 1 + months) % 12 + 1 = date.month := by omega
    rw [hy, hm, ← hclamped, dif_pos ⟨hyear, hmonth, hday⟩]

theorem MonthsAfter.serial_lt {anchor date later : Date} {months more : Nat}
    (h : MonthsAfter anchor months date) (hlater : MonthsAfter anchor more later)
    (hmore : months < more) : date.serial < later.serial := by
  have hindex := h.month
  have hindex' := hlater.month
  have hday := Nat.le_trans date.dayInRange.2 (daysInMonth_le _ _)
  have hmonth := date.monthInRange
  have hmonth' := later.monthInRange
  simp only [monthIndex] at hindex hindex'
  unfold serial
  omega

/-- The dates a list of months after one anchor: each is shifted from the anchor itself, and they grow. -/
structure KeepsAnchor (anchor : Date) (months : List Nat) (dates : List Date) : Prop where
  each : List.Forall₂ (MonthsAfter anchor) months dates
  increasing : dates.Pairwise fun a b => a.serial < b.serial

/-- **Dates shifted from one anchor do not drift.** -/
theorem keepsAnchor_of_each {anchor : Date} {months : List Nat} {dates : List Date}
    (hmonths : months.Pairwise (· < ·)) (h : List.Forall₂ (MonthsAfter anchor) months dates) :
    KeepsAnchor anchor months dates := by
  refine ⟨h, ?_⟩
  induction h with
  | nil => exact List.Pairwise.nil
  | cons hdate hrest ih =>
    rename_i first date rest later
    rw [List.pairwise_cons] at hmonths
    refine List.Pairwise.cons ?_ (ih hmonths.2)
    intro other hother
    obtain ⟨more, hmore, hafter⟩ := Results.exists_left_of_mem hrest hother
    exact hdate.serial_lt hafter (hmonths.1 more hmore)

end Date

end CreditOps
