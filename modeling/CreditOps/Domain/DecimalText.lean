import Mathlib.Data.List.DropRight
import CreditOps.Domain.Money
import CreditOps.Domain.Text
import CreditOps.Library.DecimalPlain
import CreditOps.Library.Results

/-!
# The constructor of decimals

`Decimal(text)` strips white space, drops every underscore, reads the decimal digits of any script, and
accepts an optional sign with a special value or with digits, an optional point and an optional exponent. The
exponents it can hold are bounded; the number of digits is not, short of the memory of the machine.
-/

set_option autoImplicit false

namespace CreditOps

open DecimalNumeral

/-! ## The constructor -/

/-- The zeros of the decimal digits outside ASCII; the other nine digits of a script follow its zero. -/
def decimalZeros : List Nat :=
  [0x660, 0x6f0, 0x7c0, 0x966, 0x9e6, 0xa66, 0xae6, 0xb66, 0xbe6, 0xc66, 0xce6, 0xd66, 0xde6, 0xe50,
    0xed0, 0xf20, 0x1040, 0x1090, 0x17e0, 0x1810, 0x1946, 0x19d0, 0x1a80, 0x1a90, 0x1b50, 0x1bb0,
    0x1c40, 0x1c50, 0xa620, 0xa8d0, 0xa900, 0xa9d0, 0xa9f0, 0xaa50, 0xabf0, 0xff10, 0x104a0, 0x10d30,
    0x11066, 0x110f0, 0x11136, 0x111d0, 0x112f0, 0x11450, 0x114d0, 0x11650, 0x116c0, 0x11730, 0x118e0,
    0x11950, 0x11c50, 0x11d50, 0x11da0, 0x11f50, 0x16a60, 0x16ac0, 0x16b50, 0x1d7ce, 0x1d7d8, 0x1d7e2,
    0x1d7ec, 0x1d7f6, 0x1e140, 0x1e2f0, 0x1e4f0, 0x1e950, 0x1fbf0]

/-- The decimal digit a character outside ASCII stands for. -/
def decimalDigit (c : Char) : Option Char :=
  (decimalZeros.find? fun first => first ≤ c.toNat ∧ c.toNat ≤ first + 9).map fun first =>
    Nat.digitChar (c.toNat - first)

/-- A character as the constructor reads it. -/
def asciiOf (c : Char) : Option Char :=
  if 0 < c.toNat ∧ c.toNat ≤ 127 then some c
  else if isSpace c then some ' '
  else decimalDigit c

/-- The characters the constructor reads: stripped, without underscores, digits in ASCII. -/
def numericAsAscii (text : String) : Option (List Char) :=
  ((strip text).toList.filter (· ≠ '_')).mapM asciiOf

/-- An infinity, or a NaN with an optional payload of digits, with an optional sign. -/
def isSpecial (chars : List Char) : Bool :=
  let word := (readSign chars).2.map Char.toLower
  word = "inf".toList ∨ word = "infinity".toList ∨
    ("nan".toList <+: word ∧ (word.drop 3).all Char.isDigit) ∨
    ("snan".toList <+: word ∧ (word.drop 4).all Char.isDigit)

/-- `MAX_EMAX` -/
def maxEmax : Int := 999999999999999999

/-- `MIN_ETINY` -/
def minEtiny : Int := -1999999999999999997

/-- The exponent of the first digit and the exponent of the last one are within the limits. -/
def withinLimits (value : Decimal) : Bool :=
  minEtiny ≤ value.exponent ∧
    value.exponent + (max 1 (Decimal.digitCount value.coefficient.natAbs) - 1 : Nat) ≤ maxEmax

/-- `Decimal(text)`. What does not follow the grammar and what exceeds the limits raises. -/
def decimalOf (text : String) : ParsedDecimal :=
  match numericAsAscii text with
  | none => .invalid
  | some chars =>
    if isSpecial chars then .special
    else
      match ofChars chars with
      | none => .invalid
      | some numeral =>
        if withinLimits (.ofNumeral numeral) then .finite (.ofNumeral numeral) else .invalid

example : decimalOf " 1_000.50 " = .finite ⟨100050, -2⟩ := by decide +kernel
example : decimalOf "-٣e+2" = .finite ⟨-3, 2⟩ := by decide +kernel
example : decimalOf "sNaN12" = .special := by decide +kernel
example : decimalOf "1e1000000000000000000" = .invalid := by decide +kernel

/-! ## Stripped texts -/

theorem strip_toList (text : String) :
    (strip text).toList = (text.toList.dropWhile isSpace).rdropWhile isSpace := by
  rw [strip, String.toList_ofList]
  rfl

/-- **What is stripped stays as it is.** -/
@[simp] theorem strip_strip (text : String) : strip (strip text) = strip text := by
  have hfront : (strip text).toList.dropWhile isSpace = (strip text).toList := by
    rw [strip_toList]
    rcases hchars : (text.toList.dropWhile isSpace).rdropWhile isSpace with _ | ⟨c, rest⟩
    · rfl
    · -- the first character is where the white space in front ended
      obtain ⟨tail, htail⟩ := List.rdropWhile_prefix isSpace (l := text.toList.dropWhile isSpace)
      rw [hchars, List.cons_append] at htail
      have hfirst := List.dropWhile_idempotent isSpace text.toList
      rw [← htail, List.dropWhile_cons] at hfirst
      rw [List.dropWhile_cons, if_neg]
      intro hspace
      rw [if_pos hspace] at hfirst
      have hlen := (List.dropWhile_sublist (l := rest ++ tail) isSpace).length_le
      rw [hfirst, List.length_cons] at hlen
      omega
  have hchars : (strip (strip text)).toList = (strip text).toList := by
    rw [strip_toList (strip text), hfront, strip_toList text, List.rdropWhile_idempotent]
  exact String.toList_injective hchars

theorem strip_of_noSpace {text : String} (h : ∀ c ∈ text.toList, isSpace c = false) :
    strip text = text := by
  apply String.toList_injective
  rw [strip_toList, List.dropWhile_eq_self_iff.2, List.rdropWhile_eq_self_iff.2]
  · intro hne hspace
    rw [h _ (List.getLast_mem hne)] at hspace
    cases hspace
  · intro hlen hspace
    rw [h _ (List.getElem_mem _)] at hspace
    cases hspace

/-! ## Plain notation -/

/-- The characters plain notation is made of. -/
def IsPlain (c : Char) : Prop :=
  c.isDigit = true ∨ c = '.'

/-- A character of plain notation is read as it is. -/
theorem IsPlain.spec {c : Char} (h : IsPlain c) : isSpace c = false ∧ c ≠ '_' ∧ asciiOf c = some c := by
  have hrange : 46 ≤ c.toNat ∧ c.toNat ≤ 57 := by
    rcases h with hdigit | rfl
    · rw [Char.isDigit, Bool.and_eq_true, decide_eq_true_iff, decide_eq_true_iff] at hdigit
      have hlow : 48 ≤ c.toNat := hdigit.1
      exact ⟨by omega, hdigit.2⟩
    · decide
  refine ⟨?_, ?_, ?_⟩
  · unfold isSpace
    rw [decide_eq_false_iff_not]
    omega
  · rintro rfl
    exact absurd hrange.2 (by decide)
  · rw [asciiOf, if_pos ⟨by omega, by omega⟩]

theorem plain_formatPlain {d : Decimal} (hd : 0 ≤ d.coefficient) :
    ∀ c ∈ d.formatPlain.toList, IsPlain c := by
  obtain ⟨_, _, hwhole, hfraction, -, hchars, -, -⟩ := Decimal.formatPlain_spec hd
  rw [hchars]
  intro c hc
  rcases List.mem_append.1 hc with hleft | hright
  · exact .inl (hwhole c hleft)
  · split at hright
    · cases hright
    rcases List.mem_cons.1 hright with rfl | hdigit
    · exact .inr rfl
    · exact .inl (hfraction c hdigit)

theorem numericAsAscii_of_plain {text : String} (h : ∀ c ∈ text.toList, IsPlain c) :
    numericAsAscii text = some text.toList := by
  have hkept : text.toList.filter (· ≠ '_') = text.toList :=
    List.filter_eq_self.2 fun c hc => decide_eq_true (h c hc).spec.2.1
  rw [numericAsAscii, strip_of_noSpace fun c hc => (h c hc).spec.1, hkept, Results.mapM_eq_some]
  exact List.forall₂_same.2 fun c hc => (h c hc).spec.2.2

/-- What starts with a digit is no special value. -/
theorem isSpecial_of_digit {digits rest : List Char} (hdigits : AreDigits digits) (hne : digits ≠ []) :
    isSpecial (digits ++ rest) = false := by
  obtain ⟨c, tail, rfl⟩ := List.exists_cons_of_ne_nil hne
  have hdigit := hdigits c List.mem_cons_self
  have hlower : c.toLower.isDigit = true := by
    rw [Char.isDigit, Bool.and_eq_true, decide_eq_true_iff, decide_eq_true_iff] at hdigit
    have hsame : c.toLower = c := by
      unfold Char.toLower
      rw [dif_neg]
      intro hupper
      have hlow : 65 ≤ c.toNat := hupper.1
      have hhigh : c.toNat ≤ 57 := hdigit.2
      omega
    rw [hsame, Char.isDigit, Bool.and_eq_true, decide_eq_true_iff, decide_eq_true_iff]
    exact hdigit
  have hother : ∀ {first : Char} {word : List Char}, first.isDigit = false →
      ¬ (first :: word) <+: c.toLower :: (tail ++ rest).map Char.toLower := by
    intro first word hfirst hpre
    have hsame := (List.cons_prefix_cons.1 hpre).1
    rw [← hsame, hfirst] at hlower
    cases hlower
  unfold isSpecial
  rw [Decimal.readSign_of_digits hdigits hne, decide_eq_false_iff_not]
  simp only [List.cons_append, List.map_cons]
  rintro (hinf | hinfinity | ⟨hnan, -⟩ | ⟨hsnan, -⟩)
  · exact hother (by decide) (hinf ▸ List.prefix_rfl : "inf".toList <+: _)
  · exact hother (by decide) (hinfinity ▸ List.prefix_rfl : "infinity".toList <+: _)
  · exact hother (by decide) hnan
  · exact hother (by decide) hsnan

/-- Plain notation keeps a number within the limits. -/
theorem withinLimits_positional {d : Decimal} (h : withinLimits d = true) :
    withinLimits d.positional = true := by
  unfold Decimal.positional
  split
  · exact h
  · rename_i hexpn
    unfold withinLimits at h ⊢
    rw [decide_eq_true_iff] at h ⊢
    have hcount : Decimal.digitCount (d.coefficientAt 0).natAbs ≤
        Decimal.digitCount d.coefficient.natAbs + d.exponent.toNat := by
      rw [Decimal.digitCount_le_iff, Decimal.coefficientAt, Int.natAbs_mul, Int.natAbs_pow, sub_zero,
        pow_add]
      exact Nat.mul_lt_mul_of_pos_right (Decimal.digitCount_le_iff.1 le_rfl) (by positivity)
    by_cases hzero : d.coefficient = 0
    · have hnone : (d.coefficientAt 0).natAbs = 0 := by
        rw [Decimal.coefficientAt, hzero, zero_mul]
        rfl
      rw [hnone]
      exact ⟨(by decide : minEtiny ≤ 0),
        (by decide : (0 : Int) + (max 1 (Decimal.digitCount 0) - 1 : Nat) ≤ maxEmax)⟩
    · have hpos : 1 ≤ Decimal.digitCount d.coefficient.natAbs := by
        by_contra hnone
        have hlt := Decimal.digitCount_le_iff.1 (by omega : Decimal.digitCount d.coefficient.natAbs ≤ 0)
        omega
      refine ⟨(by decide : minEtiny ≤ 0), ?_⟩
      have hlimit := h.2
      show (0 : Int) + (max 1 (Decimal.digitCount (d.coefficientAt 0).natAbs) - 1 : Nat) ≤ maxEmax
      omega

/-- **Plain notation is read as the number it was written from.** -/
theorem decimalOf_formatPlain {d : Decimal} (hd : 0 ≤ d.coefficient) (h : withinLimits d = true) :
    decimalOf d.formatPlain = .finite d.positional := by
  have hvalue : Decimal.ofNumeral ⟨false, d.positional.coefficient.natAbs, d.positional.exponent⟩ =
      d.positional := by
    have hpos : 0 ≤ d.positional.coefficient := by
      rw [← Decimal.toRat_nonneg_iff, Decimal.toRat_positional, Decimal.toRat_nonneg_iff]
      exact hd
    unfold Decimal.ofNumeral
    rw [if_neg Bool.false_ne_true, Int.natAbs_of_nonneg hpos]
  have hspecial : isSpecial d.formatPlain.toList = false := by
    obtain ⟨_, _, hwhole, -, hne, hchars, -, -⟩ := Decimal.formatPlain_spec hd
    rw [hchars]
    exact isSpecial_of_digit hwhole hne
  unfold decimalOf
  rw [numericAsAscii_of_plain (plain_formatPlain hd)]
  simp only [hspecial, Bool.false_eq_true, if_false, Decimal.ofChars_formatPlain hd, hvalue,
    withinLimits_positional h, if_true]

/-- What the constructor returns is within its limits. -/
theorem withinLimits_of_decimalOf {text : String} {value : Decimal}
    (h : decimalOf text = .finite value) : withinLimits value = true := by
  unfold decimalOf at h
  split at h
  · cases h
  split at h
  · cases h
  split at h
  · cases h
  split at h
  · rename_i hlimits
    cases h
    exact hlimits
  · cases h

end CreditOps
