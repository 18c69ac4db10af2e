import CreditOps.Library.Decimal
import CreditOps.Library.DecimalNotation

/-!
# Plain notation is read back

In plain notation a decimal that is not negative is a whole part and, when its exponent is negative, a point
and as many further digits as the exponent says (`formatPlain_spec`). The reader of decimal notation gives
the value back: at the same exponent, or at exponent zero when the digits were filled up with zeros
(`ofChars_formatPlain`).
-/

set_option autoImplicit false

namespace Decimal

open DecimalNumeral

/-- The number a numeral denotes; the sign of a zero is dropped. -/
def ofNumeral (numeral : DecimalNumeral) : Decimal :=
  ⟨if numeral.negative then -(numeral.coefficient : Int) else numeral.coefficient, numeral.exponent⟩

/-- **The characters of plain notation.** -/
theorem formatPlain_spec {d : Decimal} (hd : 0 ≤ d.coefficient) :
    ∃ whole fraction, AreDigits whole ∧ AreDigits fraction ∧ whole ≠ [] ∧
      d.formatPlain.toList = whole ++ (if fraction = [] then [] else '.' :: fraction) ∧
      digitsValue (whole ++ fraction) = d.positional.coefficient.natAbs ∧
      -(fraction.length : Int) = d.positional.exponent := by
  have hsign : (if d.coefficient < 0 then "-" else "") = "" := if_neg (not_lt.2 hd)
  unfold formatPlain positional
  rw [hsign]
  by_cases hexpn : 0 ≤ d.exponent
  · -- whole: the digits are filled up with zeros
    refine ⟨Nat.toDigits 10 (d.coefficient.natAbs * 10 ^ d.exponent.toNat), [],
      areDigits_toDigits _, ?_, Nat.toDigits_ne_nil, ?_, ?_, ?_⟩
    · intro c hc
      cases hc
    · rw [if_pos hexpn, if_pos rfl, List.append_nil, String.empty_append, Nat.toString_eq_repr,
        Nat.toList_repr]
    · rw [List.append_nil, digitsValue, Nat.ofDigitChars_ten_toDigits]
      split
      · rename_i hnonpos
        have hzero : d.exponent = 0 := le_antisymm hnonpos hexpn
        rw [hzero, Int.toNat_zero, pow_zero, Nat.mul_one]
      · unfold coefficientAt
        rw [sub_zero, Int.natAbs_mul, Int.natAbs_pow]
        rfl
    · split
      · rename_i hnonpos
        exact le_antisymm hexpn hnonpos
      · rfl
  · rw [not_le] at hexpn
    let places := (-d.exponent).toNat
    let rest := d.coefficient.natAbs % 10 ^ places
    let padding := List.replicate (places - (Nat.toDigits 10 rest).length) '0'
    have hplaces : (places : Int) = -d.exponent := Int.toNat_of_nonneg (by omega)
    have hlen : (Nat.toDigits 10 rest).length ≤ places := by
      have hrest : rest < 10 ^ places := Nat.mod_lt _ (by positivity)
      exact (Nat.length_toDigits_le_iff (by omega) (by omega)).2 hrest
    have hpadded : (padding ++ Nat.toDigits 10 rest).length = places := by
      rw [List.length_append, List.length_replicate]
      omega
    have hpadding : AreDigits padding := by
      intro c hc
      rw [List.eq_of_mem_replicate hc]
      decide
    refine ⟨Nat.toDigits 10 (d.coefficient.natAbs / 10 ^ places), padding ++ Nat.toDigits 10 rest,
      areDigits_toDigits _, ?_, Nat.toDigits_ne_nil, ?_, ?_, ?_⟩
    · intro c hc
      rcases List.mem_append.1 hc with hzero | hdigit
      · exact hpadding c hzero
      · exact areDigits_toDigits _ c hdigit
    · have hne : padding ++ Nat.toDigits 10 rest ≠ [] := by
        intro hnil
        exact Nat.toDigits_ne_nil (List.append_eq_nil_iff.1 hnil).2
      have hcount : (toString rest).length = (Nat.toDigits 10 rest).length := by
        rw [← String.length_toList, Nat.toString_eq_repr, Nat.toList_repr]
      rw [if_neg (not_le.2 hexpn), if_neg hne]
      simp only [String.toList_append, String.toList_ofList, Nat.toString_eq_repr, Nat.toList_repr,
        String.toList_empty, List.nil_append, List.append_assoc, ← hcount, padding, rest, places]
      rfl
    · have hsplit := Nat.div_add_mod d.coefficient.natAbs (10 ^ places)
      have hpower : 10 ^ (Nat.toDigits 10 rest).length *
          10 ^ (places - (Nat.toDigits 10 rest).length) = 10 ^ places := by
        rw [← pow_add, Nat.add_sub_cancel' hlen]
      rw [if_pos hexpn.le, digitsValue, Nat.ofDigitChars_append, Nat.ofDigitChars_ten_toDigits,
        Nat.ofDigitChars_append, Nat.ofDigitChars_replicate_zero,
        Nat.ofDigitChars_eq_ofDigitChars_zero, Nat.ofDigitChars_ten_toDigits, ← Nat.mul_assoc, hpower]
      exact hsplit
    · rw [hpadded, if_pos hexpn.le, hplaces, neg_neg]

theorem readSign_of_digits {digits rest : List Char} (hdigits : AreDigits digits) (hne : digits ≠ []) :
    readSign (digits ++ rest) = (false, digits ++ rest) := by
  have hfirst : ∃ c ∈ (digits ++ rest).head?, c.isDigit = true := by
    obtain ⟨c, _, rfl⟩ := List.exists_cons_of_ne_nil hne
    exact ⟨c, rfl, hdigits c List.mem_cons_self⟩
  have hread := readSign_append hfirst false
  rwa [if_neg Bool.false_ne_true, List.nil_append] at hread

/-- **Plain notation is read back.** -/
theorem ofChars_formatPlain {d : Decimal} (hd : 0 ≤ d.coefficient) :
    ofChars d.formatPlain.toList =
      some ⟨false, d.positional.coefficient.natAbs, d.positional.exponent⟩ := by
  obtain ⟨_, fraction, hwhole, hfraction, hne, hchars, hvalue, hlen⟩ := formatPlain_spec hd
  have hpoint : NoDigitFirst (if fraction = [] then [] else '.' :: fraction) := by
    intro c hc
    split at hc
    · cases hc
    obtain rfl : '.' = c := Option.some.inj hc
    decide
  have hread : readFraction (if fraction = [] then [] else '.' :: fraction) = (fraction, []) := by
    have hnone : NoDigitFirst [] := fun c hc => nomatch hc
    have happend := readFraction_append hfraction hnone fun c hc => nomatch hc
    rwa [List.append_nil] at happend
  simp only [hchars, ofChars, readSign_of_digits hwhole hne, readDigits_append hwhole hpoint, hread, hne,
    false_and, if_false, hvalue]
  rw [readExponent, Option.map_some, zero_sub, hlen]

end Decimal
