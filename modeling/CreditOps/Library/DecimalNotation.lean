import Mathlib.Data.List.TakeWhile
import Mathlib.Tactic.Common

/-!
# Decimal notation

Finite decimals with a sign, a coefficient and an exponent, and the text they are written as: plain
notation while the exponent is not positive and at most six zeros follow the point, and scientific
notation otherwise. A zero can be negative, and trailing zeros count. The reader takes an optional sign,
digits with an optional point, and an optional exponent; the special values, blanks and underscores are
left out.
-/

set_option autoImplicit false

/-- A finite decimal, as it is written. -/
structure DecimalNumeral where
  negative : Bool
  coefficient : Nat
  exponent : Int
deriving DecidableEq

namespace DecimalNumeral

/-! ## Writing -/

/-- The digits of the coefficient; zero has one. -/
def digitChars (d : DecimalNumeral) : List Char :=
  Nat.toDigits 10 d.coefficient

/-- How many digits stand left of the point in plain notation. -/
def leftDigits (d : DecimalNumeral) : Int :=
  d.exponent + d.digitChars.length

/-- How many digits are written left of the point: in scientific notation one. -/
def dotPlace (d : DecimalNumeral) : Int :=
  if d.exponent ≤ 0 ∧ -6 < d.leftDigits then d.leftDigits else 1

/-- Digits with the point after the first `dotPlace` of them. -/
def pointed (digits : List Char) (dotPlace : Int) : List Char :=
  if dotPlace ≤ 0 then '0' :: '.' :: (List.replicate (-dotPlace).toNat '0' ++ digits)
  else if digits.length ≤ dotPlace then
    digits ++ List.replicate (dotPlace - digits.length).toNat '0'
  else digits.take dotPlace.toNat ++ '.' :: digits.drop dotPlace.toNat

/-- A whole number with its sign, the plus included. -/
def signedChars : Int → List Char
  | .ofNat n => '+' :: Nat.toDigits 10 n
  | .negSucc n => '-' :: Nat.toDigits 10 (n + 1)

/-- The exponent, unless it is zero. -/
def exponentChars (exponent : Int) : List Char :=
  if exponent = 0 then [] else 'E' :: signedChars exponent

/-- The characters of a decimal. -/
def toChars (d : DecimalNumeral) : List Char :=
  (if d.negative then ['-'] else []) ++
    (pointed d.digitChars d.dotPlace ++ exponentChars (d.leftDigits - d.dotPlace))

/-- The text of a decimal. -/
def toText (d : DecimalNumeral) : String :=
  String.ofList d.toChars

/-! ## Reading -/

/-- An optional sign and the rest. -/
def readSign : List Char → Bool × List Char
  | '-' :: rest => (true, rest)
  | '+' :: rest => (false, rest)
  | text => (false, text)

/-- The digits in front and the rest. -/
def readDigits (text : List Char) : List Char × List Char :=
  (text.takeWhile Char.isDigit, text.dropWhile Char.isDigit)

/-- The digits after a point, if there is one, and the rest. -/
def readFraction : List Char → List Char × List Char
  | '.' :: rest => readDigits rest
  | text => ([], text)

/-- The value of digits. -/
def digitsValue (digits : List Char) : Nat :=
  Nat.ofDigitChars 10 digits 0

/-- The exponent at the end of a text; none is zero. -/
def readExponent : List Char → Option Int
  | [] => some 0
  | mark :: rest =>
    let signed := readSign rest
    if (mark = 'E' ∨ mark = 'e') ∧ signed.2 ≠ [] ∧ signed.2.all Char.isDigit then
      some (if signed.1 then -(digitsValue signed.2) else digitsValue signed.2)
    else none

/-- Read the characters of a decimal. -/
def ofChars (text : List Char) : Option DecimalNumeral :=
  let signed := readSign text
  let whole := readDigits signed.2
  let fraction := readFraction whole.2
  if whole.1 = [] ∧ fraction.1 = [] then none
  else
    (readExponent fraction.2).map fun exponent =>
      ⟨signed.1, digitsValue (whole.1 ++ fraction.1), exponent - fraction.1.length⟩

/-- Read a text. -/
def ofText (text : String) : Option DecimalNumeral :=
  ofChars text.toList

/-! ## Reading what was written -/

/-- A list of digits. -/
def AreDigits (digits : List Char) : Prop :=
  ∀ c ∈ digits, c.isDigit = true

/-- What does not go on with a digit. -/
def NoDigitFirst (text : List Char) : Prop :=
  ∀ c ∈ text.head?, c.isDigit = false

theorem areDigits_toDigits (n : Nat) : AreDigits (Nat.toDigits 10 n) := by
  intro c hc
  exact Nat.isDigit_of_mem_toDigits (by omega) (by omega) hc

theorem readDigits_append {digits rest : List Char} (hdigits : AreDigits digits)
    (hrest : NoDigitFirst rest) : readDigits (digits ++ rest) = (digits, rest) := by
  have htake : rest.takeWhile Char.isDigit = [] ∧ rest.dropWhile Char.isDigit = rest := by
    cases rest with
    | nil => exact ⟨rfl, rfl⟩
    | cons c =>
      have hc : c.isDigit = false := hrest c rfl
      refine ⟨?_, ?_⟩
      · rw [List.takeWhile_cons, hc]
        rfl
      · rw [List.dropWhile_cons, hc]
        rfl
  unfold readDigits
  rw [List.takeWhile_append_of_pos hdigits, List.dropWhile_append_of_pos hdigits, htake.1, htake.2,
    List.append_nil]

/-- A sign in front is read; without one the text is read as it is. -/
theorem readSign_append {text : List Char} (htext : ∃ c ∈ text.head?, c.isDigit = true)
    (negative : Bool) :
    readSign ((if negative then ['-'] else []) ++ text) = (negative, text) := by
  cases negative with
  | true => rfl
  | false =>
    cases text with
    | nil =>
      obtain ⟨c, hc, -⟩ := htext
      cases hc
    | cons c tail =>
      obtain ⟨digit, hdigit, hisDigit⟩ := htext
      obtain rfl : c = digit := Option.some.inj hdigit
      unfold readSign
      split
      · rename_i heq
        cases heq
        cases hisDigit
      · rename_i heq
        cases heq
        cases hisDigit
      · rfl

theorem readExponent_of_readSign {rest : List Char} {negative : Bool} {n : Nat}
    (hsign : readSign rest = (negative, Nat.toDigits 10 n)) :
    readExponent ('E' :: rest) = some (if negative then -(n : Int) else n) := by
  have hall : (Nat.toDigits 10 n).all Char.isDigit = true := List.all_eq_true.2 (areDigits_toDigits n)
  have hne : Nat.toDigits 10 n ≠ [] := Nat.toDigits_ne_nil
  simp only [readExponent, hsign, true_or, true_and]
  rw [if_pos ⟨hne, hall⟩, digitsValue, Nat.ofDigitChars_ten_toDigits]

theorem readExponent_signedChars (exponent : Int) :
    readExponent ('E' :: signedChars exponent) = some exponent := by
  cases exponent with
  | ofNat n =>
    have hsign : readSign (signedChars (.ofNat n)) = (false, Nat.toDigits 10 n) := rfl
    exact readExponent_of_readSign hsign
  | negSucc n =>
    have hsign : readSign (signedChars (.negSucc n)) = (true, Nat.toDigits 10 (n + 1)) := rfl
    exact readExponent_of_readSign hsign

theorem readExponent_exponentChars (exponent : Int) :
    readExponent (exponentChars exponent) = some exponent := by
  unfold exponentChars
  split
  · rename_i hzero
    rw [hzero]
    rfl
  · exact readExponent_signedChars exponent

theorem noDigitFirst_exponentChars (exponent : Int) : NoDigitFirst (exponentChars exponent) := by
  intro c hc
  unfold exponentChars at hc
  split at hc
  · cases hc
  obtain rfl : 'E' = c := Option.some.inj hc
  decide

/-- **Digits around a point.** Written at a place within them, they are read as a whole part and a
fraction of the same value. -/
theorem pointed_spec {digits : List Char} {dotPlace : Int} (hdigits : AreDigits digits)
    (hne : digits ≠ []) (hplace : dotPlace ≤ digits.length) :
    ∃ whole fraction, AreDigits whole ∧ AreDigits fraction ∧ whole ≠ [] ∧
      pointed digits dotPlace = whole ++ (if fraction = [] then [] else '.' :: fraction) ∧
      digitsValue (whole ++ fraction) = digitsValue digits ∧
      (fraction.length : Int) = digits.length - dotPlace := by
  have hlen : 0 < digits.length := List.length_pos_iff.2 hne
  unfold pointed
  by_cases hsmall : dotPlace ≤ 0
  · -- zeros between the point and the digits
    refine ⟨['0'], List.replicate (-dotPlace).toNat '0' ++ digits, ?_, ?_, ?_, ?_, ?_, ?_⟩
    · intro c hc
      rw [List.mem_singleton.1 hc]
      decide
    · intro c hc
      rcases List.mem_append.1 hc with hzero | hdigit
      · rw [List.eq_of_mem_replicate hzero]
        decide
      · exact hdigits c hdigit
    · exact List.cons_ne_nil _ _
    · rw [if_pos hsmall, if_neg]
      · rfl
      · intro hnil
        exact hne (List.append_eq_nil_iff.1 hnil).2
    · have hzeros : ['0'] ++ (List.replicate (-dotPlace).toNat '0' ++ digits) =
          List.replicate ((-dotPlace).toNat + 1) '0' ++ digits := rfl
      rw [hzeros, digitsValue, Nat.ofDigitChars_append, Nat.ofDigitChars_replicate_zero, Nat.mul_zero]
      rfl
    · rw [List.length_append, List.length_replicate]
      omega
  · by_cases hlarge : (digits.length : Int) ≤ dotPlace
    · -- the point would stand after the last digit
      have heq : (dotPlace - digits.length).toNat = 0 := by omega
      refine ⟨digits, [], hdigits, ?_, hne, ?_, ?_, ?_⟩
      · intro c hc
        cases hc
      · rw [if_neg hsmall, if_pos hlarge, if_pos rfl, heq]
        rfl
      · rw [List.append_nil]
      · rw [List.length_nil]
        omega
    · refine ⟨digits.take dotPlace.toNat, digits.drop dotPlace.toNat, ?_, ?_, ?_, ?_, ?_, ?_⟩
      · intro c hc
        exact hdigits c (List.mem_of_mem_take hc)
      · intro c hc
        exact hdigits c (List.mem_of_mem_drop hc)
      · refine List.ne_nil_of_length_pos ?_
        rw [List.length_take]
        omega
      · rw [if_neg hsmall, if_neg hlarge, if_neg]
        refine List.ne_nil_of_length_pos ?_
        rw [List.length_drop]
        omega
      · rw [List.take_append_drop]
      · rw [List.length_drop]
        omega

theorem digitChars_ne_nil (d : DecimalNumeral) : d.digitChars ≠ [] :=
  Nat.toDigits_ne_nil

theorem dotPlace_le (d : DecimalNumeral) : d.dotPlace ≤ d.digitChars.length := by
  have hlen := List.length_pos_iff.2 d.digitChars_ne_nil
  unfold dotPlace leftDigits
  split
  all_goals omega

theorem readFraction_append {fraction rest : List Char} (hfraction : AreDigits fraction)
    (hrest : NoDigitFirst rest) (hpoint : ∀ c ∈ rest.head?, c ≠ '.') :
    readFraction ((if fraction = [] then [] else '.' :: fraction) ++ rest) = (fraction, rest) := by
  by_cases hnil : fraction = []
  · subst hnil
    rw [if_pos rfl, List.nil_append]
    unfold readFraction
    split
    · exact absurd rfl (hpoint '.' rfl)
    · rfl
  · rw [if_neg hnil, List.cons_append]
    exact readDigits_append hfraction hrest

/-- **What is written is read back as it was.** -/
theorem ofChars_toChars (d : DecimalNumeral) : ofChars d.toChars = some d := by
  obtain ⟨whole, fraction, hwhole, hfraction, hne, hpointed, hvalue, hlen⟩ :=
    pointed_spec (areDigits_toDigits d.coefficient) d.digitChars_ne_nil d.dotPlace_le
  let rest := exponentChars (d.leftDigits - d.dotPlace)
  have hrest : NoDigitFirst rest := noDigitFirst_exponentChars _
  have hmark : ∀ c ∈ rest.head?, c ≠ '.' := by
    intro c hc
    show c ≠ '.'
    unfold rest exponentChars at hc
    split at hc
    · cases hc
    obtain rfl : 'E' = c := Option.some.inj hc
    decide
  have hpoint : NoDigitFirst ((if fraction = [] then [] else '.' :: fraction) ++ rest) := by
    split
    · exact hrest
    · intro c hc
      obtain rfl : '.' = c := Option.some.inj hc
      decide
  have hchars : d.toChars = (if d.negative then ['-'] else []) ++
      (whole ++ ((if fraction = [] then [] else '.' :: fraction) ++ rest)) := by
    rw [← List.append_assoc whole, ← hpointed]
    rfl
  have hfirst : ∃ c ∈ (whole ++ ((if fraction = [] then [] else '.' :: fraction) ++ rest)).head?,
      c.isDigit = true := by
    obtain ⟨c, _, rfl⟩ := List.exists_cons_of_ne_nil hne
    exact ⟨c, rfl, hwhole c List.mem_cons_self⟩
  have hexpn : d.leftDigits - d.dotPlace - (fraction.length : Int) = d.exponent := by
    rw [hlen]
    unfold leftDigits digitChars
    omega
  have hcoef : digitsValue (whole ++ fraction) = d.coefficient := by
    rw [hvalue]
    exact Nat.ofDigitChars_ten_toDigits
  simp only [hchars, ofChars, readSign_append hfirst, readDigits_append hwhole hpoint,
    readFraction_append hfraction hrest hmark, hne, false_and, if_false]
  rw [readExponent_exponentChars, Option.map_some, hexpn, hcoef]

theorem ofText_toText (d : DecimalNumeral) : ofText d.toText = some d := by
  rw [ofText, toText, String.toList_ofList, ofChars_toChars]

example : toText ⟨true, 500, -2⟩ = "-5.00" := by decide
example : toText ⟨false, 5, 9⟩ = "5E+9" := by decide
example : toText ⟨false, 12, -9⟩ = "1.2E-8" := by decide

end DecimalNumeral
