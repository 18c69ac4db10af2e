import CreditOps.Library.JsonReading
import Mathlib.Data.List.TakeWhile

/-!
# Texts and numbers read back

What is written of one character is read as that character, whatever follows (`readString_escapeChar`), so
a quoted text is read back whole (`readString_quote`). A number is scanned alike whatever stops it
(`Stops.scanNumber_append`), an integer is read back from its digits (`readScalar_intText`), and so is a float
from a text that scans as a number with a fraction or an exponent (`readScalar_floatText`).
-/

set_option autoImplicit false

namespace JsonText

variable {reading : Reading} {format : Format} {rest cs : List Char}

/-! ## White space -/

variable {c : Char}

theorem skipSpace_cons_of_not {cs : List Char} (h : isJsonSpace c = false) :
    skipSpace (c :: cs) = c :: cs := by
  rw [skipSpace, List.dropWhile_cons_of_neg]
  rw [h]
  exact Bool.false_ne_true

theorem skipSpace_append {blank cs : List Char} (h : ∀ c ∈ blank, isJsonSpace c = true) :
    skipSpace (blank ++ cs) = skipSpace cs := by
  induction blank with
  | nil => rfl
  | cons _ _ ih =>
    obtain ⟨hc, hrest⟩ := List.forall_mem_cons.1 h
    rw [List.cons_append, skipSpace, List.dropWhile_cons_of_pos hc]
    exact ih hrest

/-! ## Texts -/

theorem hexDigit?_getD : ∀ d < 16, hexDigit? (Sha256.hexAlphabet.getD d '0') = some d := by
  decide

variable {n low : Nat}

theorem codeUnit?_hexDigits (hn : n < 0x10000) (cs : List Char) :
    codeUnit? (Sha256.hexDigits 4 n ++ cs) = some n := by
  have hdigit := fun d => hexDigit?_getD (d % 16) (Nat.mod_lt _ (by decide))
  have hshape : Sha256.hexDigits 4 n ++ cs =
      Sha256.hexAlphabet.getD (n / 16 / 16 / 16 % 16) '0' :: Sha256.hexAlphabet.getD (n / 16 / 16 % 16) '0' ::
        Sha256.hexAlphabet.getD (n / 16 % 16) '0' :: Sha256.hexAlphabet.getD (n % 16) '0' :: cs := rfl
  rw [hshape, codeUnit?, hdigit, hdigit, hdigit, hdigit]
  simp only [Option.bind_eq_bind, Option.bind_some, Option.pure_def, Option.some.injEq]
  omega

theorem readString_skip {skipped cs : List Char} :
    readString skipped.length (skipped ++ cs) = readString 0 cs := by
  induction skipped with
  | nil => rfl
  | cons _ _ ih => exact ih

theorem readString_backslash {cs skipped rest : List Char} (hcs : cs = skipped ++ rest)
    (h : readEscape cs = some (c, skipped.length)) :
    readString 0 ('\\' :: cs) = (readString 0 rest).map (pushChar c) := by
  subst hcs
  have hquote : ¬ '\\' = '"' := by decide
  rw [readString, if_neg hquote, if_pos rfl, h]
  dsimp only
  rw [readString_skip]

theorem length_codeUnit (n : Nat) : (codeUnit n).length = 6 :=
  congrArg (· + 2) (Sha256.length_hexDigits n 4)

theorem not_surrogate (c : Char) : ¬ (0xD800 ≤ c.toNat ∧ c.toNat ≤ 0xDFFF) := by
  have hvalid := c.valid
  rintro ⟨_, _⟩
  rcases hvalid with hbelow | ⟨habove, -⟩
  · have : c.toNat < 0xD800 := hbelow
    omega
  · have : 0xDFFF < c.toNat := habove
    omega

theorem toNat_lt (c : Char) : c.toNat < 0x110000 := by
  rcases c.valid with hbelow | ⟨-, habove⟩
  · have : c.toNat < 0xD800 := hbelow
    omega
  · exact habove

theorem unitChar_toNat (c : Char) : unitChar c.toNat = c := by
  have hvalid : c.toNat.isValidChar := c.valid
  rw [unitChar, if_pos hvalid]
  exact Char.ofNat_toNat c

theorem readEscape_codeUnit (c : Char) (hc : c.toNat < 0x10000) (rest : List Char) :
    readEscape ('u' :: Sha256.hexDigits 4 c.toNat ++ rest) = some (c, 5) := by
  have hnot : ¬ (0xD800 ≤ c.toNat ∧ c.toNat ≤ 0xDBFF) := by
    intro h
    exact not_surrogate c ⟨h.1, Nat.le_trans h.2 (by decide)⟩
  rw [List.cons_append, readEscape, if_pos rfl, codeUnit?_hexDigits hc]
  dsimp only
  rw [if_neg hnot]
  dsimp only
  rw [unitChar_toNat]

theorem lowSurrogate?_codeUnit (hlow : 0xDC00 ≤ low ∧ low ≤ 0xDFFF) (cs : List Char) :
    lowSurrogate? (codeUnit low ++ cs) = some low := by
  have hlt : low < 0x10000 := by omega
  rw [codeUnit, List.cons_append, List.cons_append, lowSurrogate?, codeUnit?_hexDigits hlt]
  exact if_pos (decide_eq_true hlow)

theorem readEscape_surrogates {high : Nat} (hhigh : 0xD800 ≤ high ∧ high ≤ 0xDBFF)
    (hlow : 0xDC00 ≤ low ∧ low ≤ 0xDFFF) (rest : List Char) :
    readEscape ('u' :: (Sha256.hexDigits 4 high ++ codeUnit low) ++ rest) =
      some (Char.ofNat (0x10000 + (high - 0xD800) * 0x400 + (low - 0xDC00)), 11) := by
  have hlt : high < 0x10000 := by omega
  have hdrop : (Sha256.hexDigits 4 high ++ (codeUnit low ++ rest)).drop 4 = codeUnit low ++ rest :=
    List.drop_left' (Sha256.length_hexDigits high 4)
  rw [List.cons_append, List.append_assoc, readEscape, if_pos rfl, codeUnit?_hexDigits hlt]
  dsimp only
  rw [if_pos hhigh, hdrop, lowSurrogate?_codeUnit hlow]

theorem readEscape_pair (c : Char) (hc : 0x10000 ≤ c.toNat) (rest : List Char) :
    readEscape ('u' :: (Sha256.hexDigits 4 (0xD800 + (c.toNat - 0x10000) / 0x400) ++
        codeUnit (0xDC00 + (c.toNat - 0x10000) % 0x400)) ++ rest) = some (c, 11) := by
  have hlt := toNat_lt c
  have hhigh : (c.toNat - 0x10000) / 0x400 < 0x400 := by omega
  have hlow : (c.toNat - 0x10000) % 0x400 < 0x400 := Nat.mod_lt _ (by decide)
  have hvalue : 0x10000 + (0xD800 + (c.toNat - 0x10000) / 0x400 - 0xD800) * 0x400 +
      (0xDC00 + (c.toNat - 0x10000) % 0x400 - 0xDC00) = c.toNat := by omega
  rw [readEscape_surrogates (by omega) (by omega), hvalue, Char.ofNat_toNat]

/-- What follows the backslash of an escape, whatever stands behind it. -/
def IsEscapeOf (c : Char) (token : List Char) : Prop :=
  ∀ rest, readEscape (token ++ rest) = some (c, token.length)

theorem exists_unicodeEscape (c : Char) :
    ∃ token, unicodeEscape c.toNat = '\\' :: token ∧ IsEscapeOf c token := by
  unfold unicodeEscape
  by_cases hc : c.toNat < 0x10000
  · rw [if_pos hc]
    refine ⟨'u' :: Sha256.hexDigits 4 c.toNat, rfl, ?_⟩
    intro rest
    rw [readEscape_codeUnit c hc, List.length_cons, Sha256.length_hexDigits]
  · rw [if_neg hc]
    refine ⟨'u' :: (Sha256.hexDigits 4 (0xD800 + (c.toNat - 0x10000) / 0x400) ++
      codeUnit (0xDC00 + (c.toNat - 0x10000) % 0x400)), rfl, ?_⟩
    intro rest
    rw [readEscape_pair c (Nat.le_of_not_lt hc), List.length_cons, List.length_append,
      Sha256.length_hexDigits, length_codeUnit]

theorem readShort_of_shortEscape {e : Char} (h : shortEscape c = some e) :
    e ≠ 'u' ∧ readShort e = some c := by
  unfold shortEscape at h
  split_ifs at h <;> cases h <;> subst_vars <;> decide

/-- **A character is written as it is or as an escape of it.** -/
theorem escapeChar_cases (ensureAscii : Bool) (c : Char) :
    (escapeChar ensureAscii c = [c] ∧ c ≠ '"' ∧ c ≠ '\\' ∧ ¬ c.toNat < 32) ∨
      ∃ token, escapeChar ensureAscii c = '\\' :: token ∧ IsEscapeOf c token := by
  unfold escapeChar
  cases hshort : shortEscape c with
  | some e =>
    obtain ⟨hne, hread⟩ := readShort_of_shortEscape hshort
    refine Or.inr ⟨[e], rfl, ?_⟩
    intro rest
    rw [List.singleton_append, readEscape, if_neg hne, hread]
    rfl
  | none =>
    dsimp only
    split
    · exact Or.inr (exists_unicodeEscape c)
    · rename_i hplain
      rw [not_or] at hplain
      refine Or.inl ⟨rfl, ?_, ?_, hplain.1⟩
      all_goals
        rintro rfl
        revert hshort
        decide

/-- **One character is read back.** -/
theorem readString_escapeChar (ensureAscii : Bool) (c : Char) (cs : List Char) :
    readString 0 (escapeChar ensureAscii c ++ cs) = (readString 0 cs).map (pushChar c) := by
  rcases escapeChar_cases ensureAscii c with ⟨heq, hquote, hbackslash, hplain⟩ | ⟨_, heq, hescape⟩
  · rw [heq, List.singleton_append, readString, if_neg hquote, if_neg hbackslash, if_neg hplain]
  · rw [heq, List.cons_append]
    exact readString_backslash rfl (hescape cs)

/-- **A quoted text is read back.** -/
theorem readString_quote (text : String) (rest : List Char) :
    readString 0 (text.toList.flatMap (escapeChar format.ensureAscii) ++ '"' :: rest) =
      some (text.toList, rest) := by
  induction text.toList with
  | nil => rfl
  | cons _ _ ih =>
    rw [List.flatMap_cons, List.append_assoc, readString_escapeChar, ih]
    rfl

/-! ## Numbers -/

/-- A character that a number may go on with. -/
def isNumberChar (c : Char) : Bool :=
  c.isDigit ∨ c = '.' ∨ c = 'e' ∨ c = 'E' ∨ c = '+' ∨ c = '-'

/-- What follows does not go on with a number. -/
def Stops (rest : List Char) : Prop :=
  ∀ c ∈ rest.head?, isNumberChar c = false

theorem stops_nil : Stops [] := by
  intro c hc
  cases hc

theorem stops_cons (h : isNumberChar c = false) (cs : List Char) : Stops (c :: cs) := by
  intro d hd
  obtain rfl := Option.mem_some_iff.1 hd
  exact h

theorem Stops.head_ne {d : Char} {cs : List Char} (h : Stops (c :: cs)) (hd : isNumberChar d = true) :
    c ≠ d := by
  rintro rfl
  have hc := h c rfl
  rw [hd] at hc
  cases hc

theorem Stops.not_isDigit {cs : List Char} (h : Stops (c :: cs)) : ¬ c.isDigit = true := by
  intro hdigit
  have hc := h c rfl
  simp only [isNumberChar, hdigit, true_or, decide_true] at hc
  cases hc

theorem Stops.takeWhile_digits (h : Stops rest) :
    (cs ++ rest).takeWhile Char.isDigit = cs.takeWhile Char.isDigit ∧
      (cs ++ rest).dropWhile Char.isDigit = cs.dropWhile Char.isDigit ++ rest := by
  induction cs with
  | nil =>
    cases rest with
    | nil => exact ⟨rfl, rfl⟩
    | cons =>
      exact ⟨List.takeWhile_cons_of_neg h.not_isDigit, List.dropWhile_cons_of_neg h.not_isDigit⟩
  | cons c _ ih =>
    rw [List.cons_append, List.takeWhile_cons, List.takeWhile_cons, List.dropWhile_cons,
      List.dropWhile_cons]
    by_cases hc : c.isDigit = true
    · rw [if_pos hc, if_pos hc, if_pos hc, if_pos hc]
      exact ⟨congrArg _ ih.1, ih.2⟩
    · rw [if_neg hc, if_neg hc, if_neg hc, if_neg hc]
      exact ⟨rfl, rfl⟩

theorem scanSign_of_ne (h : c ≠ '-') (cs : List Char) : scanSign (c :: cs) = ([], c :: cs) :=
  scanSign.eq_2 _ fun _ hcs => h (List.cons.inj hcs).1

theorem Stops.scanSign_append (h : Stops rest) :
    scanSign (cs ++ rest) = ((scanSign cs).1, (scanSign cs).2 ++ rest) := by
  cases cs with
  | nil =>
    cases rest with
    | nil => rfl
    | cons _ rest => exact scanSign_of_ne (h.head_ne rfl) rest
  | cons c =>
    by_cases hc : c = '-'
    · subst hc
      rfl
    · rw [List.cons_append, scanSign_of_ne hc, scanSign_of_ne hc]
      rfl

theorem Stops.scanInteger_append (h : Stops rest) :
    scanInteger (cs ++ rest) = (scanInteger cs).map fun read => (read.1, read.2 ++ rest) := by
  cases cs with
  | nil =>
    cases rest with
    | nil => rfl
    | cons c =>
      have hzero : c ≠ '0' := h.head_ne rfl
      rw [List.nil_append, scanInteger.eq_2, if_neg hzero, if_neg h.not_isDigit]
      rfl
  | cons =>
    rw [List.cons_append, scanInteger, scanInteger, h.takeWhile_digits.1,
      h.takeWhile_digits.2]
    split_ifs <;> rfl

theorem Stops.scanFraction_append (h : Stops rest) :
    scanFraction (cs ++ rest) = ((scanFraction cs).1, (scanFraction cs).2 ++ rest) := by
  cases cs with
  | nil =>
    cases rest with
    | nil => rfl
    | cons c rest =>
      have hpoint : ¬ (c = '.' ∧ rest.takeWhile Char.isDigit ≠ []) := fun hc => h.head_ne rfl hc.1
      rw [List.nil_append, scanFraction.eq_2, if_neg hpoint]
      rfl
  | cons =>
    rw [List.cons_append, scanFraction, scanFraction, h.takeWhile_digits.1,
      h.takeWhile_digits.2]
    split_ifs <;> rfl

theorem Stops.scanExponentSign_append (h : Stops rest) :
    scanExponentSign (cs ++ rest) = ((scanExponentSign cs).1, (scanExponentSign cs).2 ++ rest) := by
  cases cs with
  | nil =>
    cases rest with
    | nil => rfl
    | cons c =>
      have hsign : ¬ (c = '+' ∨ c = '-') := fun hc => hc.elim (h.head_ne rfl) (h.head_ne rfl)
      rw [List.nil_append, scanExponentSign.eq_2, if_neg hsign]
      rfl
  | cons =>
    rw [List.cons_append, scanExponentSign, scanExponentSign]
    split_ifs <;> rfl

theorem Stops.scanExponent_append (h : Stops rest) :
    scanExponent (cs ++ rest) = ((scanExponent cs).1, (scanExponent cs).2 ++ rest) := by
  cases cs with
  | nil =>
    cases rest with
    | nil => rfl
    | cons c =>
      have hletter : ¬ (c = 'e' ∨ c = 'E') := fun hc => hc.elim (h.head_ne rfl) (h.head_ne rfl)
      rw [List.nil_append, scanExponent.eq_2]
      exact if_neg fun hc => hletter hc.1
  | cons =>
    rw [List.cons_append, scanExponent, scanExponent, h.scanExponentSign_append]
    dsimp only
    rw [h.takeWhile_digits.1, h.takeWhile_digits.2]
    split_ifs <;> rfl

/-- Put what follows behind a number that was scanned. -/
def NumberScan.followedBy (scan : NumberScan) (rest : List Char) : NumberScan :=
  { scan with rest := scan.rest ++ rest }

/-- **A number is scanned alike whatever stops it.** -/
theorem Stops.scanNumber_append (h : Stops rest) :
    scanNumber (cs ++ rest) = (scanNumber cs).map (·.followedBy rest) := by
  unfold scanNumber
  rw [h.scanSign_append]
  dsimp only
  rw [h.scanInteger_append]
  cases scanInteger (scanSign cs).2 with
  | none => rfl
  | some =>
    simp only [Option.map_some]
    rw [h.scanFraction_append]
    dsimp only
    rw [h.scanExponent_append]
    rfl

/-! ## Digits -/

/-- Only zero is written with a zero in front. -/
theorem toDigits_head (n : Nat) :
    Nat.toDigits 10 n = ['0'] ∨ ∃ c digits, Nat.toDigits 10 n = c :: digits ∧ c ≠ '0' := by
  induction n using Nat.strongRecOn with
  | ind n ih =>
    by_cases hn : n < 10
    · rw [Nat.toDigits_of_lt_base hn]
      by_cases hzero : Nat.digitChar n = '0'
      · exact Or.inl (congrArg (fun c => [c]) hzero)
      · exact Or.inr ⟨Nat.digitChar n, [], rfl, hzero⟩
    · right
      have hle : 10 ≤ n := Nat.le_of_not_lt hn
      rw [Nat.toDigits_of_base_le (by decide) hle]
      rcases ih (n / 10) (by omega) with hzero | ⟨c, digits, heq, hc⟩
      · -- a number of at least two digits has a leading part that is not zero
        have hvalue : Nat.ofDigitChars 10 (Nat.toDigits 10 (n / 10)) 0 = n / 10 :=
          Nat.ofDigitChars_ten_toDigits
        rw [hzero] at hvalue
        have : n / 10 = 0 := hvalue.symm
        omega
      · exact ⟨c, digits ++ [Nat.digitChar (n % 10)], by rw [heq]; rfl, hc⟩

theorem isDigit_toDigits (hc : c ∈ Nat.toDigits 10 n) : c.isDigit = true :=
  Nat.isDigit_of_mem_toDigits (by decide) (by decide) hc

theorem scanInteger_toDigits (n : Nat) :
    scanInteger (Nat.toDigits 10 n) = some (Nat.toDigits 10 n, []) := by
  rcases toDigits_head n with hzero | ⟨c, digits, heq, hc⟩
  · rw [hzero]
    rfl
  · have hall : ∀ d ∈ c :: digits, d.isDigit = true := fun d hd => isDigit_toDigits (heq ▸ hd)
    obtain ⟨hhead, htail⟩ := List.forall_mem_cons.1 hall
    rw [heq, scanInteger, if_neg hc, if_pos hhead, List.takeWhile_eq_self_iff.2 htail,
      List.dropWhile_eq_nil_iff.2 htail]

theorem scanSign_toDigits (n : Nat) : scanSign (Nat.toDigits 10 n) = ([], Nat.toDigits 10 n) := by
  cases hdigits : Nat.toDigits 10 n with
  | nil => rfl
  | cons c digits =>
    have hdigit : c.isDigit = true := isDigit_toDigits (hdigits ▸ List.mem_cons_self)
    refine scanSign_of_ne ?_ digits
    rintro rfl
    revert hdigit
    decide

/-- An integer is scanned whole, with neither fraction nor exponent. -/
theorem scanNumber_intText (value : Int) : scanNumber (intText value) = some ⟨intText value, [], []⟩ := by
  cases value with
  | ofNat =>
    unfold scanNumber intText
    dsimp only
    rw [scanSign_toDigits]
    dsimp only
    rw [scanInteger_toDigits]
    rfl
  | negSucc n =>
    unfold scanNumber intText
    have hsign : scanSign ('-' :: Nat.toDigits 10 (n + 1)) = (['-'], Nat.toDigits 10 (n + 1)) := rfl
    dsimp only
    rw [hsign]
    dsimp only
    rw [scanInteger_toDigits]
    rfl

theorem literalInt_of_ne (h : c ≠ '-') (digits : List Char) :
    literalInt (c :: digits) = Nat.ofDigitChars 10 (c :: digits) 0 :=
  literalInt.eq_2 _ fun _ hcs => h (List.cons.inj hcs).1

theorem literalInt_intText (value : Int) : literalInt (intText value) = value := by
  cases value with
  | ofNat n =>
    have hvalue : Nat.ofDigitChars 10 (Nat.toDigits 10 n) 0 = n := Nat.ofDigitChars_ten_toDigits
    have hsign := scanSign_toDigits n
    unfold intText
    dsimp only
    cases hdigits : Nat.toDigits 10 n with
    | nil => exact absurd hdigits Nat.toDigits_ne_nil
    | cons c =>
      have hne : c ≠ '-' := by
        rintro rfl
        rw [hdigits] at hsign
        cases hsign
      rw [literalInt_of_ne hne, ← hdigits, hvalue]
      rfl
  | negSucc n =>
    have hvalue : Nat.ofDigitChars 10 (Nat.toDigits 10 (n + 1)) 0 = n + 1 := Nat.ofDigitChars_ten_toDigits
    have hliteral : literalInt (intText (.negSucc n)) =
        -(Nat.ofDigitChars 10 (Nat.toDigits 10 (n + 1)) 0 : Int) := rfl
    rw [hliteral, hvalue]
    rfl

/-! ## Scalars -/

variable {word : String}

theorem scanNumber_word (h : word ∈ ["null", "true", "false", "NaN", "Infinity", "-Infinity"])
    (cs : List Char) :
    scanNumber (word.toList ++ cs) = none := by
  simp only [List.mem_cons, List.not_mem_nil, or_false] at h
  rcases h with rfl | rfl | rfl | rfl | rfl | rfl <;> rfl

variable {scan : NumberScan}

theorem readWord_of_scanNumber (hscan : scanNumber cs = some scan)
    (h : word ∈ ["null", "true", "false", "NaN", "Infinity", "-Infinity"]) (value : JsonValue) :
    readWord word value cs = none := by
  refine if_neg fun hpre => ?_
  obtain ⟨_, rfl⟩ := List.isPrefixOf_iff_prefix.1 hpre
  rw [scanNumber_word h] at hscan
  cases hscan

theorem readScalar_of_scanNumber (hscan : scanNumber cs = some scan) :
    readScalar reading cs = readNumber reading cs := by
  unfold readScalar
  rw [readWord_of_scanNumber hscan (by simp), readWord_of_scanNumber hscan (by simp),
    readWord_of_scanNumber hscan (by simp), readWord_of_scanNumber hscan (by simp),
    readWord_of_scanNumber hscan (by simp), readWord_of_scanNumber hscan (by simp)]
  rfl

theorem Stops.readScalar_append (h : Stops rest) (hscan : scanNumber cs = some scan) :
    readScalar reading (cs ++ rest) = readNumber reading (cs ++ rest) := by
  have happend : scanNumber (cs ++ rest) = some (scan.followedBy rest) := by
    rw [h.scanNumber_append, hscan]
    rfl
  exact readScalar_of_scanNumber happend

/-- The number of digits of an integer. -/
def digitCount (value : Int) : Nat :=
  (Nat.toDigits 10 value.natAbs).length

theorem length_scanSign_intText (value : Int) : (scanSign (intText value)).2.length = digitCount value := by
  cases value with
  | ofNat =>
    rw [intText, scanSign_toDigits]
    rfl
  | negSucc => rfl

/-- **An integer is read back.** -/
theorem readScalar_intText (h : Stops rest) {value : Int}
    (haccepts : reading.accepts (digitCount value) = true) :
    readScalar reading (intText value ++ rest) = some (.int value, rest) := by
  rw [h.readScalar_append (scanNumber_intText value), readNumber, h.scanNumber_append, scanNumber_intText]
  dsimp only [Option.map_some, NumberScan.followedBy]
  rw [if_pos rfl, length_scanSign_intText, if_pos haccepts, literalInt_intText]
  rfl

theorem scanSign_split (cs : List Char) : (scanSign cs).1 ++ (scanSign cs).2 = cs := by
  unfold scanSign
  split <;> rfl

theorem scanInteger_split {digits : List Char} (h : scanInteger cs = some (digits, rest)) :
    digits ++ rest = cs := by
  unfold scanInteger at h
  split at h
  · cases h
  split_ifs at h <;> cases h
  · rfl
  · exact congrArg _ List.takeWhile_append_dropWhile

theorem scanFraction_split (cs : List Char) : (scanFraction cs).1 ++ (scanFraction cs).2 = cs := by
  unfold scanFraction
  split
  · rfl
  · split_ifs
    · exact congrArg _ List.takeWhile_append_dropWhile
    · rfl

theorem scanExponentSign_split (cs : List Char) :
    (scanExponentSign cs).1 ++ (scanExponentSign cs).2 = cs := by
  unfold scanExponentSign
  split
  · rfl
  · split_ifs <;> rfl

theorem scanExponent_split (cs : List Char) : (scanExponent cs).1 ++ (scanExponent cs).2 = cs := by
  cases cs with
  | nil => rfl
  | cons =>
    rw [scanExponent]
    dsimp only
    split_ifs
    · dsimp only
      rw [List.cons_append, List.append_assoc, List.takeWhile_append_dropWhile, scanExponentSign_split]
    · rfl

theorem scanNumber_split (h : scanNumber cs = some scan) :
    scan.integer ++ (scan.tail ++ scan.rest) = cs := by
  unfold scanNumber at h
  dsimp only at h
  split at h
  · cases h
  rename_i digits afterDigits hdigits
  cases h
  dsimp only
  rw [List.append_assoc, List.append_assoc, scanExponent_split, scanFraction_split,
    scanInteger_split hdigits, scanSign_split]

/-- A text that Python writes a finite float with, and reads as that float. -/
def IsFloatText (reading : Reading) (text : String) : Prop :=
  ∃ integer tail, scanNumber text.toList = some ⟨integer, tail, []⟩ ∧ tail ≠ [] ∧ reading.float text = text

/-- **A finite float is read back.** -/
theorem readScalar_floatText (h : Stops rest) {text : String} (hfloat : IsFloatText reading text) :
    readScalar reading (text.toList ++ rest) = some (.float text, rest) := by
  obtain ⟨integer, tail, hscan, htail, hreads⟩ := hfloat
  have hsplit : integer ++ tail = text.toList := by
    have hwhole := scanNumber_split hscan
    rwa [List.append_nil] at hwhole
  rw [h.readScalar_append hscan, readNumber, h.scanNumber_append, hscan]
  dsimp only [Option.map_some, NumberScan.followedBy]
  rw [if_neg htail, hsplit, String.ofList_toList, hreads]
  rfl

end JsonText
