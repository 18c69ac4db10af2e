import Mathlib.Tactic.Ring
import CreditOps.Domain.Text

/-!
# Reading a uuid

`UUID(text)` drops `urn:` and `uuid:`, the braces around the text and every hyphen, and reads the
thirty-two characters that are left with `int(text, 16)`, which allows white space, a sign, `0x` and
single underscores. Reading the text of a uuid gives the uuid back (`readUuid_uuidText`), as far as its
128 bits go.
-/

set_option autoImplicit false

namespace CreditOps

/-! ## The reader -/

/-- `text.replace(pattern, "")`, with the number of characters of a match still to drop. -/
def removeAll (pattern : List Char) : Nat → List Char → List Char
  | _, [] => []
  | skip + 1, _ :: cs => removeAll pattern skip cs
  | 0, c :: cs =>
    if pattern.isPrefixOf (c :: cs) then removeAll pattern (pattern.length - 1) cs
    else c :: removeAll pattern 0 cs

/-- Drops the characters of a kind on both ends. -/
def stripWhere (p : Char → Bool) (cs : List Char) : List Char :=
  (((cs.dropWhile p).reverse).dropWhile p).reverse

def isBrace (c : Char) : Bool :=
  c.toNat = 123 ∨ c.toNat = 125

/-- The value of a hexadecimal digit. -/
def hexValue (c : Char) : Option Nat :=
  if '0' ≤ c ∧ c ≤ '9' then some (c.toNat - 48)
  else if 'a' ≤ c ∧ c ≤ 'f' then some (c.toNat - 87)
  else if 'A' ≤ c ∧ c ≤ 'F' then some (c.toNat - 55)
  else none

/-- The digits of an integer literal, with single underscores between them. -/
def readHexRun : Nat → Bool → List Char → Option Nat
  | acc, afterDigit, [] => if afterDigit then some acc else none
  | acc, afterDigit, c :: cs =>
    match hexValue c with
    | some d => readHexRun (16 * acc + d) true cs
    | none => if c = '_' ∧ afterDigit then readHexRun acc false cs else none

/-- The literal without its base. -/
def dropBase : List Char → List Char
  | '0' :: 'x' :: '_' :: cs | '0' :: 'X' :: '_' :: cs => cs
  | '0' :: 'x' :: cs | '0' :: 'X' :: cs => cs
  | cs => cs

/-- `int(text, 16)` -/
def readInt16 (cs : List Char) : Option Int :=
  match stripWhere isSpace cs with
  | '-' :: digits => (readHexRun 0 false (dropBase digits)).map fun n => -(n : Int)
  | '+' :: digits => (readHexRun 0 false (dropBase digits)).map Int.ofNat
  | digits => (readHexRun 0 false (dropBase digits)).map Int.ofNat

/-- `UUID(text)`; none where it raises `ValueError`. -/
def readUuid (text : String) : Option Uuid :=
  let bare := removeAll "uuid:".toList 0 (removeAll "urn:".toList 0 text.toList)
  let digits := (stripWhere isBrace bare).filter (· ≠ '-')
  if digits.length = 32 then
    match readInt16 digits with
    | some (.ofNat n) => if n < 16 ^ 32 then some n else none
    | _ => none
  else none

/-! ## Texts nothing is dropped from -/

variable {c : Char} {cs : List Char}

theorem removeAll_of_head_not_mem {pattern : List Char} (h : c ∉ cs) :
    removeAll (c :: pattern) 0 cs = cs := by
  induction cs with
  | nil => rfl
  | cons d _ ih =>
    rw [List.mem_cons, not_or] at h
    have hne : (c == d) = false := beq_eq_false_iff_ne.2 h.1
    simp only [removeAll, List.isPrefixOf, hne, Bool.false_and, Bool.false_eq_true, if_false,
      ih h.2]

variable {p : Char → Bool}

theorem dropWhile_of_forall (h : ∀ c ∈ cs, p c = false) :
    cs.dropWhile p = cs := by
  cases cs with
  | nil => rfl
  | cons c => simp only [List.dropWhile_cons, h c (List.mem_cons_self ..), Bool.false_eq_true,
      if_false]

theorem stripWhere_of_forall (h : ∀ c ∈ cs, p c = false) :
    stripWhere p cs = cs := by
  rw [stripWhere, dropWhile_of_forall h, dropWhile_of_forall, List.reverse_reverse]
  intro c hc
  exact h c (List.mem_reverse.1 hc)

theorem stripWhere_of_alphabet {alphabet : List Char} (halphabet : alphabet.all (fun c => !p c) = true)
    (h : ∀ c ∈ cs, c ∈ alphabet) :
    stripWhere p cs = cs := by
  apply stripWhere_of_forall
  intro c hc
  have hnot := List.all_eq_true.1 halphabet c (h c hc)
  rw [Bool.not_eq_true'] at hnot
  exact hnot

/-! ## Reading digits -/

theorem hexValue_getD : ∀ d < 16, hexValue (Sha256.hexAlphabet.getD d '0') = some d := by
  decide

theorem readHexRun_hexDigits {n : Nat} : ∀ {v acc : Nat} {rest : List Char} {afterDigit : Bool},
    0 < n → readHexRun acc afterDigit (Sha256.hexDigits n v ++ rest) =
      readHexRun (acc * 16 ^ n + v % 16 ^ n) true rest := by
  induction n with
  | zero =>
    intro v acc rest afterDigit h
    omega
  | succ n ih =>
    intro v acc rest afterDigit _
    have hlow := hexValue_getD (v % 16) (Nat.mod_lt _ (by decide))
    -- the last digit is read after the others
    have hlast : ∀ (acc : Nat) (afterDigit : Bool),
        readHexRun acc afterDigit ([Sha256.hexAlphabet.getD (v % 16) '0'] ++ rest) =
          readHexRun (16 * acc + v % 16) true rest := by
      intro acc afterDigit
      rw [List.singleton_append, readHexRun, hlow]
    rw [Sha256.hexDigits, List.append_assoc]
    rcases Nat.eq_zero_or_pos n with rfl | hpos
    · rw [Sha256.hexDigits, List.nil_append, hlast]
      congr 1
      omega
    · rw [ih hpos, hlast]
      congr 1
      have hsplit : v % 16 ^ (n + 1) = v % 16 + 16 * (v / 16 % 16 ^ n) := by
        rw [Nat.pow_succ, Nat.mul_comm, Nat.mod_mul]
      rw [hsplit, Nat.pow_succ]
      ring

theorem dropBase_of_forall (h : ∀ c ∈ cs, c ∈ Sha256.hexAlphabet) :
    dropBase cs = cs := by
  have hlower : 'x' ∉ cs := fun hx => absurd (h 'x' hx) (by decide)
  have hupper : 'X' ∉ cs := fun hx => absurd (h 'X' hx) (by decide)
  -- every literal with a base has an `x` in it
  unfold dropBase
  split
  · simp at hlower
  · simp at hupper
  · simp at hlower
  · simp at hupper
  · rfl

theorem readInt16_of_forall (h : ∀ c ∈ cs, c ∈ Sha256.hexAlphabet) :
    readInt16 cs = (readHexRun 0 false cs).map Int.ofNat := by
  have hspace : stripWhere isSpace cs = cs := stripWhere_of_alphabet (by decide) h
  have hminus : '-' ∉ cs := fun hx => absurd (h '-' hx) (by decide)
  have hplus : '+' ∉ cs := fun hx => absurd (h '+' hx) (by decide)
  rw [readInt16, hspace]
  split
  · simp at hminus
  · simp at hplus
  · rw [dropBase_of_forall h]

theorem readInt16_hexDigits (id : Uuid) :
    readInt16 (Sha256.hexDigits 32 id) = some (Int.ofNat (id % 16 ^ 32)) := by
  rw [readInt16_of_forall fun c => Sha256.mem_hexAlphabet_of_mem_hexDigits]
  have hrun := @readHexRun_hexDigits 32 id 0 [] false (by decide)
  rw [List.append_nil, Nat.zero_mul, Nat.zero_add] at hrun
  rw [hrun]
  rfl

/-! ## The round trip -/

theorem mem_uuidText {id : Uuid} (h : c ∈ (uuidText id).toList) :
    c ∈ '-' :: Sha256.hexAlphabet := by
  by_cases hc : c = '-'
  · rw [hc]
    exact List.mem_cons_self ..
  · -- a character of the text that is no hyphen is a digit of it
    have hdigit : c ∈ (uuidText id).toList.filter (· ≠ '-') := by
      simp only [List.mem_filter, decide_eq_true_eq]
      exact ⟨h, hc⟩
    rw [filter_uuidText] at hdigit
    exact List.mem_cons_of_mem _ (Sha256.mem_hexAlphabet_of_mem_hexDigits hdigit)

theorem hexDigits_mod (n : Nat) : ∀ v, Sha256.hexDigits n (v % 16 ^ n) = Sha256.hexDigits n v := by
  induction n with
  | zero =>
    intro v
    rfl
  | succ n ih =>
    intro v
    have hhigh : v % 16 ^ (n + 1) / 16 = v / 16 % 16 ^ n := by
      rw [Nat.pow_succ, Nat.mul_comm, Nat.mod_mul_right_div_self]
    have hlow : v % 16 ^ (n + 1) % 16 = v % 16 :=
      Nat.mod_mod_of_dvd v ⟨16 ^ n, by rw [Nat.pow_succ, Nat.mul_comm]⟩
    rw [Sha256.hexDigits, Sha256.hexDigits, hhigh, hlow, ih]

theorem uuidText_mod (id : Uuid) : uuidText (id % 16 ^ 32) = uuidText id := by
  simp only [uuidText, hexDigits_mod]

/-- **Reading the text of a uuid gives it back.** -/
theorem readUuid_uuidText (id : Uuid) : readUuid (uuidText id) = some (id % 16 ^ 32) := by
  have hchars : ∀ c ∈ (uuidText id).toList, c ∈ '-' :: Sha256.hexAlphabet := fun c => mem_uuidText
  have hnoU : 'u' ∉ (uuidText id).toList := by
    intro h
    exact absurd (hchars 'u' h) (by decide)
  have hbare : removeAll "uuid:".toList 0 (removeAll "urn:".toList 0 (uuidText id).toList) =
      (uuidText id).toList := by
    rw [show "urn:".toList = 'u' :: ['r', 'n', ':'] from rfl,
      removeAll_of_head_not_mem hnoU, show "uuid:".toList = 'u' :: ['u', 'i', 'd', ':'] from rfl,
      removeAll_of_head_not_mem hnoU]
  have hbraces : stripWhere isBrace (uuidText id).toList = (uuidText id).toList :=
    stripWhere_of_alphabet (by decide) hchars
  have hlen : (Sha256.hexDigits 32 id).length = 32 := Sha256.length_hexDigits id 32
  have hbound : id % 16 ^ 32 < 16 ^ 32 := Nat.mod_lt _ (by decide)
  simp only [readUuid, hbare, hbraces, filter_uuidText, hlen, if_true, readInt16_hexDigits]
  rw [if_pos hbound]

end CreditOps
