import CreditOps.Library.Sha256
import CreditOps.Domain.Database

/-!
# Texts

The string operations the domain relies on: white space as `str.strip` sees it, the canonical text of
a uuid, and JSON rendering of arrays of plain strings. Two uuids of 128 bits with one text are one uuid
(`uuidText_inj`).
-/

set_option autoImplicit false

namespace CreditOps

/-- The characters `str.strip` removes. -/
def isSpace (c : Char) : Bool :=
  let n := c.toNat
  (9 ≤ n ∧ n ≤ 13) ∨ (28 ≤ n ∧ n ≤ 32) ∨ n = 0x85 ∨ n = 0xa0 ∨ n = 0x1680 ∨
    (0x2000 ≤ n ∧ n ≤ 0x200a) ∨ n = 0x2028 ∨ n = 0x2029 ∨ n = 0x202f ∨ n = 0x205f ∨ n = 0x3000

/-- The text has nothing left after `strip`. -/
def isBlank (text : String) : Bool :=
  text.toList.all isSpace

/-- The bounds on the text of a request, of an action or of a gap. -/
def FitsText (text : String) : Prop :=
  1 ≤ text.length ∧ text.length ≤ 2000

instance (text : String) : Decidable (FitsText text) :=
  inferInstanceAs (Decidable (_ ∧ _))

/-- `str.strip()` -/
def strip (text : String) : String :=
  String.ofList (((text.toList.dropWhile isSpace).reverse.dropWhile isSpace).reverse)

/-- `str(uuid)`: thirty-two hexadecimal digits in groups of 8, 4, 4, 4 and 12. -/
def uuidText (id : Uuid) : String :=
  let digits := Sha256.hexDigits 32 id
  String.ofList (digits.take 8 ++ ['-'] ++ (digits.drop 8).take 4 ++ ['-'] ++
    (digits.drop 12).take 4 ++ ['-'] ++ (digits.drop 16).take 4 ++ ['-'] ++ digits.drop 20)

/-- A JSON array of strings that need no escaping, without white space. -/
def jsonStrings (texts : List String) : String :=
  "[" ++ ",".intercalate (texts.map fun text => "\"" ++ text ++ "\"") ++ "]"

/-- `sha256(text.encode("utf-8")).hexdigest()` -/
def sha256Hex (text : String) : String :=
  String.ofList (Sha256.hexDigest text)

/-- The pattern `^[0-9a-f]{64}$`. -/
def isSha256Hex (text : String) : Bool :=
  Sha256.isHexDigest text.toList

/-- The text of a uuid without its hyphens. -/
theorem filter_uuidText (id : Uuid) :
    (uuidText id).toList.filter (· ≠ '-') = Sha256.hexDigits 32 id := by
  -- a group of digits has no hyphen in it
  have hgroup : ∀ group : List Char, (∀ c ∈ group, c ∈ Sha256.hexDigits 32 id) →
      group.filter (· ≠ '-') = group := by
    intro group hdigits
    rw [List.filter_eq_self]
    intro c hc
    have hhex := Sha256.mem_hexAlphabet_of_mem_hexDigits (hdigits c hc)
    rw [decide_eq_true_eq]
    rintro rfl
    revert hhex
    decide
  have hmiddle : ∀ k n, ∀ c ∈ ((Sha256.hexDigits 32 id).drop k).take n,
      c ∈ Sha256.hexDigits 32 id :=
    fun k n c hc => List.mem_of_mem_drop (List.mem_of_mem_take hc)
  have hhyphen : ['-'].filter (· ≠ '-') = ([] : List Char) := by decide
  simp only [uuidText, String.toList_ofList, List.filter_append, hhyphen, List.append_nil]
  rw [hgroup _ (fun c hc => List.mem_of_mem_take hc), hgroup _ (hmiddle 8 4),
    hgroup _ (hmiddle 12 4), hgroup _ (hmiddle 16 4), hgroup _ (fun c hc => List.mem_of_mem_drop hc)]
  generalize Sha256.hexDigits 32 id = digits
  -- the groups follow one another
  have hnext : ∀ k n, (digits.drop k).take n ++ digits.drop (k + n) = digits.drop k := by
    intro k n
    rw [← List.drop_drop, List.take_append_drop]
  rw [List.append_assoc, List.append_assoc, List.append_assoc, hnext 16 4, hnext 12 4, hnext 8 4,
    List.take_append_drop]

/-- **The text of a uuid names it.** -/
theorem uuidText_inj {id other : Uuid} (hid : id < 16 ^ 32) (hother : other < 16 ^ 32)
    (h : uuidText id = uuidText other) : id = other := by
  apply Sha256.hexDigits_inj 32 hid hother
  rw [← filter_uuidText, ← filter_uuidText, h]

theorem isSha256Hex_sha256Hex (text : String) : isSha256Hex (sha256Hex text) = true := by
  rw [isSha256Hex, sha256Hex, String.toList_ofList]
  exact Sha256.isHexDigest_hexDigest text

end CreditOps
