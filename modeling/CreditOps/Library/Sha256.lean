import Mathlib.Algebra.Group.Nat.Defs
import Mathlib.Data.List.GetD

/-!
# SHA-256

The digest of a text by its UTF-8 bytes, and its lower-case hexadecimal rendering, on natural numbers
below `2 ^ 32`. The definitions are computable and evaluate in the kernel, so a statement about the
digests of two concrete texts is decided.
-/

set_option autoImplicit false

namespace Sha256

/-! ## Words -/

/-- Words are taken modulo `2 ^ 32`. -/
def modulus : Nat := 4294967296

/-- Rotation to the right. -/
def rotateRight (x n : Nat) : Nat := (x >>> n ||| x <<< (32 - n)) % modulus

/-- The round constants. -/
def roundConstants : List Nat :=
  [0x428a2f98, 0x71374491, 0xb5c0fbcf, 0xe9b5dba5, 0x3956c25b, 0x59f111f1, 0x923f82a4, 0xab1c5ed5,
    0xd807aa98, 0x12835b01, 0x243185be, 0x550c7dc3, 0x72be5d74, 0x80deb1fe, 0x9bdc06a7, 0xc19bf174,
    0xe49b69c1, 0xefbe4786, 0x0fc19dc6, 0x240ca1cc, 0x2de92c6f, 0x4a7484aa, 0x5cb0a9dc, 0x76f988da,
    0x983e5152, 0xa831c66d, 0xb00327c8, 0xbf597fc7, 0xc6e00bf3, 0xd5a79147, 0x06ca6351, 0x14292967,
    0x27b70a85, 0x2e1b2138, 0x4d2c6dfc, 0x53380d13, 0x650a7354, 0x766a0abb, 0x81c2c92e, 0x92722c85,
    0xa2bfe8a1, 0xa81a664b, 0xc24b8b70, 0xc76c51a3, 0xd192e819, 0xd6990624, 0xf40e3585, 0x106aa070,
    0x19a4c116, 0x1e376c08, 0x2748774c, 0x34b0bcb5, 0x391c0cb3, 0x4ed8aa4a, 0x5b9cca4f, 0x682e6ff3,
    0x748f82ee, 0x78a5636f, 0x84c87814, 0x8cc70208, 0x90befffa, 0xa4506ceb, 0xbef9a3f7, 0xc67178f2]

/-! ## Compression -/

/-- The eight chaining registers. -/
structure Registers where
  a : Nat
  b : Nat
  c : Nat
  d : Nat
  e : Nat
  f : Nat
  g : Nat
  h : Nat
deriving DecidableEq

/-- The initial registers. -/
def initialRegisters : Registers :=
  ⟨0x6a09e667, 0xbb67ae85, 0x3c6ef372, 0xa54ff53a, 0x510e527f, 0x9b05688c, 0x1f83d9ab, 0x5be0cd19⟩

/-- Extend a message schedule, newest word first, by a number of words. -/
def extendSchedule : Nat → List Nat → List Nat
  | 0, schedule => schedule
  | n + 1, schedule =>
    let w15 := schedule.getD 14 0
    let w2 := schedule.getD 1 0
    let s0 := rotateRight w15 7 ^^^ rotateRight w15 18 ^^^ (w15 >>> 3)
    let s1 := rotateRight w2 17 ^^^ rotateRight w2 19 ^^^ (w2 >>> 10)
    extendSchedule n
      ((schedule.getD 15 0 + s0 + schedule.getD 6 0 + s1) % modulus :: schedule)

/-- One round, for a round constant and a schedule word. -/
def round (r : Registers) (kw : Nat × Nat) : Registers :=
  let s1 := rotateRight r.e 6 ^^^ rotateRight r.e 11 ^^^ rotateRight r.e 25
  let choice := (r.e &&& r.f) ^^^ ((modulus - 1 - r.e) &&& r.g)
  let t1 := r.h + s1 + choice + kw.1 + kw.2
  let s0 := rotateRight r.a 2 ^^^ rotateRight r.a 13 ^^^ rotateRight r.a 22
  let majority := (r.a &&& r.b) ^^^ (r.a &&& r.c) ^^^ (r.b &&& r.c)
  ⟨(t1 + s0 + majority) % modulus, r.a, r.b, r.c, (r.d + t1) % modulus, r.e, r.f, r.g⟩

/-- Compress one block of sixteen words into the registers. -/
def compress (r : Registers) (block : List Nat) : Registers :=
  let schedule := (extendSchedule 48 block.reverse).reverse
  let t := (roundConstants.zip schedule).foldl round r
  ⟨(r.a + t.a) % modulus, (r.b + t.b) % modulus, (r.c + t.c) % modulus, (r.d + t.d) % modulus,
    (r.e + t.e) % modulus, (r.f + t.f) % modulus, (r.g + t.g) % modulus, (r.h + t.h) % modulus⟩

/-! ## Messages -/

/-- The `n` low bytes of a number, most significant first. -/
def bigEndian : Nat → Nat → List Nat
  | 0, _ => []
  | n + 1, v => bigEndian n (v / 256) ++ [v % 256]

/-- The padded message: a one bit, zeros up to the length field, and the length in bits. -/
def pad (bytes : List Nat) : List Nat :=
  bytes ++ [0x80] ++ List.replicate ((119 - bytes.length % 64) % 64) 0 ++
    bigEndian 8 (bytes.length * 8)

/-- Bytes to words. -/
def words : List Nat → List Nat
  | a :: b :: c :: d :: rest => (((a * 256 + b) * 256 + c) * 256 + d) :: words rest
  | _ => []

/-- A number of blocks of sixteen words. -/
def blocks : Nat → List Nat → List (List Nat)
  | 0, _ => []
  | n + 1, ws => ws.take 16 :: blocks n (ws.drop 16)

/-- The digest of a message. -/
def digest (bytes : List Nat) : Registers :=
  let ws := words (pad bytes)
  (blocks (ws.length / 16) ws).foldl compress initialRegisters

/-! ## Rendering -/

/-- The UTF-8 bytes of a text. -/
def utf8Bytes (text : String) : List Nat :=
  text.toList.flatMap fun c => (String.utf8EncodeChar c).map UInt8.toNat

/-- The hexadecimal digits, in order. -/
def hexAlphabet : List Char :=
  ['0', '1', '2', '3', '4', '5', '6', '7', '8', '9', 'a', 'b', 'c', 'd', 'e', 'f']

/-- The `n` low hexadecimal digits of a number, most significant first. -/
def hexDigits : Nat → Nat → List Char
  | 0, _ => []
  | n + 1, v => hexDigits n (v / 16) ++ [hexAlphabet.getD (v % 16) '0']

/-- `sha256(text).hexdigest()` as a list of characters. -/
def hexDigest (text : String) : List Char :=
  let r := digest (utf8Bytes text)
  [r.a, r.b, r.c, r.d, r.e, r.f, r.g, r.h].flatMap (hexDigits 8)

/-- The shape `^[0-9a-f]{64}$`. -/
def isHexDigest (text : List Char) : Bool :=
  text.length = 64 ∧ text.all (· ∈ hexAlphabet)

theorem length_hexDigits (v : Nat) : ∀ n, (hexDigits n v).length = n := by
  intro n
  induction n generalizing v with
  | zero => rfl
  | succ _ ih => simp only [hexDigits, List.length_append, ih, List.length_singleton]

theorem mem_hexAlphabet_of_mem_hexDigits {v n : Nat} {c : Char} (h : c ∈ hexDigits n v) :
    c ∈ hexAlphabet := by
  induction n generalizing v with
  | zero => cases h
  | succ _ ih =>
    rcases List.mem_append.1 h with hrest | hlast
    · exact ih hrest
    · rw [List.mem_singleton] at hlast
      have hlt : v % 16 < hexAlphabet.length := Nat.mod_lt _ (by decide)
      rw [hlast, List.getD_eq_getElem _ _ hlt]
      exact List.getElem_mem hlt

theorem hexAlphabet_getD_inj : ∀ a < 16, ∀ b < 16,
    hexAlphabet.getD a '0' = hexAlphabet.getD b '0' → a = b := by
  decide

/-- **The digits of a number give it back**, as far as they go. -/
theorem hexDigits_inj (n : Nat) {v w : Nat} (hv : v < 16 ^ n) (hw : w < 16 ^ n)
    (h : hexDigits n v = hexDigits n w) : v = w := by
  induction n generalizing v w with
  | zero => omega
  | succ _ ih =>
    rw [Nat.pow_succ] at hv hw
    obtain ⟨hhigh, hlow⟩ := List.append_inj' h rfl
    have hrest : v / 16 = w / 16 :=
      ih (Nat.div_lt_of_lt_mul (by omega)) (Nat.div_lt_of_lt_mul (by omega)) hhigh
    have hdigit : v % 16 = w % 16 :=
      hexAlphabet_getD_inj _ (Nat.mod_lt _ (by decide)) _ (Nat.mod_lt _ (by decide))
        (List.cons.inj hlow).1
    omega

/-- **Every digest passes its own format check.** -/
theorem isHexDigest_hexDigest (text : String) : isHexDigest (hexDigest text) = true := by
  simp only [isHexDigest, decide_eq_true_eq]
  constructor
  · simp only [hexDigest, List.flatMap_cons, List.flatMap_nil, List.length_append,
      length_hexDigits, List.length_nil]
  · rw [List.all_eq_true]
    intro c hc
    obtain ⟨v, -, hv⟩ := List.mem_flatMap.1 hc
    exact decide_eq_true (mem_hexAlphabet_of_mem_hexDigits hv)

example : String.ofList (hexDigest "abc") =
    "ba7816bf8f01cfea414140de5dae2223b00361a396177a9cb410ff61f20015ad" := by decide +kernel

end Sha256
