import CreditOps.Library.Sha256
import CreditOps.Library.UntrustedJson

/-!
# Writing JSON

`json.dumps` of a value, for any white space after the separators and with or without characters beyond
ASCII. A text is quoted character by character; a float is the text Python writes it with, except that the
three that are not finite have names of their own in JSON.
-/

set_option autoImplicit false

namespace JsonText

/-! ## Layout -/

/-- The white space of JSON. -/
def isJsonSpace (c : Char) : Bool :=
  c = ' ' ∨ c = '\t' ∨ c = '\n' ∨ c = '\r'

/-- The separators, and whether a character beyond ASCII is escaped. -/
structure Format where
  ensureAscii : Bool
  itemSpace : List Char
  keySpace : List Char
  itemSpace_blank : ∀ c ∈ itemSpace, isJsonSpace c = true
  keySpace_blank : ∀ c ∈ keySpace, isJsonSpace c = true

theorem isJsonSpace_singleton : ∀ c ∈ [' '], isJsonSpace c = true :=
  List.all_eq_true.1 rfl

/-- `json.dumps(value)` -/
def Format.standard : Format where
  ensureAscii := true
  itemSpace := [' ']
  keySpace := [' ']
  itemSpace_blank := isJsonSpace_singleton
  keySpace_blank := isJsonSpace_singleton

/-- `json.dumps(value, ensure_ascii=False, separators=(",", ":"))` -/
def Format.compact : Format where
  ensureAscii := false
  itemSpace := []
  keySpace := []
  itemSpace_blank := List.forall_mem_nil _
  keySpace_blank := List.forall_mem_nil _

/-! ## Texts and numbers -/

/-- `\uXXXX` -/
def codeUnit (n : Nat) : List Char :=
  '\\' :: 'u' :: Sha256.hexDigits 4 n

/-- The escape of a character by its code, as one unit or as a pair of surrogates. -/
def unicodeEscape (n : Nat) : List Char :=
  if n < 0x10000 then codeUnit n
  else codeUnit (0xD800 + (n - 0x10000) / 0x400) ++ codeUnit (0xDC00 + (n - 0x10000) % 0x400)

/-- The character with a short escape. -/
def shortEscape (c : Char) : Option Char :=
  if c = '"' then some '"'
  else if c = '\\' then some '\\'
  else if c = '\n' then some 'n'
  else if c = '\r' then some 'r'
  else if c = '\t' then some 't'
  else if c = '\x08' then some 'b'
  else if c = '\x0c' then some 'f'
  else none

/-- One character of a text. -/
def escapeChar (ensureAscii : Bool) (c : Char) : List Char :=
  match shortEscape c with
  | some e => ['\\', e]
  | none =>
    if c.toNat < 32 ∨ (ensureAscii = true ∧ 127 ≤ c.toNat) then unicodeEscape c.toNat else [c]

/-- A quoted text. -/
def quote (format : Format) (text : String) : List Char :=
  '"' :: (text.toList.flatMap (escapeChar format.ensureAscii) ++ ['"'])

/-- `int.__repr__` -/
def intText : Int → List Char
  | .ofNat n => Nat.toDigits 10 n
  | .negSucc n => '-' :: Nat.toDigits 10 (n + 1)

/-- `floatstr`, from the text Python writes a float with. -/
def floatText (text : String) : List Char :=
  if text = "nan" then "NaN".toList
  else if text = "inf" then "Infinity".toList
  else if text = "-inf" then "-Infinity".toList
  else text.toList

/-! ## Values -/

mutual

/-- `json.dumps` -/
def encode (format : Format) : JsonValue → List Char
  | .null => "null".toList
  | .bool value => if value then "true".toList else "false".toList
  | .int value => intText value
  | .float text => floatText text
  | .string text => quote format text
  | .array items => '[' :: (encodeItems format items ++ [']'])
  | .object entries => '{' :: (encodeEntries format entries ++ ['}'])

/-- The items of a list. -/
def encodeItems (format : Format) : List JsonValue → List Char
  | [] => []
  | item :: items =>
    encode format item ++
      if items.isEmpty then [] else ',' :: (format.itemSpace ++ encodeItems format items)

/-- The entries of a dictionary. -/
def encodeEntries (format : Format) : List (String × JsonValue) → List Char
  | [] => []
  | (key, value) :: entries =>
    quote format key ++ ':' :: (format.keySpace ++ encode format value ++
      if entries.isEmpty then [] else ',' :: (format.itemSpace ++ encodeEntries format entries))

end

/-- `json.dumps(value)` as a string. -/
def dumps (format : Format) (value : JsonValue) : String :=
  String.ofList (encode format value)

example : dumps .standard (.object [("a", .array [.int (-3), .string "é\n"])]) =
    "\x7b\"a\": [-3, \"\\u00e9\\n\"]\x7d" := by decide

end JsonText
