import CreditOps.Library.JsonEncoding

/-!
# Reading JSON

`json.loads`: a value by recursive descent, with white space around every part, and nothing behind it. A
number is an integer unless it has a fraction or an exponent; of two entries with one key the later value
stands. `NaN` and the infinities are read, and a character below the blank is refused inside a text.

The recursion is bounded by twice the length of the text: between two levels a character is read.
-/

set_option autoImplicit false

namespace JsonText

/-- What the reader takes from the platform: `repr(float(text))`, and the numbers of digits `int` reads. -/
structure Reading where
  float : String → String
  accepts : Nat → Bool

/-- `WHITESPACE.match` -/
def skipSpace (cs : List Char) : List Char :=
  cs.dropWhile isJsonSpace

/-! ## Texts -/

/-- The value of a hexadecimal digit. -/
def hexDigit? (c : Char) : Option Nat :=
  if '0' ≤ c ∧ c ≤ '9' then some (c.toNat - 48)
  else if 'a' ≤ c ∧ c ≤ 'f' then some (c.toNat - 87)
  else if 'A' ≤ c ∧ c ≤ 'F' then some (c.toNat - 55)
  else none

/-- Four hexadecimal digits. -/
def codeUnit? : List Char → Option Nat
  | a :: b :: c :: d :: _ => do
    let a ← hexDigit? a
    let b ← hexDigit? b
    let c ← hexDigit? c
    let d ← hexDigit? d
    return ((a * 16 + b) * 16 + c) * 16 + d
  | _ => none

/-- The character of a code unit; a surrogate that stands alone becomes the replacement character. -/
def unitChar (n : Nat) : Char :=
  if n.isValidChar then Char.ofNat n else '\ufffd'

/-- The second half of a pair of surrogates. -/
def lowSurrogate? : List Char → Option Nat
  | '\\' :: 'u' :: cs => (codeUnit? cs).filter fun n => 0xDC00 ≤ n ∧ n ≤ 0xDFFF
  | _ => none

/-- The character of a short escape. -/
def readShort (c : Char) : Option Char :=
  if c = '"' then some '"'
  else if c = '\\' then some '\\'
  else if c = '/' then some '/'
  else if c = 'b' then some '\x08'
  else if c = 'f' then some '\x0c'
  else if c = 'n' then some '\n'
  else if c = 'r' then some '\r'
  else if c = 't' then some '\t'
  else none

/-- What follows a backslash: the character it stands for, and how many characters were read. -/
def readEscape : List Char → Option (Char × Nat)
  | [] => none
  | c :: cs =>
    if c = 'u' then
      match codeUnit? cs with
      | none => none
      | some n =>
        match (if 0xD800 ≤ n ∧ n ≤ 0xDBFF then lowSurrogate? (cs.drop 4) else none) with
        | some m => some (Char.ofNat (0x10000 + (n - 0xD800) * 0x400 + (m - 0xDC00)), 11)
        | none => some (unitChar n, 5)
    else (readShort c).map fun c => (c, 1)

/-- Put a character before a text that was read. -/
def pushChar (c : Char) (read : List Char × List Char) : List Char × List Char :=
  (c :: read.1, read.2)

/-- `scanstring` behind the opening quote, with the characters of an escape still to skip. -/
def readString : Nat → List Char → Option (List Char × List Char)
  | _, [] => none
  | skip + 1, _ :: cs => readString skip cs
  | 0, c :: cs =>
    if c = '"' then some ([], cs)
    else if c = '\\' then
      match readEscape cs with
      | none => none
      | some (d, n) => (readString n cs).map (pushChar d)
    else if c.toNat < 32 then none
    else (readString 0 cs).map (pushChar c)

/-! ## Numbers -/

/-- The sign of a number. -/
def scanSign : List Char → List Char × List Char
  | '-' :: cs => (['-'], cs)
  | cs => ([], cs)

/-- The digits before the point. -/
def scanInteger : List Char → Option (List Char × List Char)
  | [] => none
  | c :: cs =>
    if c = '0' then some ([c], cs)
    else if c.isDigit then some (c :: cs.takeWhile Char.isDigit, cs.dropWhile Char.isDigit)
    else none

/-- The point and the digits behind it. -/
def scanFraction : List Char → List Char × List Char
  | [] => ([], [])
  | c :: cs =>
    if c = '.' ∧ cs.takeWhile Char.isDigit ≠ [] then
      (c :: cs.takeWhile Char.isDigit, cs.dropWhile Char.isDigit)
    else ([], c :: cs)

/-- The sign of an exponent. -/
def scanExponentSign : List Char → List Char × List Char
  | [] => ([], [])
  | c :: cs => if c = '+' ∨ c = '-' then ([c], cs) else ([], c :: cs)

/-- The exponent. -/
def scanExponent : List Char → List Char × List Char
  | [] => ([], [])
  | c :: cs =>
    let (sign, digits) := scanExponentSign cs
    if (c = 'e' ∨ c = 'E') ∧ digits.takeWhile Char.isDigit ≠ [] then
      (c :: (sign ++ digits.takeWhile Char.isDigit), digits.dropWhile Char.isDigit)
    else ([], c :: cs)

/-- A number: its integer part with the sign, its fraction and exponent, and what is left. -/
structure NumberScan where
  integer : List Char
  tail : List Char
  rest : List Char
deriving DecidableEq

/-- `_match_number_unicode` -/
def scanNumber (cs : List Char) : Option NumberScan :=
  let (sign, cs) := scanSign cs
  match scanInteger cs with
  | none => none
  | some (digits, cs) =>
    let (fraction, cs) := scanFraction cs
    let (exponent, cs) := scanExponent cs
    some ⟨sign ++ digits, fraction ++ exponent, cs⟩

/-- `int(text)` of an integer literal. -/
def literalInt : List Char → Int
  | '-' :: digits => -(Nat.ofDigitChars 10 digits 0 : Int)
  | digits => Nat.ofDigitChars 10 digits 0

/-- The number at the head of a text. -/
def readNumber (reading : Reading) (cs : List Char) : Option (JsonValue × List Char) :=
  match scanNumber cs with
  | none => none
  | some scan =>
    if scan.tail = [] then
      if reading.accepts (scanSign scan.integer).2.length then
        some (.int (literalInt scan.integer), scan.rest)
      else none
    else some (.float (reading.float (String.ofList (scan.integer ++ scan.tail))), scan.rest)

/-! ## Values -/

/-- A word and the value it names. -/
def readWord (word : String) (value : JsonValue) (cs : List Char) : Option (JsonValue × List Char) :=
  if word.toList.isPrefixOf cs then some (value, cs.drop word.toList.length) else none

/-- A value that is no text and has no parts. -/
def readScalar (reading : Reading) (cs : List Char) : Option (JsonValue × List Char) :=
  readWord "null" .null cs <|> readWord "true" (.bool true) cs <|> readWord "false" (.bool false) cs <|>
    readWord "NaN" (.float "nan") cs <|> readWord "Infinity" (.float "inf") cs <|>
      readWord "-Infinity" (.float "-inf") cs <|> readNumber reading cs

/-- One assignment to a dictionary: a known key keeps its place. -/
def setEntry (entries : List (String × JsonValue)) (entry : String × JsonValue) :
    List (String × JsonValue) :=
  if entries.any (·.1 = entry.1) then entries.map fun old => if old.1 = entry.1 then entry else old
  else entries ++ [entry]

/-- The dictionary of a sequence of entries. -/
def dictOf (entries : List (String × JsonValue)) : List (String × JsonValue) :=
  entries.foldl setEntry []

mutual

/-- `scan_once`, for a recursion of at most that depth. -/
def readValue (reading : Reading) : Nat → List Char → Option (JsonValue × List Char)
  | 0, _ => none
  | _ + 1, [] => none
  | fuel + 1, c :: cs =>
    if c = '"' then (readString 0 cs).map fun read => (.string (String.ofList read.1), read.2)
    else if c = '[' then
      match skipSpace cs with
      | [] => none
      | d :: ds =>
        if d = ']' then some (.array [], ds)
        else (readItems reading fuel (d :: ds)).map fun read => (.array read.1, read.2)
    else if c = '{' then
      match skipSpace cs with
      | [] => none
      | d :: ds =>
        if d = '}' then some (.object [], ds)
        else (readEntries reading fuel (d :: ds)).map fun read => (.object (dictOf read.1), read.2)
    else readScalar reading (c :: cs)

/-- The items of a list behind its opening bracket. -/
def readItems (reading : Reading) : Nat → List Char → Option (List JsonValue × List Char)
  | 0, _ => none
  | fuel + 1, cs =>
    match readValue reading fuel cs with
    | none => none
    | some (item, rest) =>
      match skipSpace rest with
      | [] => none
      | d :: ds =>
        if d = ']' then some ([item], ds)
        else if d = ',' then
          (readItems reading fuel (skipSpace ds)).map fun read => (item :: read.1, read.2)
        else none

/-- The entries of a dictionary behind its opening brace. -/
def readEntries (reading : Reading) : Nat → List Char → Option (List (String × JsonValue) × List Char)
  | 0, _ => none
  | _ + 1, [] => none
  | fuel + 1, c :: cs =>
    if c = '"' then
      match readString 0 cs with
      | none => none
      | some (key, rest) =>
        match skipSpace rest with
        | [] => none
        | colon :: rest =>
          if colon = ':' then
            match readValue reading fuel (skipSpace rest) with
            | none => none
            | some (value, rest) =>
              match skipSpace rest with
              | [] => none
              | d :: ds =>
                if d = '}' then some ([(String.ofList key, value)], ds)
                else if d = ',' then
                  (readEntries reading fuel (skipSpace ds)).map fun read =>
                    ((String.ofList key, value) :: read.1, read.2)
                else none
          else none
    else none

end

/-- `json.loads`; none where it raises `ValueError`. -/
def loads (reading : Reading) (cs : List Char) : Option JsonValue :=
  match readValue reading (2 * (skipSpace cs).length + 1) (skipSpace cs) with
  | some (value, rest) => if skipSpace rest = [] then some value else none
  | none => none

end JsonText
