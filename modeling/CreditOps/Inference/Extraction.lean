import CreditOps.Domain.UuidText
import CreditOps.Inference.OutputWalk
import CreditOps.Library.JsonReading
import CreditOps.Library.Substitution

/-!
# Extracting an object from a model's answer

A model's answer may wrap its JSON in a reasoning block, in a code fence or in prose. The extraction removes
every reasoning block, strips the rest, and takes the first of three candidates that parses as an object: the
first fenced block, the whole text, and the span from the first opening to the last closing brace
(`extractJsonObject`).
-/

set_option autoImplicit false

namespace CreditOps.Inference

open JsonText Substitution

/-! ## Words ignoring case -/

/-- A word of a pattern, each character with the ones it matches. -/
abbrev FoldedWord := List (List Char)

/-- The word at the head of a text. -/
def startsLike : FoldedWord → List Char → Bool
  | [], _ => true
  | _ :: _, [] => false
  | options :: word, c :: cs => decide (c ∈ options) && startsLike word cs

/-- The text before the first occurrence of a word, and from it on. -/
def splitAtWord (word : FoldedWord) : List Char → Option (List Char × List Char)
  | [] => none
  | c :: cs =>
    if startsLike word (c :: cs) then some ([], c :: cs)
    else (splitAtWord word cs).map fun split => (c :: split.1, split.2)

/-! ## Reasoning blocks -/

/-- `think` -/
def thinkWord : FoldedWord :=
  [['t', 'T'], ['h', 'H'], ['i', 'I', '\u0130', '\u0131'], ['n', 'N'], ['k', 'K', '\u212a']]

/-- `<think` -/
def openTag : FoldedWord := ['<'] :: thinkWord

/-- `</think>` -/
def closeTag : FoldedWord := ['<'] :: ['/'] :: (thinkWord ++ [['>']])

/-- `\w` -/
def isWordChar (tables : UnicodeTables) (c : Char) : Bool :=
  tables.isalnum c ∨ c = '_'

/-- A match of `<think\b[^>]*>.*?</think>` at the head of a text: the characters it takes. -/
def thinkAt (tables : UnicodeTables) (cs : List Char) : Option Nat :=
  if startsLike openTag cs = false then none
  else if (cs.drop openTag.length).head?.any (isWordChar tables) then none
  else
    match splitAtWord [['>']] (cs.drop openTag.length) with
    | none => none
    | some (attributes, inside) =>
      match splitAtWord closeTag inside with
      | none => none
      | some (thought, _) =>
        some (openTag.length + attributes.length + thought.length + closeTag.length)

/-- `_THINK_RE.sub("", content)` -/
def withoutThoughts (tables : UnicodeTables) (content : List Char) : List Char :=
  substitute (thinkAt tables) [] 0 content

/-! ## Code fences -/

/-- Three backticks. -/
def ticks : FoldedWord := [['`'], ['`'], ['`']]

/-- `json` -/
def jsonWord : FoldedWord := [['j', 'J'], ['s', 'S', '\u017f'], ['o', 'O'], ['n', 'N']]

/-- Drops the white space at the end. -/
def rstrip (cs : List Char) : List Char :=
  (cs.reverse.dropWhile isSpace).reverse

/-- The group of the first match of `_FENCE_RE`. -/
def fencedBlock (text : List Char) : Option (List Char) :=
  match splitAtWord ticks text with
  | none => none
  | some (_, fence) =>
    let behind := fence.drop ticks.length
    let behind := if startsLike jsonWord behind then behind.drop jsonWord.length else behind
    (splitAtWord ticks (behind.dropWhile isSpace)).map fun split => rstrip split.1

/-! ## Candidates -/

/-- From the first opening to the last closing brace; empty where there is no such span. -/
def braceSpan (text : List Char) : List Char :=
  ((text.dropWhile (· ≠ '{')).reverse.dropWhile (· ≠ '}')).reverse

/-- `candidates` -/
def candidates (text : List Char) : List (List Char) :=
  ((fencedBlock text).map (stripWhere isSpace)).toList ++ [text, braceSpan text]

/-- The object a candidate parses as. -/
def parseObject (reading : Reading) (candidate : List Char) : Option JsonValue :=
  if candidate = [] then none
  else
    match loads reading candidate with
    | some (.object entries) => some (.object entries)
    | _ => none

/-- `_extract_json_object` -/
def extractJsonObject (tables : UnicodeTables) (reading : Reading) (content : List Char) :
    Except InferenceError JsonValue :=
  match (candidates (stripWhere isSpace (withoutThoughts tables content))).findSome? (parseObject reading) with
  | some object => .ok object
  | none => .error (.validation "FPT chat content did not contain a JSON object")

/-- A reader that takes every float for the text it is written with. -/
def plainReading : Reading where
  float := id
  accepts := fun digits => digits ≤ 4300

end CreditOps.Inference
