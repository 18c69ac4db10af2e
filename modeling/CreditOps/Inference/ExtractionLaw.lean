import CreditOps.Inference.Extraction
import CreditOps.Library.JsonRoundTrip
import Mathlib.Data.List.DropRight
import Mathlib.Data.List.Nodup

/-!
# When extraction undoes encoding

The text of an object, in any layout and with any text without braces around it, is extracted as the object
again (`extractJsonObject_encode`) when no reasoning block that is removed reaches into the text of the object,
and the first fenced block of what is left, if it parses as an object, is that text. Both can fail for the
contents of a string of the object (`thought_in_a_string`).
-/

set_option autoImplicit false

namespace CreditOps.Inference

open JsonText Substitution

variable {tables : UnicodeTables} {reading : Reading} {format : Format}

/-! ## Spans between braces -/

/-- The text has no brace. -/
def BraceFree (text : List Char) : Prop :=
  ∀ c ∈ text, c ≠ '{' ∧ c ≠ '}'

instance (text : List Char) : Decidable (BraceFree text) :=
  List.decidableBAll _ text

/-- The text begins with an opening brace and ends with a closing one. -/
def IsBraced (text : List Char) : Prop :=
  ∃ inner, text = '{' :: (inner ++ ['}'])

variable {cs back rest text front : List Char}

theorem BraceFree.sublist {other : List Char} (h : BraceFree text) (hsub : other.Sublist text) :
    BraceFree other :=
  fun c hc => h c (hsub.subset hc)

/-! ## Stripping -/

section Stripping

variable {p : Char → Bool} {c : Char}

theorem dropWhile_append_of_not (hc : p c = false) (front rest : List Char) :
    (front ++ c :: rest).dropWhile p = front.dropWhile p ++ c :: rest := by
  induction front with
  | nil =>
    rw [List.nil_append, List.dropWhile_cons_of_neg (by rw [hc]; exact Bool.false_ne_true)]
    rfl
  | cons _ _ ih =>
    rw [List.cons_append, List.dropWhile_cons, List.dropWhile_cons]
    split_ifs
    · exact ih
    · rfl

theorem dropWhile_reverse_append_of_not (hc : p c = false) (front rest : List Char) :
    ((front ++ c :: rest).reverse.dropWhile p).reverse = front ++ c :: (rest.reverse.dropWhile p).reverse := by
  have hsplit : (front ++ c :: rest).reverse = rest.reverse ++ c :: front.reverse := by
    rw [List.reverse_append, List.reverse_cons, List.append_assoc, List.singleton_append]
  rw [hsplit, dropWhile_append_of_not hc, List.reverse_append, List.reverse_cons, List.reverse_reverse,
    List.append_assoc, List.singleton_append]

end Stripping

theorem stripWhere_append {p : Char → Bool} (hopen : p '{' = false) (hclose : p '}' = false)
    (htext : IsBraced text) (before after : List Char) :
    stripWhere p (before ++ (text ++ after)) =
      before.dropWhile p ++ (text ++ (after.reverse.dropWhile p).reverse) := by
  obtain ⟨inner, rfl⟩ := htext
  have hsplit : ∀ front back : List Char,
      front ++ ('{' :: (inner ++ ['}']) ++ back) = front ++ '{' :: inner ++ '}' :: back := by
    intro front back
    rw [List.cons_append, List.append_assoc, List.append_assoc, List.cons_append, List.nil_append]
    rfl
  rw [stripWhere, List.cons_append, dropWhile_append_of_not hopen, ← List.cons_append, hsplit,
    dropWhile_reverse_append_of_not hclose, ← hsplit]

/-! ## What the removal leaves of a text -/

/-- What is left of a text that stands between two others. -/
def keptText (tables : UnicodeTables) (before text behind : List Char) : List Char :=
  keptFront (thinkAt tables) behind (leftover (thinkAt tables) (text ++ behind) 0 before) text

theorem withoutThoughts_split (tables : UnicodeTables) (before text behind : List Char) :
    ∃ front back, front.Sublist before ∧ back.Sublist behind ∧
      withoutThoughts tables (before ++ (text ++ behind)) =
        front ++ (keptText tables before text behind ++ back) := by
  refine ⟨keptFront (thinkAt tables) (text ++ behind) 0 before,
    substitute (thinkAt tables) []
      (leftover (thinkAt tables) behind (leftover (thinkAt tables) (text ++ behind) 0 before) text) behind,
    keptFront_sublist _ _ 0 before, removed_sublist _ behind, ?_⟩
  rw [withoutThoughts, substitute_append, substitute_append]
  rfl

theorem isBraced_encode (format : Format) (entries : List (String × JsonValue)) :
    IsBraced (encode format (.object entries)) :=
  ⟨encodeEntries format entries, rfl⟩

variable {entries : List (String × JsonValue)} {before behind : List Char}

/-- No reasoning block that is removed reaches into a text that stands between two others. -/
structure ThoughtsApart (tables : UnicodeTables) (before text behind : List Char) : Prop where
  before : leftover (thinkAt tables) (text ++ behind) 0 before = 0
  inside : ∀ rest, rest ≠ [] → rest <:+ text → thinkAt tables (rest ++ behind) = none

theorem thoughtsApart_iff (htext : text ≠ []) :
    ThoughtsApart tables before text behind ↔ keptText tables before text behind = text := by
  rw [keptText, keptFront_eq_self_iff htext]
  exact ⟨fun h => ⟨h.before, h.inside⟩, fun h => ⟨h.1, h.2⟩⟩

/-! ## The candidates -/

/-- The first fenced block of an answer, as it is tried. -/
def fencedCandidate (tables : UnicodeTables) (content : List Char) : Option (List Char) :=
  (fencedBlock (stripWhere isSpace (withoutThoughts tables content))).map (stripWhere isSpace)

/-- The first fenced block, if it parses as an object, is that text. -/
def FenceIsText (tables : UnicodeTables) (reading : Reading) (content text : List Char) : Prop :=
  ∀ block ∈ fencedCandidate tables content, (parseObject reading block).isSome = true → block = text

theorem parseObject_encode (hwritable : Writable reading (.object entries)) :
    parseObject reading (encode format (.object entries)) = some (.object entries) := by
  have hne : ¬ encode format (.object entries) = [] := fun h => List.cons_ne_nil _ _ h
  rw [parseObject, if_neg hne, loads_encode hwritable]

/-- The span between the braces of a braced text without braces around it. -/
theorem braceSpan_append (htext : IsBraced text) (hfront : BraceFree front) (hback : BraceFree back) :
    braceSpan (front ++ (text ++ back)) = text := by
  obtain ⟨inner, rfl⟩ := htext
  have hopen : front.dropWhile (· ≠ '{') = [] :=
    List.dropWhile_eq_nil_iff.2 fun c hc => decide_eq_true (hfront c hc).1
  have hclose : back.reverse.dropWhile (· ≠ '}') = [] :=
    List.dropWhile_eq_nil_iff.2 fun c hc => decide_eq_true (hback c (List.mem_reverse.1 hc)).2
  have hsplit : '{' :: (inner ++ ['}'] ++ back) = '{' :: inner ++ '}' :: back := by
    rw [List.append_assoc, List.singleton_append]
    rfl
  rw [braceSpan, List.cons_append, dropWhile_append_of_not (decide_eq_false (by simp)), hopen, List.nil_append,
    hsplit, dropWhile_reverse_append_of_not (decide_eq_false (by simp)), hclose]
  rfl

/-- No word and no number is a dictionary. -/
theorem readScalar_ne_object (read : List (String × JsonValue)) :
    readScalar reading cs ≠ some (.object read, rest) := by
  have hword : ∀ word (value : JsonValue), value ≠ .object read →
      readWord word value cs ≠ some (.object read, rest) := by
    intro word value hne h
    unfold readWord at h
    split_ifs at h
    exact hne (Prod.mk.inj (Option.some.inj h)).1
  intro h
  simp only [readScalar, Option.orElse_eq_some] at h
  rcases h with h | ⟨-, h | ⟨-, h | ⟨-, h | ⟨-, h | ⟨-, h | ⟨-, h⟩⟩⟩⟩⟩⟩
  · exact hword _ _ JsonValue.noConfusion h
  · exact hword _ _ JsonValue.noConfusion h
  · exact hword _ _ JsonValue.noConfusion h
  · exact hword _ _ JsonValue.noConfusion h
  · exact hword _ _ JsonValue.noConfusion h
  · exact hword _ _ JsonValue.noConfusion h
  · unfold readNumber at h
    split at h
    · cases h
    · split_ifs at h <;> cases h

/-- A dictionary begins with its opening brace. -/
theorem head_of_object {fuel : Nat} {read : List (String × JsonValue)}
    (h : readValue reading fuel cs = some (.object read, rest)) : ∃ tail, cs = '{' :: tail := by
  cases fuel with
  | zero => cases h
  | succ =>
    cases cs with
    | nil => cases h
    | cons _ tail =>
      rw [readValue.eq_3] at h
      split_ifs at h with hquote hbracket hbrace
      · obtain ⟨_, -, heq⟩ := Option.map_eq_some_iff.1 h
        cases heq
      · split at h
        · cases h
        split_ifs at h
        · cases h
        obtain ⟨_, -, heq⟩ := Option.map_eq_some_iff.1 h
        cases heq
      · exact ⟨tail, by rw [hbrace]⟩
      · exact absurd h (readScalar_ne_object read)

variable {object : JsonValue}

/-- **An answer that parses as an object, with no brace in front of the text, is parsed as its object.** -/
theorem object_of_parsed (hwritable : Writable reading (.object entries)) (hfront : BraceFree front)
    (hparse : parseObject reading (front ++ (encode format (.object entries) ++ back)) = some object) :
    object = .object entries := by
  unfold parseObject at hparse
  split_ifs at hparse
  split at hparse
  case h_2 => cases hparse
  case h_1 read hloads =>
    cases hparse
    unfold loads at hloads
    split at hloads
    case h_2 => cases hloads
    case h_1 value rest hread =>
      split_ifs at hloads with hend
      cases hloads
      obtain ⟨_, htail⟩ := head_of_object hread
      -- what is in front of the text is blank
      have hskip : skipSpace (front ++ (encode format (.object entries) ++ back)) =
          encode format (.object entries) ++ back := by
        have hsplit : front ++ (encode format (.object entries) ++ back) =
            front ++ '{' :: (encodeEntries format entries ++ ['}'] ++ back) := by
          rw [encode, List.cons_append]
        rw [hsplit, skipSpace, dropWhile_append_of_not rfl] at htail ⊢
        cases hdrop : front.dropWhile isJsonSpace with
        | nil =>
          rw [encode, List.cons_append, List.nil_append]
        | cons c =>
          rw [hdrop] at htail
          have hmem : c ∈ front := (List.dropWhile_suffix isJsonSpace).subset (hdrop ▸ List.mem_cons_self)
          exact absurd (List.cons.inj htail).1 (hfront c hmem).1
      cases hwritable with
      | object hkeys h =>
        rw [hskip] at hread
        have hlen : 2 * (encode format (.object entries)).length ≤
            2 * (encode format (.object entries) ++ back).length + 1 + 1 := by
          rw [List.length_append]
          omega
        rw [readValue_object (reads _).2.2 hkeys h hlen] at hread
        cases hread
        rfl

/-! ## The law -/

theorem findSome?_cons_or {α β : Type} (f : α → Option β) (a : α) (l : List α) :
    (a :: l).findSome? f = (f a).or (l.findSome? f) := by
  rw [List.findSome?_cons]
  cases f a <;> rfl

/-- What the extraction finds: in the fenced block, the whole text, or the span between the braces. -/
def foundObject (tables : UnicodeTables) (reading : Reading) (content : List Char) : Option JsonValue :=
  ((fencedCandidate tables content).bind (parseObject reading)).or
    ((parseObject reading (stripWhere isSpace (withoutThoughts tables content))).or
      (parseObject reading (braceSpan (stripWhere isSpace (withoutThoughts tables content)))))

theorem findSome?_candidates (tables : UnicodeTables) (reading : Reading) (content : List Char) :
    (candidates (stripWhere isSpace (withoutThoughts tables content))).findSome? (parseObject reading) =
      foundObject tables reading content := by
  have hlast : ∀ text span : List Char, [text, span].findSome? (parseObject reading) =
      (parseObject reading text).or (parseObject reading span) := by
    intro text span
    rw [findSome?_cons_or, findSome?_cons_or, List.findSome?_nil, Option.or_none]
  unfold candidates foundObject fencedCandidate
  cases fencedBlock (stripWhere isSpace (withoutThoughts tables content)) with
  | none =>
    rw [Option.map_none, Option.toList_none, List.nil_append, Option.bind_none, Option.none_or, hlast]
  | some =>
    rw [Option.map_some, Option.toList_some, List.singleton_append, findSome?_cons_or, hlast]
    rfl

theorem extractJsonObject_eq_ok_iff {content : List Char} :
    extractJsonObject tables reading content = .ok object ↔ foundObject tables reading content = some object := by
  unfold extractJsonObject
  rw [findSome?_candidates]
  cases foundObject tables reading content with
  | none =>
    constructor
    all_goals
      intro h
      cases h
  | some =>
    constructor
    all_goals
      intro h
      cases h
      rfl

/-- An answer in which the text of the object is whole is found to have the object, unless its fence says
otherwise. -/
theorem foundObject_of_whole (hwritable : Writable reading (.object entries)) (hpre : BraceFree before)
    (hbehind : BraceFree behind)
    (hwhole : keptText tables before (encode format (.object entries)) behind =
      encode format (.object entries))
    (hfence : FenceIsText tables reading (before ++ (encode format (.object entries) ++ behind))
      (encode format (.object entries))) :
    foundObject tables reading (before ++ (encode format (.object entries) ++ behind)) =
      some (.object entries) := by
  have hbraced := isBraced_encode format entries
  have hparse : parseObject reading (encode format (.object entries)) = some (.object entries) :=
    parseObject_encode hwritable
  obtain ⟨left, right, hleft, hright, hsplit⟩ :=
    withoutThoughts_split tables before (encode format (.object entries)) behind
  rw [hwhole] at hsplit
  have hans := stripWhere_append (p := isSpace) rfl rfl hbraced left right
  rw [← hsplit] at hans
  have hfront : BraceFree (left.dropWhile isSpace) :=
    (hpre.sublist hleft).sublist (List.dropWhile_suffix isSpace).sublist
  have hback : BraceFree (right.reverse.dropWhile isSpace).reverse := by
    refine (hbehind.sublist hright).sublist ?_
    rw [← List.reverse_sublist, List.reverse_reverse]
    exact (List.dropWhile_suffix isSpace).sublist
  -- behind the fence, the answer is the text of the object or has it as its span
  have hrest : (parseObject reading (stripWhere isSpace
        (withoutThoughts tables (before ++ (encode format (.object entries) ++ behind))))).or
      (parseObject reading (braceSpan (stripWhere isSpace
        (withoutThoughts tables (before ++ (encode format (.object entries) ++ behind)))))) =
      some (.object entries) := by
    cases hall : parseObject reading (stripWhere isSpace
        (withoutThoughts tables (before ++ (encode format (.object entries) ++ behind)))) with
    | none => rw [hans, braceSpan_append hbraced hfront hback, hparse, Option.none_or]
    | some object =>
      rw [hans] at hall
      rw [Option.some_or, object_of_parsed hwritable hfront hall]
  unfold foundObject
  rw [hrest]
  cases hblock : fencedCandidate tables (before ++ (encode format (.object entries) ++ behind)) with
  | none => rfl
  | some block =>
    rw [Option.bind_some]
    cases hparsed : parseObject reading block with
    | none => rfl
    | some =>
      have htext := hfence block hblock (by rw [hparsed]; rfl)
      rw [htext, hparse] at hparsed
      rw [Option.some_or, hparsed]

/-- **Extraction undoes encoding where no block reaches into the text and the fence is the text.** -/
theorem extractJsonObject_encode (hwritable : Writable reading (.object entries)) (hpre : BraceFree before)
    (hbehind : BraceFree behind)
    (hthoughts : ThoughtsApart tables before (encode format (.object entries)) behind)
    (hfence : FenceIsText tables reading (before ++ (encode format (.object entries) ++ behind))
      (encode format (.object entries))) :
    extractJsonObject tables reading (before ++ (encode format (.object entries) ++ behind)) =
      .ok (.object entries) := by
  have htext : encode format (.object entries) ≠ [] := fun h => List.cons_ne_nil _ _ h
  rw [extractJsonObject_eq_ok_iff]
  exact foundObject_of_whole hwritable hpre hbehind ((thoughtsApart_iff htext).1 hthoughts) hfence

/-- An object with one text. -/
def textObject (text : String) : JsonValue :=
  .object [("a", .string text)]

theorem writable_textObject (text : String) : Writable plainReading (textObject text) := by
  refine .object (List.nodup_singleton _) ?_
  intro entry hentry
  obtain rfl := List.mem_singleton.1 hentry
  exact .string text

/-- `\x60\x60\x60json` -/
def fenceOpening : List Char := "\x60\x60\x60json\n".toList

/-- `\x60\x60\x60` -/
def fenceClosing : List Char := "\n\x60\x60\x60".toList

theorem extractJsonObject_fenced :
    extractJsonObject asciiTables plainReading
      (fenceOpening ++ (encode .standard (textObject "x") ++ fenceClosing)) = .ok (textObject "x") := by
  refine extractJsonObject_encode (writable_textObject "x") (by decide) (by decide) ?_ ?_
  · exact (thoughtsApart_iff (by decide)).2 (by decide +kernel)
  · intro block hblock _
    have hfence : fencedCandidate asciiTables
        (fenceOpening ++ (encode .standard (textObject "x") ++ fenceClosing)) =
        some (encode .standard (textObject "x")) := by decide +kernel
    exact (Option.some.inj (hfence.symm.trans hblock)).symm

/-- A reasoning block in a string of the object is removed from it. -/
theorem thought_in_a_string :
    Writable plainReading (textObject "<think>x</think>") ∧
      extractJsonObject asciiTables plainReading (encode .standard (textObject "<think>x</think>")) =
        .ok (textObject "") ∧
      textObject "<think>x</think>" ≠ textObject "" := by
  refine ⟨writable_textObject _, ?_, ?_⟩
  · have hremoved : stripWhere isSpace
        (withoutThoughts asciiTables (encode .standard (textObject "<think>x</think>"))) =
        encode .standard (textObject "") := by decide +kernel
    have hfence : fencedCandidate asciiTables (encode .standard (textObject "<think>x</think>")) = none := by
      decide +kernel
    rw [extractJsonObject_eq_ok_iff, foundObject, hfence, hremoved, textObject,
      parseObject_encode (writable_textObject "")]
    rfl
  · intro h
    injection h with h
    injection h with h
    injection h with _ h
    injection h with h
    exact absurd h (by decide)

end CreditOps.Inference
