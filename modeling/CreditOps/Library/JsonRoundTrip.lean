import CreditOps.Library.JsonScalars

/-!
# Reading back what was written

What `json.dumps` writes of a value, `json.loads` reads back as that value (`loads_encode`), for every layout
and whatever stands behind the text of the value (`readValue_encode`). So two values with one text are one
value (`encode_inj`).
-/

set_option autoImplicit false

namespace JsonText

variable {reading : Reading} {format : Format} {fuel : Nat} {rest : List Char}

/-- The values that are written as text a reader takes them back from. -/
inductive Writable (reading : Reading) : JsonValue → Prop
  | null : Writable reading .null
  | bool (value : Bool) : Writable reading (.bool value)
  | int {value : Int} (h : reading.accepts (digitCount value) = true) : Writable reading (.int value)
  | nan : Writable reading (.float "nan")
  | infinity : Writable reading (.float "inf")
  | negativeInfinity : Writable reading (.float "-inf")
  | float {text : String} (h : IsFloatText reading text) : Writable reading (.float text)
  | string (text : String) : Writable reading (.string text)
  | array {items : List JsonValue} (h : ∀ item ∈ items, Writable reading item) :
      Writable reading (.array items)
  | object {entries : List (String × JsonValue)} (hkeys : (entries.map (·.1)).Nodup)
      (h : ∀ entry ∈ entries, Writable reading entry.2) : Writable reading (.object entries)

/-! ## Heads -/

/-- A character no value begins with. -/
def ClosesOrBlank (c : Char) : Prop :=
  isJsonSpace c = true ∨ c = ']'

instance (c : Char) : Decidable (ClosesOrBlank c) :=
  inferInstanceAs (Decidable (_ ∨ _))

/-- A text whose first character opens a value that is no text and has no parts. -/
def StartsScalar (cs : List Char) : Prop :=
  ∃ c tail, cs = c :: tail ∧ ¬ ClosesOrBlank c ∧ c ≠ '"' ∧ c ≠ '[' ∧ c ≠ '{'

variable {cs : List Char}

theorem readValue_of_startsScalar (h : StartsScalar cs) :
    readValue reading (fuel + 1) (cs ++ rest) = readScalar reading (cs ++ rest) := by
  obtain ⟨c, _, rfl, -, hquote, hbracket, hbrace⟩ := h
  rw [List.cons_append, readValue.eq_3, if_neg hquote, if_neg hbracket, if_neg hbrace]

/-- A digit or a sign opens a number. -/
theorem startsScalar_of_scanNumber {scan : NumberScan} (h : scanNumber cs = some scan) :
    StartsScalar cs := by
  have hrefuse : ∀ c tail, c ≠ '-' → c ≠ '0' → c.isDigit = false → scanNumber (c :: tail) = none := by
    intro c tail hsign hzero hdigit
    unfold scanNumber
    rw [scanSign_of_ne hsign]
    dsimp only
    rw [scanInteger, if_neg hzero, if_neg (by rw [hdigit]; exact Bool.false_ne_true)]
  cases cs with
  | nil => cases h
  | cons c tail =>
    have hne : ∀ d : Char, d ≠ '-' → d ≠ '0' → d.isDigit = false → c ≠ d := by
      rintro d hsign hzero hdigit rfl
      rw [hrefuse c tail hsign hzero hdigit] at h
      cases h
    refine ⟨c, tail, rfl, ?_, hne _ (by decide) (by decide) rfl, hne _ (by decide) (by decide) rfl,
      hne _ (by decide) (by decide) rfl⟩
    rintro (hblank | hclose)
    · rcases of_decide_eq_true hblank with hc | hc | hc | hc
      all_goals exact hne _ (by decide) (by decide) rfl hc
    · exact hne _ (by decide) (by decide) rfl hclose

theorem floatText_of_isFloatText {text : String} (h : IsFloatText reading text) :
    floatText text = text.toList := by
  obtain ⟨_, _, hscan, -, -⟩ := h
  have hnot : ∀ word : String, scanNumber word.toList = none → text ≠ word := by
    rintro _ hword rfl
    rw [hword] at hscan
    cases hscan
  rw [floatText, if_neg (hnot "nan" rfl), if_neg (hnot "inf" rfl), if_neg (hnot "-inf" rfl)]

variable {value : JsonValue}

/-- No value begins with a blank or with a closing bracket. -/
theorem encode_head (format : Format) (h : Writable reading value) :
    ∃ c tail, encode format value = c :: tail ∧ ¬ ClosesOrBlank c := by
  cases h with
  | null | nan | infinity | negativeInfinity | string | array | object => exact ⟨_, _, rfl, by decide⟩
  | bool value => cases value <;> exact ⟨_, _, rfl, by decide⟩
  | int =>
    obtain ⟨c, tail, heq, hc, -⟩ := startsScalar_of_scanNumber (scanNumber_intText _)
    exact ⟨c, tail, heq, hc⟩
  | float h =>
    obtain ⟨_, tail, hscan, -, -⟩ := id h
    obtain ⟨c, tail, heq, hc, -⟩ := startsScalar_of_scanNumber hscan
    exact ⟨c, tail, (floatText_of_isFloatText h).trans heq, hc⟩

/-! ## Items and entries -/

theorem encodeItems_singleton (item : JsonValue) : encodeItems format [item] = encode format item :=
  List.append_nil _

theorem encodeItems_cons_cons (item next : JsonValue) (items : List JsonValue) :
    encodeItems format (item :: next :: items) =
      encode format item ++ ',' :: (format.itemSpace ++ encodeItems format (next :: items)) :=
  rfl

theorem encodeEntries_singleton (key : String) (value : JsonValue) :
    encodeEntries format [(key, value)] =
      quote format key ++ ':' :: (format.keySpace ++ encode format value) := by
  rw [encodeEntries, List.isEmpty_nil, if_pos rfl, List.append_nil]

theorem encodeEntries_cons_cons (key : String) (value : JsonValue) (next : String × JsonValue)
    (entries : List (String × JsonValue)) :
    encodeEntries format ((key, value) :: next :: entries) =
      quote format key ++ ':' :: (format.keySpace ++ encode format value ++
        ',' :: (format.itemSpace ++ encodeEntries format (next :: entries))) :=
  rfl

theorem encodeItems_head (format : Format) {item : JsonValue} (items : List JsonValue)
    (h : Writable reading item) :
    ∃ c tail, encodeItems format (item :: items) = c :: tail ∧ ¬ ClosesOrBlank c := by
  obtain ⟨c, _, heq, hc⟩ := encode_head format h
  rw [encodeItems, heq]
  exact ⟨c, _, rfl, hc⟩

theorem encodeEntries_head (format : Format) (entry : String × JsonValue)
    (entries : List (String × JsonValue)) :
    ∃ tail, encodeEntries format (entry :: entries) = '"' :: tail :=
  ⟨_, rfl⟩

theorem skipSpace_of_not_closesOrBlank {c : Char} (h : ¬ ClosesOrBlank c) :
    skipSpace (c :: cs) = c :: cs :=
  skipSpace_cons_of_not (Bool.eq_false_iff.2 fun hc => h (Or.inl hc))

/-! ## Dictionaries with distinct keys -/

variable {entries : List (String × JsonValue)}

theorem foldl_setEntry {read : List (String × JsonValue)} (h : ((read ++ entries).map (·.1)).Nodup) :
    entries.foldl setEntry read = read ++ entries := by
  induction entries generalizing read with
  | nil => exact (List.append_nil read).symm
  | cons entry entries ih =>
    have hnew : ¬ read.any (·.1 = entry.1) = true := by
      intro hany
      obtain ⟨old, hold, hkey⟩ := List.any_eq_true.1 hany
      rw [List.map_append, List.map_cons] at h
      exact (List.nodup_append.1 h).2.2 old.1 (List.mem_map.2 ⟨old, hold, rfl⟩) entry.1 List.mem_cons_self
        (of_decide_eq_true hkey)
    have hset : setEntry read entry = read ++ [entry] := if_neg hnew
    rw [List.foldl_cons, hset, ih (by rwa [List.append_assoc]), List.append_assoc]
    rfl

theorem dictOf_of_nodup (h : (entries.map (·.1)).Nodup) :
    dictOf entries = entries :=
  foldl_setEntry h

/-! ## Values -/

/-- Values are read back within that depth, whatever stands behind them that stops a number. -/
def ReadsValues (reading : Reading) (format : Format) (fuel : Nat) : Prop :=
  ∀ value rest, Writable reading value → Stops rest → 2 * (encode format value).length ≤ fuel + 1 →
    readValue reading fuel (encode format value ++ rest) = some (value, rest)

/-- So are the items of a list. -/
def ReadsItems (reading : Reading) (format : Format) (fuel : Nat) : Prop :=
  ∀ items rest, items ≠ [] → (∀ item ∈ items, Writable reading item) →
    2 * (encodeItems format items).length ≤ fuel →
      readItems reading fuel (encodeItems format items ++ ']' :: rest) = some (items, rest)

/-- So are the entries of a dictionary. -/
def ReadsEntries (reading : Reading) (format : Format) (fuel : Nat) : Prop :=
  ∀ entries rest, entries ≠ [] → (∀ entry ∈ entries, Writable reading entry.2) →
    2 * (encodeEntries format entries).length ≤ fuel →
      readEntries reading fuel (encodeEntries format entries ++ '}' :: rest) = some (entries, rest)

theorem readScalar_encode (h : Writable reading value) (hrest : Stops rest)
    (hscalar : StartsScalar (encode format value)) :
    readScalar reading (encode format value ++ rest) = some (value, rest) := by
  cases h with
  | null | nan | infinity | negativeInfinity => rfl
  | bool value => cases value <;> rfl
  | int h => exact readScalar_intText hrest h
  | float h =>
    rw [encode, floatText_of_isFloatText h]
    exact readScalar_floatText hrest h
  | string =>
    obtain ⟨c, _, heq, -, hquote, -, -⟩ := hscalar
    exact absurd (List.cons.inj heq).1.symm hquote
  | array =>
    obtain ⟨c, _, heq, -, -, hbracket, -⟩ := hscalar
    exact absurd (List.cons.inj heq).1.symm hbracket
  | object =>
    obtain ⟨c, _, heq, -, -, -, hbrace⟩ := hscalar
    exact absurd (List.cons.inj heq).1.symm hbrace

theorem readValue_quote (text : String) :
    readValue reading (fuel + 1) (quote format text ++ rest) = some (.string text, rest) := by
  rw [quote, List.cons_append, List.append_assoc, List.singleton_append, readValue.eq_3, if_pos rfl,
    readString_quote, Option.map_some, String.ofList_toList]

theorem readValue_array (hitems : ReadsItems reading format fuel) {items : List JsonValue}
    (h : ∀ item ∈ items, Writable reading item)
    (hfuel : 2 * (encode format (.array items)).length ≤ fuel + 1 + 1) :
    readValue reading (fuel + 1) (encode format (.array items) ++ rest) = some (.array items, rest) := by
  have hquote : ¬ '[' = '"' := by decide
  rw [encode, List.cons_append, List.append_assoc, List.singleton_append, readValue.eq_3, if_neg hquote,
    if_pos rfl]
  cases items with
  | nil => rfl
  | cons item items =>
    have hread := hitems (item :: items) rest (List.cons_ne_nil _ _) h (by
      rw [encode, List.length_cons, List.length_append, List.length_singleton] at hfuel
      omega)
    obtain ⟨c, _, heq, hc⟩ := encodeItems_head format items (h item List.mem_cons_self)
    have hclose : ¬ c = ']' := fun hclose => hc (Or.inr hclose)
    rw [heq, List.cons_append] at hread ⊢
    rw [skipSpace_of_not_closesOrBlank hc]
    dsimp only
    rw [if_neg hclose, hread]
    rfl

theorem readValue_object (hentries : ReadsEntries reading format fuel)
    (hkeys : (entries.map (·.1)).Nodup) (h : ∀ entry ∈ entries, Writable reading entry.2)
    (hfuel : 2 * (encode format (.object entries)).length ≤ fuel + 1 + 1) :
    readValue reading (fuel + 1) (encode format (.object entries) ++ rest) =
      some (.object entries, rest) := by
  have hquote : ¬ '{' = '"' := by decide
  have hbracket : ¬ '{' = '[' := by decide
  rw [encode, List.cons_append, List.append_assoc, List.singleton_append, readValue.eq_3, if_neg hquote,
    if_neg hbracket, if_pos rfl]
  cases entries with
  | nil => rfl
  | cons entry entries =>
    have hread := hentries (entry :: entries) rest (List.cons_ne_nil _ _) h (by
      rw [encode, List.length_cons, List.length_append, List.length_singleton] at hfuel
      omega)
    obtain ⟨_, heq⟩ := encodeEntries_head format entry entries
    have hclose : ¬ '"' = '}' := by decide
    rw [heq, List.cons_append] at hread ⊢
    rw [skipSpace_cons_of_not rfl]
    dsimp only
    rw [if_neg hclose, hread, Option.map_some, dictOf_of_nodup hkeys]

theorem readsValues_succ (hitems : ReadsItems reading format fuel)
    (hentries : ReadsEntries reading format fuel) : ReadsValues reading format (fuel + 1) := by
  intro value rest h hrest hfuel
  have hscalar : StartsScalar (encode format value) →
      readValue reading (fuel + 1) (encode format value ++ rest) = some (value, rest) := by
    intro hstarts
    rw [readValue_of_startsScalar hstarts, readScalar_encode h hrest hstarts]
  have hword : ∀ c tail, encode format value = c :: tail → ¬ ClosesOrBlank c → c ≠ '"' → c ≠ '[' →
      c ≠ '{' → readValue reading (fuel + 1) (encode format value ++ rest) = some (value, rest) :=
    fun c tail heq hc hquote hbracket hbrace => hscalar ⟨c, tail, heq, hc, hquote, hbracket, hbrace⟩
  cases id h with
  | null | nan | infinity | negativeInfinity =>
    exact hword _ _ rfl (by decide) (by decide) (by decide) (by decide)
  | bool value =>
    cases value
    all_goals exact hword _ _ rfl (by decide) (by decide) (by decide) (by decide)
  | int => exact hscalar (startsScalar_of_scanNumber (scanNumber_intText _))
  | float hfloat =>
    obtain ⟨_, _, hscan, -, -⟩ := id hfloat
    refine hscalar ?_
    rw [encode, floatText_of_isFloatText hfloat]
    exact startsScalar_of_scanNumber hscan
  | string text => exact readValue_quote text
  | array hall => exact readValue_array hitems hall hfuel
  | object hkeys hall => exact readValue_object hentries hkeys hall hfuel

/-- An item is followed by the end of the list or by a comma. -/
theorem readsItems_succ (hvalues : ReadsValues reading format fuel)
    (hitems : ReadsItems reading format fuel) : ReadsItems reading format (fuel + 1) := by
  intro items rest hne h hfuel
  cases items with
  | nil => exact absurd rfl hne
  | cons item items =>
    obtain ⟨hitem, hothers⟩ := List.forall_mem_cons.1 h
    cases items with
    | nil =>
      rw [encodeItems_singleton] at hfuel ⊢
      rw [readItems, hvalues item _ hitem (stops_cons rfl rest) (by omega)]
      rfl
    | cons next items =>
      rw [encodeItems_cons_cons] at hfuel ⊢
      have hlength := hfuel
      rw [List.length_append, List.length_cons, List.length_append] at hlength
      have hnext := hitems (next :: items) rest (List.cons_ne_nil _ _) hothers (by omega)
      obtain ⟨c, _, heq, hc⟩ := encodeItems_head format items (hothers next List.mem_cons_self)
      have hcomma : ¬ ',' = ']' := by decide
      have hskip : skipSpace (format.itemSpace ++ (encodeItems format (next :: items) ++ ']' :: rest)) =
          encodeItems format (next :: items) ++ ']' :: rest := by
        rw [skipSpace_append format.itemSpace_blank, heq, List.cons_append,
          skipSpace_of_not_closesOrBlank hc]
      rw [List.append_assoc, List.cons_append, List.append_assoc, readItems,
        hvalues item _ hitem (stops_cons rfl _) (by omega)]
      dsimp only
      rw [skipSpace_cons_of_not rfl]
      dsimp only
      rw [if_neg hcomma, if_pos rfl, hskip, hnext]
      rfl

/-- The head of an entry: its key, the colon and its value. -/
theorem readEntries_head (hvalues : ReadsValues reading format fuel) {key : String} {next : Char}
    {after : List Char} (hvalue : Writable reading value) (hnext : isJsonSpace next = false)
    (hstops : isNumberChar next = false) (hfuel : 2 * (encode format value).length ≤ fuel + 1) :
    readEntries reading (fuel + 1)
        (quote format key ++ ':' :: (format.keySpace ++ (encode format value ++ next :: after))) =
      if next = '}' then some ([(key, value)], after)
      else if next = ',' then
        (readEntries reading fuel (skipSpace after)).map fun read => ((key, value) :: read.1, read.2)
      else none := by
  obtain ⟨c, _, heq, hc⟩ := encode_head format hvalue
  have hskip : skipSpace (format.keySpace ++ (encode format value ++ next :: after)) =
      encode format value ++ next :: after := by
    rw [skipSpace_append format.keySpace_blank, heq, List.cons_append, skipSpace_of_not_closesOrBlank hc]
  rw [quote, List.cons_append, List.append_assoc, List.singleton_append,
    readEntries.eq_3, if_pos rfl, readString_quote]
  dsimp only
  rw [skipSpace_cons_of_not rfl]
  dsimp only
  rw [if_pos rfl, hskip, hvalues value _ hvalue (stops_cons hstops after) hfuel]
  dsimp only
  rw [skipSpace_cons_of_not hnext, String.ofList_toList]

theorem readsEntries_succ (hvalues : ReadsValues reading format fuel)
    (hentries : ReadsEntries reading format fuel) : ReadsEntries reading format (fuel + 1) := by
  intro entries rest hne h hfuel
  cases entries with
  | nil => exact absurd rfl hne
  | cons entry entries =>
    obtain ⟨_, value⟩ := entry
    obtain ⟨hvalue, hothers⟩ := List.forall_mem_cons.1 h
    replace hvalue : Writable reading value := hvalue
    cases entries with
    | nil =>
      rw [encodeEntries_singleton] at hfuel ⊢
      rw [List.length_append, List.length_cons, List.length_append] at hfuel
      rw [List.append_assoc, List.cons_append, List.append_assoc,
        readEntries_head hvalues hvalue rfl rfl (by omega), if_pos rfl]
    | cons next entries =>
      rw [encodeEntries_cons_cons] at hfuel ⊢
      rw [List.length_append, List.length_cons, List.length_append, List.length_append, List.length_cons,
        List.length_append] at hfuel
      have hnext := hentries (next :: entries) rest (List.cons_ne_nil _ _) hothers (by omega)
      obtain ⟨_, heq⟩ := encodeEntries_head format next entries
      have hcomma : ¬ ',' = '}' := by decide
      have hskip : skipSpace (format.itemSpace ++ (encodeEntries format (next :: entries) ++ '}' :: rest)) =
          encodeEntries format (next :: entries) ++ '}' :: rest := by
        rw [skipSpace_append format.itemSpace_blank, heq, List.cons_append, skipSpace_cons_of_not rfl]
      rw [List.append_assoc, List.cons_append, List.append_assoc, List.append_assoc, List.cons_append,
        List.append_assoc, readEntries_head hvalues hvalue rfl rfl (by omega), if_neg hcomma, if_pos rfl, hskip, hnext]
      rfl

theorem reads (fuel : Nat) :
    ReadsValues reading format fuel ∧ ReadsItems reading format fuel ∧ ReadsEntries reading format fuel := by
  induction fuel with
  | zero =>
    refine ⟨?_, ?_, ?_⟩
    · intro value rest h hrest hfuel
      obtain ⟨c, _, heq, -⟩ := encode_head format h
      rw [heq, List.length_cons] at hfuel
      omega
    · intro items rest hne h hfuel
      cases items with
      | nil => exact absurd rfl hne
      | cons item items =>
        obtain ⟨c, _, heq, -⟩ := encodeItems_head format items (h item List.mem_cons_self)
        rw [heq, List.length_cons] at hfuel
        omega
    · intro entries rest hne h hfuel
      cases entries with
      | nil => exact absurd rfl hne
      | cons entry entries =>
        obtain ⟨_, heq⟩ := encodeEntries_head format entry entries
        rw [heq, List.length_cons] at hfuel
        omega
  | succ fuel ih =>
    obtain ⟨-, hitems, hentries⟩ := id ih
    exact ⟨readsValues_succ hitems hentries, readsItems_succ ih.1 hitems,
      readsEntries_succ ih.1 hentries⟩

/-- **A value is read back, whatever stands behind it that does not go on with a number.** -/
theorem readValue_encode (h : Writable reading value) (hrest : Stops rest)
    (hfuel : 2 * (encode format value).length ≤ fuel + 1) :
    readValue reading fuel (encode format value ++ rest) = some (value, rest) :=
  (reads fuel).1 value rest h hrest hfuel

/-- **What was written is read back.** -/
theorem loads_encode (h : Writable reading value) :
    loads reading (encode format value) = some value := by
  obtain ⟨c, _, heq, hc⟩ := encode_head format h
  have hskip : skipSpace (encode format value) = encode format value := by
    rw [heq, skipSpace_of_not_closesOrBlank hc]
  have hread : readValue reading (2 * (encode format value).length + 1) (encode format value) =
      some (value, []) := by
    have hread : readValue reading (2 * (encode format value).length + 1) (encode format value ++ []) =
        some (value, []) := readValue_encode h stops_nil (Nat.le_add_right _ (1 + 1))
    rwa [List.append_nil] at hread
  rw [loads, hskip, hread]
  rfl

/-- **Two values with one text are one value.** -/
theorem encode_inj {other : JsonValue} (h : Writable reading value) (hother : Writable reading other)
    (heq : encode format value = encode format other) : value = other := by
  have hloads : loads reading (encode format value) = some value := loads_encode h
  rw [heq, loads_encode hother] at hloads
  exact (Option.some.inj hloads).symm

end JsonText
