import SqlCompiler.Proofs.Sql.Grammar

/-! When a quoted identifier is a single name. A dot separates two segments when an even number of
quote characters is before it; an identifier without such dots is one segment, and unless that is a
star it is quoted as one name.
-/

namespace SqlCompiler.Sql

open Text

variable {quoteChar : Char}

/-- Whether a reader is inside a quotation behind a text, given whether the start of the text is:
every quote character enters or leaves one.
-/
def isQuotedBehind (quoteChar : Char) (quoted : Bool) (text : List Char) : Bool :=
  quoted ^^ (text.count quoteChar % 2 == 1)

theorem isQuotedBehind_cons (quoteChar : Char) (quoted : Bool) (c : Char) (text : List Char)
    : isQuotedBehind quoteChar quoted (c :: text)
      = isQuotedBehind quoteChar (if c = quoteChar then !quoted else quoted) text := by
  by_cases same : c = quoteChar
  · rcases Nat.mod_two_eq_zero_or_one (text.count quoteChar) with even | odd
    · simp [isQuotedBehind, same, Nat.add_mod, even]
    · simp [isQuotedBehind, same, Nat.add_mod, odd]
  · simp [isQuotedBehind, same]

theorem consToFirst_eq_singleton_iff {c : Char} {rest : List Char} {segments : List (List Char)}
    (some : segments ≠ [])
    : Identifier.consToFirst c segments = [c :: rest] ↔ segments = [rest] := by
  cases segments with
  | nil => exact absurd rfl some
  | cons segment segments => simp [Identifier.consToFirst]

/-- An identifier is one segment if every dot is inside a quotation, by induction on the identifier.
-/
theorem segmentsFrom_eq_singleton_iff (notDot : quoteChar ≠ '.') {quoted : Bool}
    {name : List Char}
    : Identifier.segmentsFrom quoteChar quoted name = [name]
      ↔ ∀ front back,
          name = front ++ '.' :: back → isQuotedBehind quoteChar quoted front = true := by
  induction name generalizing quoted with
  | nil => simp [Identifier.segmentsFrom]
  | cons c rest ih =>
      -- Either the dot is the first character, or it is in the rest.
      have dots
          : (∀ front back,
              c :: rest = front ++ '.' :: back
              → isQuotedBehind quoteChar quoted front = true)
            ↔ (c = '.' → quoted = true)
              ∧ ∀ front back,
                  rest = front ++ '.' :: back
                  → isQuotedBehind quoteChar (if c = quoteChar then !quoted else quoted) front
                    = true := by
        constructor
        · intro inside
          refine ⟨fun isDot => ?_, fun front back parts => ?_⟩
          · simpa [isQuotedBehind] using inside [] rest (congrArg (· :: rest) isDot)
          · have deeper := inside (c :: front) back (congrArg (c :: ·) parts)
            rwa [isQuotedBehind_cons] at deeper
        · rintro ⟨first, others⟩ front back parts
          cases front with
          | nil =>
              obtain ⟨isDot, -⟩ := List.cons.inj parts
              simpa [isQuotedBehind] using first isDot
          | cons d front =>
              obtain ⟨rfl, tail⟩ := List.cons.inj parts
              rw [isQuotedBehind_cons]
              exact others front back tail
      have inFirst (quoted : Bool)
          : Identifier.consToFirst c (Identifier.segmentsFrom quoteChar quoted rest)
              = [c :: rest]
            ↔ Identifier.segmentsFrom quoteChar quoted rest = [rest] :=
        consToFirst_eq_singleton_iff (segmentsFrom_ne_nil quoteChar quoted rest)
      rw [dots, Identifier.segmentsFrom]
      by_cases isQuote : c = quoteChar
      · have differs : c ≠ '.' := isQuote ▸ notDot
        rw [if_pos isQuote, inFirst, ih]
        simp only [if_pos isQuote]
        exact ⟨fun inside => ⟨fun isDot => absurd isDot differs, inside⟩, And.right⟩
      · rw [if_neg isQuote]
        simp only [if_neg isQuote]
        cases quoted with
        | true =>
            rw [if_neg (by simp), inFirst, ih]
            exact ⟨fun inside => ⟨fun _ => rfl, inside⟩, And.right⟩
        | false =>
            by_cases isDot : c = '.'
            · simp [isDot]
            · rw [if_neg (by simp [isDot]), inFirst, ih]
              exact ⟨fun inside => ⟨fun same => absurd same isDot, inside⟩, And.right⟩

/-- The dots of an identifier that separate stand behind an even number of quote characters. -/
theorem segments_eq_singleton_iff (notDot : quoteChar ≠ '.') {name : List Char}
    : Identifier.segments quoteChar name = [name]
      ↔ ∀ front back, name = front ++ '.' :: back → front.count quoteChar % 2 = 1 := by
  rw [Identifier.segments, segmentsFrom_eq_singleton_iff notDot]
  simp [isQuotedBehind]

/-- An identifier that is no star and has no dots that separate is quoted as the name that it
stands for.
-/
theorem quote_of_singleton {name : String} {segment : List Char}
    (single : Identifier.segments quoteChar name.toList = [segment]) (notStar : segment ≠ ['*'])
    : Identifier.quote quoteChar name
      = String.ofList (delimit quoteChar (segmentName quoteChar segment)) := by
  simp [Identifier.quote, Identifier.quoteChars, single, quoteSegment_eq, notStar]

/-- A quoted identifier is one name, the one that the identifier stands for, exactly if the
identifier is no star and every dot in it stands behind an odd number of quote characters.
-/
theorem quote_isItem_iff (notDot : quoteChar ≠ '.') (notStar : quoteChar ≠ '*') {name : String}
    : (∃ content,
        IsItem quoteChar (Identifier.quote quoteChar name).toList (.name content)
        ∧ StandsFor quoteChar name.toList (.name content))
      ↔ name ≠ "*"
        ∧ ∀ front back,
            name.toList = front ++ '.' :: back → front.count quoteChar % 2 = 1 := by
  rw [← segments_eq_singleton_iff notDot]
  constructor
  · rintro ⟨content, isItem, -⟩
    have items
        : (Identifier.segments quoteChar name.toList).map (item quoteChar) = [.name content] :=
      (isPath_quote quoteChar name).unique notDot notStar (.last isItem)
    obtain ⟨segment, single, isName⟩ := List.map_eq_singleton_iff.mp items
    have whole := intercalate_segmentsFrom quoteChar false name.toList
    rw [← Identifier.segments, single, List.intercalate_singleton] at whole
    refine ⟨?_, whole ▸ single⟩
    rintro rfl
    rw [whole] at isName
    cases isName
  · rintro ⟨notBare, single⟩
    have notStar : name.toList ≠ ['*'] := fun star => notBare (String.toList_injective star)
    refine ⟨segmentName quoteChar name.toList, ?_, ?_⟩
    · rw [quote_of_singleton single notStar, String.toList_ofList]
      exact .name _
    · simpa [item, notStar] using standsFor_item quoteChar name.toList

-----------------------------------------------------------------------------------------
-- Identifiers with quotations
-----------------------------------------------------------------------------------------

theorem mem_double {delimiter c : Char} {text : List Char}
    : c ∈ double delimiter text ↔ c ∈ text := by
  rw [double, List.mem_flatMap]
  constructor
  · rintro ⟨d, member, same⟩
    obtain rfl : c = d := by
      split at same <;> simpa using same
    exact member
  · intro member
    exact ⟨c, member, by split <;> simp⟩

theorem double_append (delimiter : Char) (left right : List Char)
    : double delimiter (left ++ right) = double delimiter left ++ double delimiter right :=
  List.flatMap_append

theorem double_cons_of_ne {delimiter c : Char} (differs : c ≠ delimiter) (text : List Char)
    : double delimiter (c :: text) = c :: double delimiter text := by
  simp [double, differs]

theorem count_double (delimiter : Char) (text : List Char)
    : (double delimiter text).count delimiter = 2 * text.count delimiter := by
  unfold double
  induction text with
  | nil => rfl
  | cons c text ih =>
      by_cases same : c = delimiter
      · simp [same, ih]
        omega
      · simp [same, ih]

/-- Inside a quotation no dot separates, and a doubled text does not leave it, by induction on the
text.
-/
theorem segmentsFrom_double {rest : List Char}
    (single : Identifier.segmentsFrom quoteChar true rest = [rest]) (text : List Char)
    : Identifier.segmentsFrom quoteChar true (double quoteChar text ++ rest)
      = [double quoteChar text ++ rest] := by
  unfold double
  induction text with
  | nil => exact single
  | cons c text ih =>
      by_cases same : c = quoteChar
      · simp [same, Identifier.segmentsFrom, ih, Identifier.consToFirst]
      · simp [same, Identifier.segmentsFrom, ih, Identifier.consToFirst]

theorem segments_delimit (quoteChar : Char) (content : List Char)
    : Identifier.segments quoteChar (delimit quoteChar content)
      = [delimit quoteChar content] := by
  have closed := @segmentsFrom_double quoteChar [quoteChar]
    (by simp [Identifier.segmentsFrom, Identifier.consToFirst]) content
  simp [Identifier.segments, delimit, Identifier.segmentsFrom, closed, Identifier.consToFirst]

/-- A delimited identifier stays as it is. -/
theorem quote_delimit (quoteChar : Char) (content : List Char)
    : Identifier.quote quoteChar (String.ofList (delimit quoteChar content))
      = String.ofList (delimit quoteChar content) := by
  have delimited : isDelimited quoteChar (delimit quoteChar content) = true :=
    isDelimited_iff.mpr ⟨content, rfl⟩
  simp [Identifier.quote, Identifier.quoteChars, segments_delimit, Identifier.quoteSegment,
    delimited]

/-- Other identifiers of one segment are delimited. -/
theorem quote_of_not_isDelimited {name : List Char}
    (single : Identifier.segments quoteChar name = [name]) (notStar : name ≠ ['*'])
    (notDelimited : isDelimited quoteChar name = false)
    : Identifier.quote quoteChar (String.ofList name)
      = String.ofList (delimit quoteChar name) := by
  simp [Identifier.quote, Identifier.quoteChars, single, Identifier.quoteSegment, notStar,
    notDelimited]

/-- A quotation that is not closed is taken as a name with quote characters in it. -/
theorem quote_opened (notStar : quoteChar ≠ '*') (text : List Char)
    : Identifier.quote quoteChar (String.ofList (quoteChar :: double quoteChar text))
      = String.ofList (delimit quoteChar (quoteChar :: double quoteChar text)) := by
  have inside := @segmentsFrom_double quoteChar [] rfl text
  rw [List.append_nil] at inside
  refine quote_of_not_isDelimited ?_ (by simp [notStar]) ?_
  · simp [Identifier.segments, Identifier.segmentsFrom, inside, Identifier.consToFirst]
  · -- A closing quote character would make their number odd.
    refine Bool.eq_false_iff.mpr fun delimited => ?_
    obtain ⟨content, same⟩ := isDelimited_iff.mp delimited
    have counts := congrArg (List.count quoteChar) (List.cons.inj same).2
    rw [List.count_append, count_double, count_double, List.count_singleton_self] at counts
    omega

/-- A text that does not start with the delimiter is not in delimited form. -/
theorem isDelimited_eq_false {delimiter : Char} {text : List Char}
    (unopened : text.head? ≠ some delimiter)
    : isDelimited delimiter text = false := by
  cases text with
  | nil => rfl
  | cons c text =>
      have differs : c ≠ delimiter := by simpa using unopened
      simp [isDelimited, differs]

/-- A name without dots that does not start with a quote character is delimited, unless it is a
star.
-/
theorem quote_undotted (notDot : quoteChar ≠ '.') {name : List Char} (noDot : '.' ∉ name)
    (unopened : name.head? ≠ some quoteChar) (notStar : name ≠ ['*'])
    : Identifier.quote quoteChar (String.ofList name)
      = String.ofList (delimit quoteChar name) := by
  refine quote_of_not_isDelimited ?_ notStar (isDelimited_eq_false unopened)
  refine (segments_eq_singleton_iff notDot).mpr fun front back parts => ?_
  exact absurd (by simp [parts]) noDot

theorem quote_plain (notDot : quoteChar ≠ '.') {name : List Char} (noDot : '.' ∉ name)
    (noQuote : quoteChar ∉ name) (notStar : name ≠ ['*'])
    : Identifier.quote quoteChar (String.ofList name)
      = String.ofList (delimit quoteChar name) :=
  quote_undotted notDot noDot (fun first => noQuote (List.mem_of_head? first)) notStar

end SqlCompiler.Sql
