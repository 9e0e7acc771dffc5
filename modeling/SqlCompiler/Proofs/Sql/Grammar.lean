import SqlCompiler.Proofs.Sql.Path

/-! The grammar of quoted identifiers: items with single dots in between, each of them a bare
star or a delimited name. A quoted identifier is derived in exactly one way, and its items are
the names that its segments stand for.
-/

namespace SqlCompiler.Sql

open Text

variable {quoteChar : Char} {text : List Char} {items : List Lexeme}

/-- A bare star, or a name between quotes in which every quote is written twice. -/
inductive IsItem (quoteChar : Char) : List Char → Lexeme → Prop
  | star : IsItem quoteChar ['*'] (.char '*')
  | name (content : List Char) : IsItem quoteChar (delimit quoteChar content) (.name content)

/-- One item, or several with single dots in between. -/
inductive IsPath (quoteChar : Char) : List Char → List Lexeme → Prop
  | last {text : List Char} {item : Lexeme} (isItem : IsItem quoteChar text item)
    : IsPath quoteChar text [item]
  | dot {text rest : List Char} {item : Lexeme} {items : List Lexeme}
    (isItem : IsItem quoteChar text item) (isPath : IsPath quoteChar rest items)
    : IsPath quoteChar (text ++ '.' :: rest) (item :: items)

/-- The item that a segment stands for: a star for a star, the name inside of a segment that is
delimited already, and the segment itself for any other.
-/
inductive StandsFor (quoteChar : Char) : List Char → Lexeme → Prop
  | star : StandsFor quoteChar ['*'] (.char '*')
  | delimited (content : List Char)
    : StandsFor quoteChar (delimit quoteChar content) (.name content)
  | plain {segment : List Char} (notStar : segment ≠ ['*'])
    (notDelimited : ∀ content, segment ≠ delimit quoteChar content)
    : StandsFor quoteChar segment (.name segment)

-----------------------------------------------------------------------------------------
-- One derivation
-----------------------------------------------------------------------------------------

/-- Dots in between are no items. -/
theorem IsPath.dot_notMem (isPath : IsPath quoteChar text items) : .char '.' ∉ items := by
  have notDot {text : List Char} {item : Lexeme} (isItem : IsItem quoteChar text item)
      : .char '.' ≠ item := by
    cases isItem <;> simp
  induction isPath with
  | last isItem => simpa using notDot isItem
  | dot isItem _ ih => simpa using ⟨notDot isItem, ih⟩

/-- An item is read as one lexeme. -/
theorem IsItem.lexemesFrom (notStar : quoteChar ≠ '*') {item : Lexeme}
    (isItem : IsItem quoteChar text item) {after : List Char}
    (apart : after.head? ≠ some quoteChar)
    : lexemesFrom quoteChar .outside (text ++ after)
      = (lexemesFrom quoteChar .outside after).map (item :: ·) := by
  cases isItem with
  | star => exact lexemesFrom_plain (by simpa using notStar) after
  | name content => exact lexemesFrom_delimit apart content

/-- A path is read as its items and the dots in between, by induction on its derivation. -/
theorem IsPath.lexemesFrom (notDot : quoteChar ≠ '.') (notStar : quoteChar ≠ '*')
    (isPath : IsPath quoteChar text items)
    : lexemesFrom quoteChar .outside text
      = some (List.intercalate [.char '.'] (items.map fun item => [item])) := by
  induction isPath with
  | last isItem =>
      have apart : ([] : List Char).head? ≠ some quoteChar := by simp
      simpa [Sql.lexemesFrom] using isItem.lexemesFrom notStar apart
  | @dot _ rest item items isItem isPath ih =>
      have apart : ('.' :: rest).head? ≠ some quoteChar := by simpa using notDot.symm
      rw [isItem.lexemesFrom notStar apart, Sql.lexemesFrom, if_neg notDot.symm, ih]
      cases isPath <;> simp

/-- No text is derived in two ways: the items are what is read between the dots. -/
theorem IsPath.unique (notDot : quoteChar ≠ '.') (notStar : quoteChar ≠ '*')
    {others : List Lexeme} (left : IsPath quoteChar text items)
    (right : IsPath quoteChar text others)
    : items = others := by
  have same := (left.lexemesFrom notDot notStar).symm.trans (right.lexemesFrom notDot notStar)
  have same := congrArg (List.filter (· ≠ .char '.')) (Option.some.inj same)
  rwa [filter_intercalate_singletons left.dot_notMem,
    filter_intercalate_singletons right.dot_notMem] at same

-----------------------------------------------------------------------------------------
-- Quoted identifiers
-----------------------------------------------------------------------------------------

/-- A quoted segment is an item. -/
theorem isItem_quoteSegment (quoteChar : Char) (segment : List Char)
    : IsItem quoteChar (Identifier.quoteSegment quoteChar segment) (item quoteChar segment) := by
  rw [quoteSegment_eq, item]
  split
  · exact .star
  · exact .name _

/-- The item of a segment is the one it stands for. -/
theorem standsFor_item (quoteChar : Char) (segment : List Char)
    : StandsFor quoteChar segment (item quoteChar segment) := by
  rw [item]
  split
  case isTrue star => exact star ▸ .star
  case isFalse notStar =>
    cases delimited : isDelimited quoteChar segment with
    | true =>
        rw [segmentName, if_pos delimited]
        have named
            : StandsFor quoteChar (delimit quoteChar (content quoteChar segment))
                (.name (content quoteChar segment)) :=
          .delimited _
        rwa [delimit_content delimited] at named
    | false =>
        rw [segmentName, if_neg (by simp [delimited])]
        refine .plain notStar fun content same => ?_
        rw [isDelimited_iff.mpr ⟨content, same⟩] at delimited
        cases delimited

/-- Quoted segments with dots in between are a path, by induction on the segments. -/
theorem isPath_quoteSegments {segments : List (List Char)} (some : segments ≠ [])
    : IsPath quoteChar
        (List.intercalate ['.'] (segments.map (Identifier.quoteSegment quoteChar)))
        (segments.map (item quoteChar)) := by
  induction segments with
  | nil => exact absurd rfl some
  | cons segment rest ih =>
      cases rest with
      | nil => simpa using IsPath.last (isItem_quoteSegment quoteChar segment)
      | cons next rest =>
          simpa using IsPath.dot (isItem_quoteSegment quoteChar segment)
            (ih (List.cons_ne_nil _ _))

/-- The segments are what stands between the dots that separate them, by induction on the
identifier.
-/
theorem intercalate_segmentsFrom (quoteChar : Char) (quoted : Bool) (name : List Char)
    : List.intercalate ['.'] (Identifier.segmentsFrom quoteChar quoted name) = name := by
  have consToFirst (c : Char) (segments : List (List Char))
      : List.intercalate ['.'] (Identifier.consToFirst c segments)
        = c :: List.intercalate ['.'] segments := by
    rcases segments with - | ⟨segment, - | ⟨next, rest⟩⟩ <;> simp [Identifier.consToFirst]
  induction name generalizing quoted with
  | nil => rfl
  | cons c rest ih =>
      rw [Identifier.segmentsFrom]
      split
      · rw [consToFirst, ih]
      split
      case isTrue separates =>
        obtain ⟨rfl, -⟩ : c = '.' ∧ _ := by simpa using separates
        have tail := ih quoted
        cases segments : Identifier.segmentsFrom quoteChar quoted rest with
        | nil => exact absurd segments (segmentsFrom_ne_nil quoteChar quoted rest)
        | cons segment others =>
            rw [List.intercalate_cons_cons, ← segments, tail]
            rfl
      · rw [consToFirst, ih]

/-- A quoted identifier is a path of the items of its segments. -/
theorem isPath_quote (quoteChar : Char) (name : String)
    : IsPath quoteChar (Identifier.quote quoteChar name).toList
        ((Identifier.segments quoteChar name.toList).map (item quoteChar)) := by
  rw [Identifier.quote, String.toList_ofList, Identifier.quoteChars]
  exact isPath_quoteSegments (segments_ne_nil quoteChar name.toList)

/-- Quoting yields a path, whatever the identifier: it is derived in one way only, with an item
for each segment, which is what the segment stands for. Outside the quotes a reader finds dots
and stars and nothing else.
-/
theorem quote_isPath (notDot : quoteChar ≠ '.') (notStar : quoteChar ≠ '*') (name : String)
    : List.intercalate ['.'] (Identifier.segments quoteChar name.toList) = name.toList
      ∧ ∃ items,
          IsPath quoteChar (Identifier.quote quoteChar name).toList items
          ∧ (∀ others,
              IsPath quoteChar (Identifier.quote quoteChar name).toList others
              → others = items)
          ∧ List.Forall₂ (StandsFor quoteChar)
              (Identifier.segments quoteChar name.toList) items
          ∧ ∃ lexemes,
              lexemes? quoteChar (Identifier.quote quoteChar name) = some lexemes
              ∧ ∀ c, .char c ∈ lexemes → c = '*' ∨ c = '.' := by
  have isPath := isPath_quote quoteChar name
  refine ⟨intercalate_segmentsFrom quoteChar false name.toList, _, isPath, ?unique, ?names,
    path quoteChar name.toList, ?read, fun c => mem_path⟩
  case unique =>
    intro others derived
    exact derived.unique notDot notStar isPath
  case names =>
    exact List.forall₂_map_right_iff.mpr
      (List.forall₂_same.mpr fun segment _ => standsFor_item quoteChar segment)
  case read =>
    have apart : ([] : List Char).head? ≠ some quoteChar := by simp
    simpa [lexemes?, lexemesFrom] using lexemesFrom_quote notDot notStar name apart

/-- A delimited segment with a dot inside, a star, and two segments whose quotes do not make them
delimited: these are taken as names with quotes in them.
-/
theorem quote_isPath_halfQuoted
    : let name := "\"a.b\".*.\"x\" OR 1=1 --.\"\"é"
      let items : List Lexeme :=
        [.name "a.b".toList, .char '*', .name "\"x\" OR 1=1 --".toList, .name "\"\"é".toList]
      '"' ≠ '.'
      ∧ '"' ≠ '*'
      ∧ Identifier.quote '"' name = "\"a.b\".*.\"\"\"x\"\" OR 1=1 --\".\"\"\"\"\"é\""
      ∧ IsPath '"' (Identifier.quote '"' name).toList items
      ∧ (∀ others, IsPath '"' (Identifier.quote '"' name).toList others → others = items)
      ∧ List.Forall₂ (StandsFor '"') (Identifier.segments '"' name.toList) items := by
  intro name items
  have derived : IsPath '"' (Identifier.quote '"' name).toList items := by
    have text
        : (Identifier.quote '"' name).toList
          = delimit '"' "a.b".toList ++ '.' :: (['*'] ++ '.'
            :: (delimit '"' "\"x\" OR 1=1 --".toList ++ '.' :: delimit '"' "\"\"é".toList)) := by
      decide +kernel
    rw [text]
    exact .dot (.name _) (.dot .star (.dot (.name _) (.last (.name _))))
  obtain ⟨_, found, _, unique, names, _⟩ :=
    quote_isPath (by decide : '"' ≠ '.') (by decide) name
  obtain rfl := unique items derived
  exact ⟨by decide, by decide, by decide +kernel, derived, unique, names⟩

end SqlCompiler.Sql
