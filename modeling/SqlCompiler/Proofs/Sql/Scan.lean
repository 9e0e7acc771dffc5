import SqlCompiler.Proofs.Sql.Dotted

/-! Cutting identifiers by byte offsets. A scan over the characters of an identifier, which has a
flag for quotations and the offset at which the present segment starts, finds the segments of the
identifier. Its offsets are all between characters, however many bytes these have.
-/

namespace SqlCompiler

open Sql Text

-----------------------------------------------------------------------------------------
-- Slices
-----------------------------------------------------------------------------------------

/-- The text between two byte offsets. There is one only if both are between characters, or at an
end, and the first is not behind the second.
-/
def slice? (text : String) (start stop : String.Pos.Raw) : Option String := do
  let slice ← text.slice? (← text.pos? start) (← text.pos? stop)
  return slice.copy

theorem pos?_eq_some_iff {text : String} {offset : String.Pos.Raw} {position : text.Pos}
    : text.pos? offset = some position ↔ position.offset = offset := by
  constructor
  · intro found
    obtain ⟨inSlice, isSlice, rfl⟩ := Option.map_eq_some_iff.mp found
    rw [String.Slice.pos?] at isSlice
    split at isSlice
    · cases isSlice
      rfl
    · cases isSlice
  · rintro rfl
    have isValid : position.offset.isValidForSlice text.toSlice = true :=
      String.Pos.Raw.isValidForSlice_eq_true_iff.mpr position.isValid.toSlice
    rw [String.pos?, String.Slice.pos?, dif_pos isValid]
    rfl

/-- The slices of a text are its parts, each between the offsets at which it starts and ends. -/
theorem slice?_eq_some_iff {text part : String} {start stop : String.Pos.Raw}
    : slice? text start stop = some part
      ↔ ∃ before behind,
          text = before ++ part ++ behind
          ∧ start = before.rawEndPos
          ∧ stop = (before ++ part).rawEndPos := by
  constructor
  · intro found
    obtain ⟨first, isFirst, found⟩ := Option.bind_eq_some_iff.mp found
    obtain ⟨last, isLast, found⟩ := Option.bind_eq_some_iff.mp found
    obtain ⟨slice, isSlice, same⟩ := Option.bind_eq_some_iff.mp found
    rw [String.slice?, Option.dite_none_right_eq_some] at isSlice
    obtain ⟨inOrder, isSlice⟩ := isSlice
    obtain rfl := Option.some.inj isSlice
    obtain ⟨before, behind, splitsFirst, splitsLast⟩ :=
      String.copy_slice_eq_iff_splits.mp ⟨inOrder, Option.some.inj same⟩
    exact ⟨before, behind, splitsLast.eq_append,
      (pos?_eq_some_iff.mp isFirst).symm.trans splitsFirst.offset_eq_rawEndPos,
      (pos?_eq_some_iff.mp isLast).symm.trans splitsLast.offset_eq_rawEndPos⟩
  · rintro ⟨before, behind, rfl, rfl, rfl⟩
    have whole : before ++ part ++ behind = before ++ (part ++ behind) := String.append_assoc ..
    have startValid : before.rawEndPos.IsValid (before ++ part ++ behind) :=
      String.Pos.Raw.isValid_iff_exists_append.mpr ⟨before, part ++ behind, whole, rfl⟩
    have stopValid : (before ++ part).rawEndPos.IsValid (before ++ part ++ behind) :=
      String.Pos.Raw.isValid_iff_exists_append.mpr ⟨before ++ part, behind, rfl, rfl⟩
    let first := (before ++ part ++ behind).pos _ startValid
    let last := (before ++ part ++ behind).pos _ stopValid
    have isFirst : (before ++ part ++ behind).pos? before.rawEndPos = some first :=
      pos?_eq_some_iff.mpr rfl
    have isLast : (before ++ part ++ behind).pos? (before ++ part).rawEndPos = some last :=
      pos?_eq_some_iff.mpr rfl
    have splitsFirst : first.Splits before (part ++ behind) := ⟨whole, rfl⟩
    have splitsLast : last.Splits (before ++ part) behind := ⟨rfl, rfl⟩
    obtain ⟨inOrder, copied⟩ :=
      String.copy_slice_eq_iff_splits.mpr ⟨before, behind, splitsFirst, splitsLast⟩
    simp [slice?, isFirst, isLast, String.slice?, inOrder, copied]

namespace Identifier

/-- How far an identifier has been scanned: the segments that are complete, whether a quotation is
open, and where the segment starts that goes on.
-/
structure Scan where
  segments : List String := []
  quoted : Bool := false
  start : String.Pos.Raw := 0

namespace Scan

/-- Reads a character and the offset before it. -/
def step? (quoteChar : Char) (name : String) (scan : Scan) (index : String.Pos.Raw) (c : Char)
    : Option Scan :=
  if c = quoteChar then some { scan with quoted := !scan.quoted }
  else if c = '.' && !scan.quoted then do
    let segment ← slice? name scan.start index
    return { scan with segments := scan.segments ++ [segment], start := index + c }
  else some scan

/-- Reads the characters that are left; the last segment ends with the identifier. -/
def run? (quoteChar : Char) (name : String)
    : Scan → String.Pos.Raw → List Char → Option (List String)
  | scan, _, [] => do
      let segment ← slice? name scan.start name.rawEndPos
      return scan.segments ++ [segment]
  | scan, index, c :: rest => do
      let next ← scan.step? quoteChar name index c
      next.run? quoteChar name (index + c) rest

end Scan

/-- The slices that a scan cuts an identifier into; there are none if it cuts inside a character. -/
def slices? (quoteChar : Char) (name : String) : Option (List String) :=
  Scan.run? quoteChar name {} 0 name.toList

-----------------------------------------------------------------------------------------
-- What a scan finds
-----------------------------------------------------------------------------------------

theorem foldr_consToFirst (text segment : List Char) (segments : List (List Char))
    : text.foldr consToFirst (segment :: segments) = (text ++ segment) :: segments := by
  induction text with
  | nil => rfl
  | cons c text ih => rw [List.foldr_cons, ih, consToFirst, List.cons_append]

namespace Scan

/-- The scan is before the rest of a name and has a segment open, which starts behind what comes
before both.
-/
structure IsAt (scan : Scan) (name : String) (index : String.Pos.Raw) (before current : String)
    (rest : List Char) : Prop where
  parts : name = before ++ current ++ .ofList rest
  start : scan.start = before.rawEndPos
  index : index = (before ++ current).rawEndPos

/-- What the scan is going to find: the segments that are complete, and those of the rest, the
first of which goes on with the one that is open.
-/
def outcome (quoteChar : Char) (scan : Scan) (current : String) (rest : List Char) : List String :=
  scan.segments
    ++ (current.toList.foldr consToFirst (segmentsFrom quoteChar scan.quoted rest)).map .ofList

variable {scan : Scan} {name : String} {index : String.Pos.Raw}
  {before current : String} {c : Char} {rest : List Char}

/-- The open segment is a slice. -/
theorem IsAt.slice?_eq (h : scan.IsAt name index before current rest)
    : slice? name scan.start index = some current :=
  slice?_eq_some_iff.mpr ⟨before, .ofList rest, h.parts, h.start, h.index⟩

/-- A character may go on with the open segment. -/
theorem IsAt.push (h : scan.IsAt name index before current (c :: rest)) (quoted : Bool)
    : ({ scan with quoted } : Scan).IsAt name (index + c) before (current.push c) rest where
  parts := h.parts.trans (String.toList_injective (by simp))
  start := h.start
  index := by
    have pushed : before ++ current.push c = (before ++ current).push c :=
      String.toList_injective (by simp)
    rw [h.index, pushed, String.rawEndPos_push]

/-- Behind a character that separates, a new segment starts. -/
theorem IsAt.cut (h : scan.IsAt name index before current (c :: rest))
    : ({ scan with segments := scan.segments ++ [current], start := index + c } : Scan).IsAt name
        (index + c) ((before ++ current).push c) "" rest where
  parts := h.parts.trans (String.toList_injective (by simp))
  start := by rw [h.index, String.rawEndPos_push]
  index := by rw [h.index, String.append_empty, String.rawEndPos_push]

/-- Reading a character succeeds and changes nothing about what is going to be found. -/
theorem IsAt.step? (quoteChar : Char) (h : scan.IsAt name index before current (c :: rest))
    : ∃ next before' current',
        scan.step? quoteChar name index c = some next
        ∧ next.IsAt name (index + c) before' current' rest
        ∧ next.outcome quoteChar current' rest = scan.outcome quoteChar current (c :: rest) := by
  rw [Scan.step?]
  split
  case isTrue isQuote =>
    refine ⟨_, before, current.push c, rfl, h.push (!scan.quoted), ?_⟩
    simp [outcome, segmentsFrom, isQuote]
  case isFalse notQuote =>
    split
    case isTrue separates =>
      refine ⟨_, _, "", by rw [h.slice?_eq]; rfl, h.cut, ?_⟩
      simp [outcome, segmentsFrom, notQuote, separates, foldr_consToFirst]
    case isFalse inside =>
      refine ⟨scan, before, current.push c, rfl, h.push scan.quoted, ?_⟩
      simp [outcome, segmentsFrom, notQuote, inside]

/-- A scan that runs to the end finds what it is going to find, by induction on the rest. -/
theorem IsAt.run? (quoteChar : Char) (h : scan.IsAt name index before current rest)
    : scan.run? quoteChar name index rest = some (scan.outcome quoteChar current rest) := by
  induction rest generalizing scan index before current with
  | nil =>
      have atEnd : name.rawEndPos = index := by
        rw [h.parts, h.index, String.ofList_nil, String.append_empty]
      rw [Scan.run?, atEnd, h.slice?_eq]
      simp [outcome, segmentsFrom, foldr_consToFirst]
  | cons c rest ih =>
      obtain ⟨next, before', current', steps, isAt, same⟩ := h.step? quoteChar
      rw [Scan.run?, steps, ← same]
      exact ih isAt

end Scan

/-- No offset is inside a character, and the slices are the segments. -/
theorem slices?_eq (quoteChar : Char) (name : String)
    : slices? quoteChar name = some ((segments quoteChar name.toList).map .ofList) := by
  have isAt : Scan.IsAt {} name 0 "" "" name.toList := ⟨by simp, rfl, rfl⟩
  rw [slices?, isAt.run?]
  rfl

-----------------------------------------------------------------------------------------
-- Where identifiers are cut
-----------------------------------------------------------------------------------------

variable {quoteChar : Char}

/-- The first segments, up to any of them, leave no quotation open, by induction on them. -/
theorem even_of_segments_eq_append (notDot : quoteChar ≠ '.') {name : List Char}
    {left right : List (List Char)} (someLeft : left ≠ []) (someRight : right ≠ [])
    (cut : segments quoteChar name = left ++ right)
    : (['.'].intercalate left).count quoteChar % 2 = 0 := by
  induction left generalizing name with
  | nil => exact absurd rfl someLeft
  | cons first others ih =>
      obtain ⟨segment, single, rfl | ⟨back, rfl, outside⟩⟩ :=
        exists_firstSegment quoteChar false name
      · obtain ⟨-, behind⟩ := List.cons.inj (single.symm.trans cut)
        exact absurd (List.append_eq_nil_iff.mp behind.symm).2 someRight
      · have cuts
            : segments quoteChar (segment ++ '.' :: back)
              = segment :: segments quoteChar back := by
          rw [segments, segmentsFrom_append_dot notDot outside, single, List.singleton_append]
        obtain ⟨rfl, behind⟩ := List.cons.inj (cuts.symm.trans cut)
        have even : segment.count quoteChar % 2 = 0 := by simpa [isQuotedBehind] using outside
        cases others with
        | nil => simpa using even
        | cons next others =>
            have later := ih (List.cons_ne_nil _ _) behind
            have dot : ['.'].count quoteChar = 0 := by simp [notDot.symm]
            rw [List.intercalate_cons_cons, List.count_append, List.count_append, dot]
            omega

/-- The segments come apart at a dot exactly if an even number of quote characters is before it. -/
theorem exists_segments_eq_append_iff (notDot : quoteChar ≠ '.') (front back : List Char)
    : (∃ left right,
        left ≠ []
        ∧ right ≠ []
        ∧ segments quoteChar (front ++ '.' :: back) = left ++ right
        ∧ ['.'].intercalate left = front
        ∧ ['.'].intercalate right = back)
      ↔ front.count quoteChar % 2 = 0 := by
  constructor
  · rintro ⟨left, right, someLeft, someRight, cut, rfl, -⟩
    exact even_of_segments_eq_append notDot someLeft someRight cut
  · intro even
    have outside : isQuotedBehind quoteChar false front = false := by simp [isQuotedBehind, even]
    exact ⟨segments quoteChar front, segments quoteChar back,
      segmentsFrom_ne_nil quoteChar false front, segmentsFrom_ne_nil quoteChar false back,
      segmentsFrom_append_dot notDot outside back,
      intercalate_segmentsFrom quoteChar false front,
      intercalate_segmentsFrom quoteChar false back⟩

/-- Cutting an identifier into slices always succeeds and loses nothing: there is at least one
slice, and with dots in between the slices are the identifier again. It is cut at the dots behind an
even number of quote characters, and at no others. The slices are the segments.
-/
theorem slices?_lossless (notDot : quoteChar ≠ '.') (name : String)
    : ∃ texts : List String,
        slices? quoteChar name = some texts
        ∧ texts = (segments quoteChar name.toList).map .ofList
        ∧ texts ≠ []
        ∧ String.intercalate "." texts = name
        ∧ ∀ front back : String,
            name = front ++ "." ++ back
            → ((∃ left right,
                  left ≠ []
                  ∧ right ≠ []
                  ∧ texts = left ++ right
                  ∧ String.intercalate "." left = front
                  ∧ String.intercalate "." right = back)
                ↔ front.toList.count quoteChar % 2 = 0) := by
  have join (segments : List (List Char))
      : String.intercalate "." (segments.map .ofList) = .ofList (['.'].intercalate segments) :=
    String.toList_injective (by simp [String.toList_intercalate])
  refine ⟨_, slices?_eq quoteChar name, rfl, ?some, ?joined, fun front back parts => ?cuts⟩
  case some => simpa [segments] using segmentsFrom_ne_nil quoteChar false name.toList
  case joined =>
    rw [join, segments, intercalate_segmentsFrom, String.ofList_toList]
  case cuts =>
    have chars : name.toList = front.toList ++ '.' :: back.toList := by simp [parts]
    rw [← exists_segments_eq_append_iff notDot front.toList back.toList, ← chars]
    constructor
    · rintro ⟨left, right, someLeft, someRight, cut, rfl, rfl⟩
      have cutChars := congrArg (List.map String.toList) cut
      refine ⟨left.map String.toList, right.map String.toList, by simpa using someLeft,
        by simpa using someRight, by simpa using cutChars, ?_, ?_⟩
      · simp [String.toList_intercalate]
      · simp [String.toList_intercalate]
    · rintro ⟨left, right, someLeft, someRight, cut, isFront, isBack⟩
      refine ⟨left.map .ofList, right.map .ofList, by simpa using someLeft,
        by simpa using someRight, by rw [cut, List.map_append], ?_, ?_⟩
      · rw [join, isFront, String.ofList_toList]
      · rw [join, isBack, String.ofList_toList]

/-- Characters of two and of three bytes, one of them the quote character. -/
theorem slices?_lossless_multibyte
    : '\u00ab' ≠ '.'
      ∧ ∃ texts,
          slices? '\u00ab' "\u00e4.\u00abb.\u65e5\u00ab.\u672c" = some texts
          ∧ texts = ["\u00e4", "\u00abb.\u65e5\u00ab", "\u672c"]
          ∧ String.intercalate "." texts = "\u00e4.\u00abb.\u65e5\u00ab.\u672c" := by
  have notDot : '\u00ab' ≠ '.' := by decide
  obtain ⟨texts, cut, same, -, joined, -⟩ :=
    slices?_lossless notDot "\u00e4.\u00abb.\u65e5\u00ab.\u672c"
  exact ⟨notDot, texts, cut, same.trans (by decide), joined⟩

end Identifier

end SqlCompiler
