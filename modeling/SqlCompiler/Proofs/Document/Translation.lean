import SqlCompiler.Document.Reader
import SqlCompiler.Proofs.Document.Offence
import SqlCompiler.Proofs.OrderedMap

/-! Which documents describe queries. A document is refused for its first offence, and without
one nothing of its values and conditions is lost or added.
-/

namespace SqlCompiler.Document

variable {document : Document} {binder : Binder} {query : Query}

/-- The members of an object that is read have different keys. -/
theorem nodup_keys_ofTree? {levels : Nat} {tree : Json.Tree} {members : List (String × Json)}
    (read : Json.ofTree? levels tree = some (.object members))
    : (OrderedMap.keys members).Nodup := by
  cases levels with
  | zero => cases tree <;> simp [Json.ofTree?] at read
  | succ levels =>
      cases tree with
      | object trees =>
          simp only [Json.ofTree?, bind, Option.bind_eq_some_iff] at read
          obtain ⟨pairs, _, same⟩ := read
          cases same
          exact OrderedMap.nodup_keys_ofList pairs
      | _ => simp [Json.ofTree?] at read

theorem nodup_keys_valueMap? {tree : Json.Tree} {members : List (String × Json)}
    (read : valueMap? tree = some members)
    : (OrderedMap.keys members).Nodup := by
  obtain ⟨json, isJson, isObject⟩ := Option.bind_eq_some_iff.mp read
  cases json with
  | object found =>
      obtain rfl := Option.some.inj isObject
      exact nodup_keys_ofTree? isJson
  | _ => cases isObject

/-- Where the values and the conditions of a document that is read come from. -/
theorem parts_ofText? {text : String} (parsed : ofText? text = some document)
    : let criteria? := Json.Tree.list? (CriterionSpec.ofTree? itemLevels)
      ∃ fields,
        Json.optional? fields "values" [] valueMap? = some document.values
        ∧ Json.optional? fields "where" [] criteria? = some document.criteria
        ∧ Json.optional? fields "having" [] criteria? = some document.having := by
  intro criteria?
  obtain ⟨tree, -, read⟩ := Option.bind_eq_some_iff.mp parsed
  obtain ⟨fields, -, read⟩ := Option.bind_eq_some_iff.mp read
  -- the table, the alias, the identifying column and the columns
  iterate 4 obtain ⟨_, -, read⟩ := Option.bind_eq_some_iff.mp read
  obtain ⟨values, isValues, read⟩ := Option.bind_eq_some_iff.mp read
  obtain ⟨joins, -, read⟩ := Option.bind_eq_some_iff.mp read
  obtain ⟨criteria, isCriteria, read⟩ := Option.bind_eq_some_iff.mp read
  obtain ⟨group, -, read⟩ := Option.bind_eq_some_iff.mp read
  obtain ⟨having, isHaving, read⟩ := Option.bind_eq_some_iff.mp read
  -- the order, the two counts, the flags, the lock and what is returned
  iterate 6 obtain ⟨_, -, read⟩ := Option.bind_eq_some_iff.mp read
  obtain rfl := Option.some.inj read
  exact ⟨fields, isValues, isCriteria, isHaving⟩

/-- A field that may be missing has its default, or is read. -/
theorem optional?_eq_some {α : Type} {fields : List (String × Json.Tree)} {name : String}
    {default found : α} {read : Json.Tree → Option α}
    (ok : Json.optional? fields name default read = some found)
    : found = default ∨ ∃ tree, read tree = some found := by
  rw [Json.optional?] at ok
  split at ok
  · exact Or.inr ⟨_, ok⟩
  · exact Or.inl (Option.some.inj ok).symm

/-- A document that is read names no column twice. -/
theorem nodup_keys_values {text : String} (parsed : ofText? text = some document)
    : (OrderedMap.keys document.values).Nodup := by
  obtain ⟨fields, isValues, -, -⟩ := parts_ofText? parsed
  rcases optional?_eq_some isValues with none | ⟨tree, read⟩
  · rw [none]
    exact List.nodup_nil
  · exact nodup_keys_valueMap? read

/-- Values of different columns stay as they are and where they are. -/
theorem values_ok (nodup : (OrderedMap.keys document.values).Nodup)
    (ok : document.toQuery binder = .ok query)
    : List.Forall₂ (fun member pair => pair.1 = member.1 ∧ Value.ofJson member.2 = .ok pair.2)
        document.values query.values := by
  obtain ⟨values, assigned, isValues, -, -⟩ := toQuery_ok ok
  have alike
      : List.Forall₂
          (fun member pair => pair.1 = member.1 ∧ Value.ofJson member.2 = .ok pair.2)
          document.values values :=
    (mapM_eq_ok_iff.mp assigned).imp fun _ _ => toAssignment_eq_ok_iff.mp
  have keys : List.Forall₂ Eq (OrderedMap.keys document.values) (OrderedMap.keys values) :=
    List.forall₂_map_left_iff.mpr
      (List.forall₂_map_right_iff.mpr (alike.imp fun _ _ same => same.1.symm))
  rw [List.forall₂_eq_eq_eq] at keys
  rwa [isValues, OrderedMap.ofList_of_nodup (keys ▸ nodup)]

/-- A parsed document is refused exactly if one of its values, joins, conditions or conditions for
groups is, and what is said of it is said of the first of these. Otherwise each condition has its
entry in the criteria, and each value its place in the map.
-/
theorem toQuery_outcome {text : String} (parsed : ofText? text = some document)
    (binder : Binder)
    : ((∃ error, document.toQuery binder = .error error)
        ↔ (∃ member ∈ document.values, ¬ member.2.IsValue)
          ∨ (∃ join ∈ document.joins, join.HasUnknownKind)
          ∨ ∃ spec ∈ document.criteria ++ document.having, spec.IsRefused)
      ∧ (∀ chain,
          (∃ error, document.toQuery binder = .error error ∧ error.chain = chain)
          ↔ document.offences.head? = some chain)
      ∧ ∀ query,
          document.toQuery binder = .ok query
          → List.Forall₂ CriterionSpec.Describes document.criteria query.criteria.entries
            ∧ List.Forall₂ CriterionSpec.Describes document.having query.having.entries
            ∧ List.Forall₂
                (fun member pair => pair.1 = member.1 ∧ Value.ofJson member.2 = .ok pair.2)
                document.values query.values := by
  have said (chain : List String)
      : (∃ error, document.toQuery binder = .error error ∧ error.chain = chain)
        ↔ document.offences.head? = some chain := by
    simp only [← map_chain_cause?_toQuery document binder, Option.map_eq_some_iff,
      cause?_eq_some_iff]
  refine ⟨?refused, said, ?accepted⟩
  case refused =>
    have offended
        : (∃ error, document.toQuery binder = .error error) ↔ document.offences ≠ [] := by
      constructor
      · rintro ⟨error, refused⟩ nothing
        have first := (said error.chain).mp ⟨error, refused, rfl⟩
        rw [nothing] at first
        cases first
      · intro something
        obtain ⟨chain, others, isFirst⟩ := List.exists_cons_of_ne_nil something
        obtain ⟨error, refused, _⟩ := (said chain).mpr (isFirst ▸ rfl)
        exact ⟨error, refused⟩
    rw [offended, Ne, offences_eq_nil_iff]
    simp only [List.mem_append, or_and_right, exists_or, not_and_or, not_forall, not_not,
      exists_prop]
  case accepted =>
    intro query ok
    obtain ⟨values, -, -, criteria, having⟩ := toQuery_ok ok
    refine ⟨?_, ?_, values_ok (nodup_keys_values parsed) ok⟩
    · exact (mapM_eq_ok_iff.mp criteria).imp fun _ _ => CriterionSpec.describes_of_toEntry
    · exact (mapM_eq_ok_iff.mp having).imp fun _ _ => CriterionSpec.describes_of_toEntry

/-- A join of an unknown kind comes before a condition with an unknown operator. A document without
offences is in its query as a whole.
-/
theorem toQuery_outcome_unknownKind
    : let refusedText :=
        "\x7b\"table\":\"t\",\"joins\":[\x7b\"table\":\"u\",\"kind\":\"Full\"\x7d],"
          ++ "\"where\":[\x7b\"column\":\"c\",\"op\":\"?\"\x7d]\x7d"
      let acceptedText :=
        "\x7b\"table\":\"t\",\"values\":\x7b\"a\":1\x7d,"
          ++ "\"where\":[\x7b\"column\":\"c\",\"op\":\"=\",\"value\":[2],\"or\":true\x7d]\x7d"
      (∃ document error,
        ofText? refusedText = some document
        ∧ document.toQuery {} = .error error
        ∧ error.chain = ["unknown join kind 'full'"])
      ∧ ∃ document query,
          ofText? acceptedText = some document
          ∧ document.toQuery {} = .ok query
          ∧ List.Forall₂ CriterionSpec.Describes document.criteria query.criteria.entries
          ∧ query.criteria.entries = [.predicate ⟨"c", .isIn [.bind (.int 2)], .or⟩]
          ∧ query.values = [("a", .bind (.int 1))] := by
  intro refusedText acceptedText
  constructor
  · have offence
        : (ofText? refusedText).map (fun document => document.offences.head?)
          = some (some ["unknown join kind 'full'"]) := by
      decide +kernel
    obtain ⟨document, parsed, first⟩ := Option.map_eq_some_iff.mp offence
    obtain ⟨_, said, _⟩ := toQuery_outcome parsed {}
    obtain ⟨error, refused, chain⟩ := (said _).mpr first
    exact ⟨document, error, parsed, refused, chain⟩
  · have parts
        : (ofText? acceptedText).bind (fun document =>
            (document.toQuery {}).toOption.map fun query => (query.criteria.entries, query.values))
          = some
              ([.predicate ⟨"c", .isIn [.bind (.int 2)], .or⟩], [("a", .bind (.int 1))]) := by
      decide +kernel
    obtain ⟨document, parsed, parts⟩ := Option.bind_eq_some_iff.mp parts
    obtain ⟨query, isQuery, parts⟩ := Option.map_eq_some_iff.mp parts
    have accepted : document.toQuery {} = .ok query := by
      cases outcome : document.toQuery {} with
      | error error => simp [outcome, Except.toOption] at isQuery
      | ok found => simpa [outcome, Except.toOption] using isQuery
    obtain ⟨entries, values⟩ := Prod.mk.inj parts
    obtain ⟨_, _, whole⟩ := toQuery_outcome parsed {}
    exact ⟨document, query, parsed, accepted, (whole query accepted).1, entries, values⟩

end SqlCompiler.Document
