import Mathlib.Data.List.Nodup
import Mathlib.Data.List.Range
import Std.Data.TreeMap.Lemmas
import SqlCompiler.Binder

/-! Placeholders carry consecutive numbers behind one prefix. Decimal numbers are never equal
by accident, not even behind a prefix that ends in digits, so every placeholder of a binder
stands for one value only.
-/

namespace SqlCompiler.Binder

-----------------------------------------------------------------------------------------
-- The bindings that a run of values gets
-----------------------------------------------------------------------------------------

/-- The bindings of some values whose placeholders are numbered from `number` on. -/
def numbered (placeholderPrefix : String) (number : Nat) : List SqlValue → List Binding
  | [] => []
  | value :: values =>
      ⟨placeholder placeholderPrefix number, value⟩
        :: numbered placeholderPrefix (number + 1) values

/-- Two placeholders of one prefix are equal only if their numbers are, since the digits behind
the prefix read back as the number.
-/
theorem placeholder_injective (placeholderPrefix : String)
    : Function.Injective (placeholder placeholderPrefix) := by
  intro i j same
  have chars := congrArg String.toList same
  simp only [placeholder, String.toList_append, List.append_assoc, List.append_cancel_left_eq,
    Nat.toString_eq_repr, Nat.toList_repr] at chars
  have read := congrArg (fun digits => Nat.ofDigitChars 10 digits 0) chars
  simpa using read

@[simp]
theorem length_numbered (placeholderPrefix : String) (number : Nat) (values : List SqlValue)
    : (numbered placeholderPrefix number values).length = values.length := by
  induction values generalizing number with
  | nil => rfl
  | cons value values ih => simp [numbered, ih]

@[simp]
theorem map_value_numbered (placeholderPrefix : String) (number : Nat)
    (values : List SqlValue)
    : (numbered placeholderPrefix number values).map (·.value) = values := by
  induction values generalizing number with
  | nil => rfl
  | cons value values ih => simp [numbered, ih]

/-- The placeholders depend on how many values are bound, and on nothing else of them. -/
theorem map_placeholder_numbered (placeholderPrefix : String) (number : Nat)
    (values : List SqlValue)
    : (numbered placeholderPrefix number values).map (·.placeholder)
      = (List.range' number values.length).map (placeholder placeholderPrefix) := by
  induction values generalizing number with
  | nil => rfl
  | cons value values ih => simp [numbered, ih, List.range'_succ]

theorem zipWith_numbered (placeholderPrefix : String) (number : Nat)
    (values : List SqlValue)
    : ((numbered placeholderPrefix number values).map (·.placeholder)).zipWith Binding.mk values
      = numbered placeholderPrefix number values := by
  induction values generalizing number with
  | nil => rfl
  | cons value values ih => simp [numbered, ih]

theorem numbered_append (placeholderPrefix : String) (number : Nat)
    (left right : List SqlValue)
    : numbered placeholderPrefix number (left ++ right)
      = numbered placeholderPrefix number left
        ++ numbered placeholderPrefix (number + left.length) right := by
  induction left generalizing number with
  | nil => rfl
  | cons value values ih => simp [numbered, ih, Nat.add_assoc, Nat.add_comm 1]

/-- No placeholder is handed out twice, since the numbers are distinct. -/
theorem nodup_numbered (placeholderPrefix : String) (number : Nat) (values : List SqlValue)
    : ((numbered placeholderPrefix number values).map (·.placeholder)).Nodup := by
  rw [map_placeholder_numbered]
  exact List.Nodup.map (placeholder_injective placeholderPrefix) List.nodup_range'

-----------------------------------------------------------------------------------------
-- What binding does to a binder
-----------------------------------------------------------------------------------------

/-- Binding values appends their numbered bindings, by induction on the values. -/
theorem prepareAll_eq (binder : Binder) (values : List SqlValue)
    : binder.prepareAll values
      = ((numbered binder.placeholderPrefix binder.counter values).map (·.placeholder),
          { binder with
            counter := binder.counter + values.length
            bindings :=
              binder.bindings
                ++ numbered binder.placeholderPrefix binder.counter values }) := by
  induction values generalizing binder with
  | nil => simp [prepareAll, numbered]
  | cons value values ih =>
      simp only [prepareAll, ih, prepare, numbered, List.map_cons, List.length_cons,
        List.append_assoc, List.singleton_append, Nat.add_assoc, Nat.add_comm 1]

-----------------------------------------------------------------------------------------
-- The invariant of binders
-----------------------------------------------------------------------------------------

theorem isPlaceholderPrefix_iff {text : String}
    : isPlaceholderPrefix text = true
      ↔ text ≠ "" ∧ ∀ c ∈ text.toList, c.isAlphanum ∨ c = '_' := by
  simp [isPlaceholderPrefix, isPlaceholderChar]

/-- The state of every binder: a prefix that may stand in SQL text, bindings that are numbered
from one, and a counter that is one ahead of them.
-/
structure WellNumbered (binder : Binder) : Prop where
  validPrefix : isPlaceholderPrefix binder.placeholderPrefix = true
  counter : binder.counter = binder.size + 1
  bindings : binder.bindings = numbered binder.placeholderPrefix 1 binder.values

/-- A binder that holds nothing is well numbered if its prefix is one. -/
theorem WellNumbered.empty {text : String} (valid : isPlaceholderPrefix text = true)
    : WellNumbered { placeholderPrefix := text } where
  validPrefix := valid
  counter := rfl
  bindings := rfl

theorem withPrefix_eq_ok_iff {text : String} {binder : Binder}
    : Binder.withPrefix text = .ok binder
      ↔ isPlaceholderPrefix text = true ∧ binder = { placeholderPrefix := text } := by
  cases valid : isPlaceholderPrefix text <;>
    simp [Binder.withPrefix, checkPlaceholderPrefix, valid, bind, Except.bind, pure,
      Except.pure, eq_comm]

/-- A prefix that is accepted gives a well-numbered binder. -/
theorem WellNumbered.withPrefix {text : String} {binder : Binder}
    (created : Binder.withPrefix text = .ok binder)
    : binder.WellNumbered := by
  obtain ⟨valid, rfl⟩ := withPrefix_eq_ok_iff.mp created
  exact .empty valid

/-- Binding keeps a binder well numbered: the new bindings go on where the old ones end. -/
theorem WellNumbered.prepareAll {binder : Binder} (h : binder.WellNumbered)
    (values : List SqlValue)
    : (binder.prepareAll values).2.WellNumbered := by
  have counter := h.counter
  have bindings := h.bindings
  have sizes : binder.values.length = binder.bindings.length := by simp [Binder.values]
  rw [prepareAll_eq]
  refine ⟨h.validPrefix, ?_, ?_⟩
  · simp only [size, List.length_append, length_numbered] at counter ⊢
    omega
  · have start : 1 + binder.values.length = binder.counter := by
      rw [counter, sizes, size]
      omega
    rw [Binder.values, List.map_append, map_value_numbered, numbered_append]
    change _ = numbered binder.placeholderPrefix 1 binder.values
      ++ numbered binder.placeholderPrefix (1 + binder.values.length) values
    rw [← bindings, start]

/-- A reset empties the binder and keeps its prefix. -/
theorem WellNumbered.reset {binder : Binder} (h : binder.WellNumbered)
    : binder.reset.WellNumbered :=
  .empty h.validPrefix

/-- The well-numbered binders are those that are made with a prefix and then filled. -/
theorem wellNumbered_iff {binder : Binder}
    : binder.WellNumbered
      ↔ ∃ start values,
          Binder.withPrefix binder.placeholderPrefix = .ok start
          ∧ binder = (start.prepareAll values).2 := by
  constructor
  · intro h
    refine ⟨{ placeholderPrefix := binder.placeholderPrefix }, binder.values, ?_, ?_⟩
    · exact withPrefix_eq_ok_iff.mpr ⟨h.validPrefix, rfl⟩
    · have sizes : 1 + binder.values.length = binder.counter := by
        rw [h.counter, Binder.values, List.length_map, size, Nat.add_comm]
      rw [prepareAll_eq, sizes, List.nil_append, ← h.bindings]
  · rintro ⟨start, values, created, filled⟩
    rw [filled]
    exact (WellNumbered.withPrefix created).prepareAll values

/-- The placeholders of a well-numbered binder are known from its prefix and its size. -/
theorem WellNumbered.placeholders {binder : Binder} (h : binder.WellNumbered)
    : binder.bindings.map (·.placeholder)
      = (List.range' 1 binder.size).map (placeholder binder.placeholderPrefix) := by
  have sizes : binder.values.length = binder.size := by
    rw [Binder.values, List.length_map, size]
  rw [h.bindings, map_placeholder_numbered, sizes]

/-- The i-th placeholder of a well-numbered binder has the number i + 1. -/
theorem WellNumbered.placeholder_getElem {binder : Binder} (h : binder.WellNumbered) (i : Nat)
    (bound : i < binder.bindings.length)
    : binder.bindings[i].placeholder = placeholder binder.placeholderPrefix (i + 1) := by
  have listed : i < (binder.bindings.map (·.placeholder)).length := by
    rwa [List.length_map]
  have same := List.getElem_of_eq h.placeholders listed
  rwa [List.getElem_map, List.getElem_map, List.getElem_range', Nat.one_mul,
    Nat.add_comm] at same

theorem WellNumbered.nodup {binder : Binder} (h : binder.WellNumbered)
    : (binder.bindings.map (·.placeholder)).Nodup := by
  rw [h.bindings]
  exact nodup_numbered ..

-----------------------------------------------------------------------------------------
-- Looking values up
-----------------------------------------------------------------------------------------

/-- Among distinct placeholders the first binding found is the only one, by induction on the
bindings.
-/
theorem find?_placeholder {bindings : List Binding} {binding : Binding}
    (distinct : (bindings.map (·.placeholder)).Nodup) (member : binding ∈ bindings)
    : bindings.find? (fun other => other.placeholder = binding.placeholder)
      = some binding := by
  induction bindings with
  | nil => simp at member
  | cons first rest ih =>
      obtain ⟨fresh, distinct⟩ := List.nodup_cons.mp distinct
      rcases List.mem_cons.mp member with same | later
      · simp [same]
      · have differs : first.placeholder ≠ binding.placeholder := by
          intro same
          exact fresh (List.mem_map.mpr ⟨binding, later, same.symm⟩)
        simp [differs, ih distinct later]

/-- Every placeholder of a well-numbered binder resolves to the value it was made for. -/
theorem WellNumbered.get? {binder : Binder} (h : binder.WellNumbered) {binding : Binding}
    (member : binding ∈ binder.bindings)
    : binder.get? binding.placeholder = some binding.value := by
  simp [Binder.get?, find?_placeholder h.nodup member]

/-- The map of a well-numbered binder drops no binding. -/
theorem WellNumbered.toMap_size {binder : Binder} (h : binder.WellNumbered)
    : binder.toMap.size = binder.size := by
  have distinct
      : (binder.bindings.map fun binding => (binding.placeholder, binding.value)).Pairwise
          (fun left right => ¬ compare left.1 right.1 = .eq) := by
    have nodup := List.pairwise_map.mp h.nodup
    refine List.pairwise_map.mpr (nodup.imp ?_)
    intro left right differs same
    exact differs (Std.LawfulEqCmp.eq_of_compare same)
  rw [toMap, Std.TreeMap.size_ofList distinct, List.length_map, size]

end SqlCompiler.Binder
