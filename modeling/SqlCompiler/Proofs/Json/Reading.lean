import SqlCompiler.Document.Reader
import SqlCompiler.Proofs.Decimal.Rounding
import SqlCompiler.Proofs.OrderedMap

/-! What numbers are read from JSON: integers of sixty-four bits, with a sign or without one, and
finite numbers. A numeral out of this range is not read at all.
-/

namespace SqlCompiler

namespace Json

open Double (IsMagnitude)

/-- A number that a numeral can be read as. -/
def Number.IsRead : Number → Prop
  | integer n => -2 ^ 63 ≤ n ∧ n < 2 ^ 64
  | float x => x.IsFinite

namespace Numeral

variable {numeral : Numeral}

/-- Whatever is rounded on the way, the last rounding yields a magnitude. -/
theorem isMagnitude_scaleUp? {value scaled : Nat × Nat} {power : Nat}
    (ok : scaleUp? value power = some scaled)
    : IsMagnitude scaled := by
  obtain ⟨_, -, ok⟩ := Option.bind_eq_some_iff.mp ok
  obtain ⟨_, -, ok⟩ := Option.bind_eq_some_iff.mp ok
  exact Double.isMagnitude_of_rounded? ok

theorem isMagnitude_scaleDown? {value scaled : Nat × Nat} {power : Nat}
    (ok : scaleDown? value power = some scaled)
    : IsMagnitude scaled := by
  obtain ⟨_, -, ok⟩ := Option.bind_eq_some_iff.mp ok
  obtain ⟨_, -, ok⟩ := Option.bind_eq_some_iff.mp ok
  exact Double.isMagnitude_of_rounded? ok

theorem isMagnitude_scale? {significand : Nat} {power : Int} {scaled : Nat × Nat}
    (ok : scale? significand power = some scaled)
    : IsMagnitude scaled := by
  have zero : IsMagnitude (0, 1) := ⟨0, 0, by decide, by decide, by decide, rfl⟩
  rw [scale?] at ok
  split at ok
  case isTrue => exact Option.some.inj ok ▸ zero
  split at ok
  case isTrue =>
    split at ok
    · exact isMagnitude_scaleUp? ok
    · cases ok
  split at ok
  case isTrue => exact isMagnitude_scaleDown? ok
  split at ok
  case isTrue =>
    obtain ⟨_, -, ok⟩ := Option.bind_eq_some_iff.mp ok
    exact isMagnitude_scaleDown? ok
  case isFalse => exact Option.some.inj ok ▸ zero

theorem isFinite_float? {x : Double} (ok : numeral.float? = some x) : x.IsFinite := by
  obtain ⟨magnitude, scaled, same⟩ := Option.bind_eq_some_iff.mp ok
  obtain rfl := Option.some.inj same
  exact Double.isFinite_ofRatio _ (isMagnitude_scale? scaled)

theorem range_integer? {n : Int} (ok : numeral.integer? = some n)
    : -2 ^ 63 ≤ n ∧ n < 2 ^ 64 := by
  have powers : Decimal.pow2 63 = 2 ^ 63 ∧ Decimal.pow2 64 = 2 ^ 64 := ⟨rfl, rfl⟩
  simp only [integer?, powers, Option.ite_none_left_eq_some] at ok
  obtain ⟨-, ok⟩ := ok
  cases negative : numeral.negative with
  | true =>
      simp only [negative, reduceIte, Option.ite_none_right_eq_some, Bool.and_eq_true,
        decide_eq_true_eq, Option.some.injEq] at ok
      omega
  | false =>
      simp only [negative, Bool.false_eq_true, reduceIte, Option.ite_none_right_eq_some,
        Option.some.injEq] at ok
      omega

theorem isRead_number? {n : Number} (ok : numeral.number? = some n) : n.IsRead := by
  rw [number?] at ok
  split at ok
  case h_1 isInteger =>
    obtain rfl := Option.some.inj ok
    exact range_integer? isInteger
  case h_2 =>
    obtain ⟨x, isFloat, rfl⟩ := Option.map_eq_some_iff.mp ok
    exact isFinite_float? isFloat

end Numeral

-----------------------------------------------------------------------------------------
-- Scalars
-----------------------------------------------------------------------------------------

/-- The value itself, if it is a scalar. -/
def scalar? : Json → Option Json
  | array _ => none
  | object _ => none
  | json => some json

/-- The scalar, or the scalars in a list. -/
def scalars : Json → List Json
  | array items => items.filterMap scalar?
  | json => json.scalar?.toList

/-- A number in it is one that a numeral can be read as. -/
def IsRead : Json → Prop
  | number n => n.IsRead
  | _ => True

theorem scalar?_eq_some {json scalar : Json} (found : json.scalar? = some scalar)
    : scalar = json := by
  cases json with
  | array items => cases found
  | object members => cases found
  | _ => exact (Option.some.inj found).symm

theorem mem_scalars_of_scalar? {json scalar : Json} (found : json.scalar? = some scalar)
    : scalar ∈ json.scalars := by
  cases json with
  | array items => cases found
  | object members => cases found
  | _ => exact Option.mem_toList.mpr found

/-- The members of a list that is read are all read, by induction on the list. -/
theorem exists_of_mem_mapM {α β : Type} {read : α → Option β} {as : List α} {bs : List β}
    (ok : as.mapM read = some bs) {b : β} (member : b ∈ bs)
    : ∃ a, read a = some b := by
  induction as generalizing bs with
  | nil =>
      obtain rfl := Option.some.inj ok
      cases member
  | cons a as ih =>
      rw [List.mapM_cons] at ok
      obtain ⟨first, isFirst, ok⟩ := Option.bind_eq_some_iff.mp ok
      obtain ⟨rest, isRest, same⟩ := Option.bind_eq_some_iff.mp ok
      obtain rfl := Option.some.inj same
      rcases List.mem_cons.mp member with rfl | later
      · exact ⟨a, isFirst⟩
      · exact ih isRest later

/-- The value is read from some part of a text. -/
def IsParsed (json : Json) : Prop :=
  ∃ levels tree, ofTree? levels tree = some json

theorem isParsed_null : IsParsed null := ⟨0, .null, rfl⟩

theorem IsParsed.exists_numeral {n : Number} (parsed : IsParsed (.number n))
    : ∃ numeral : Numeral, numeral.number? = some n := by
  obtain ⟨levels, tree, read⟩ := parsed
  cases tree with
  | number numeral =>
      rw [ofTree?] at read
      obtain ⟨_, isNumber, same⟩ := Option.map_eq_some_iff.mp read
      cases same
      exact ⟨numeral, isNumber⟩
  | _ => cases levels <;> simp [ofTree?, Option.bind_eq_some_iff] at read

/-- The items of a list are read one by one. -/
theorem IsParsed.item {items : List Json} (parsed : IsParsed (.array items)) {item : Json}
    (listed : item ∈ items)
    : item.IsParsed := by
  obtain ⟨levels, tree, read⟩ := parsed
  cases levels with
  | zero => cases tree <;> simp [ofTree?] at read
  | succ levels =>
      cases tree with
      | array trees =>
          rw [ofTree?] at read
          obtain ⟨_, isItems, same⟩ := Option.map_eq_some_iff.mp read
          cases same
          exact ⟨levels, exists_of_mem_mapM isItems listed⟩
      | _ => simp [ofTree?, Option.bind_eq_some_iff] at read

/-- The members of an object are read one by one, before their keys are told apart. -/
theorem isParsed_of_mapM {levels : Nat} {members : List (Option String × Tree)}
    {pairs : List (String × Json)}
    (read
      : members.mapM (fun (key, tree) => do return (← key, ← ofTree? levels tree)) = some pairs)
    {pair : String × Json} (member : pair ∈ pairs)
    : pair.2.IsParsed := by
  obtain ⟨⟨key, tree⟩, isPair⟩ := exists_of_mem_mapM read member
  obtain ⟨_, -, isPair⟩ := Option.bind_eq_some_iff.mp isPair
  obtain ⟨_, isValue, same⟩ := Option.bind_eq_some_iff.mp isPair
  obtain rfl := Option.some.inj same
  exact ⟨levels, tree, isValue⟩

theorem IsParsed.member {members : List (String × Json)} (parsed : IsParsed (.object members))
    {pair : String × Json} (member : pair ∈ members)
    : pair.2.IsParsed := by
  obtain ⟨levels, tree, read⟩ := parsed
  cases levels with
  | zero => cases tree <;> simp [ofTree?] at read
  | succ levels =>
      cases tree with
      | object trees =>
          rw [ofTree?] at read
          obtain ⟨pairs, isPairs, same⟩ := Option.bind_eq_some_iff.mp read
          cases same
          exact isParsed_of_mapM isPairs (OrderedMap.mem_ofList member)
      | _ => simp [ofTree?] at read

theorem isParsed_of_members? {levels : Nat} {tree : Tree} {members : List (String × Json)}
    (read : members? levels tree = some members) {pair : String × Json} (member : pair ∈ members)
    : pair.2.IsParsed := by
  cases levels with
  | zero => cases tree <;> cases read
  | succ levels =>
      cases tree with
      | object trees => exact isParsed_of_mapM read member
      | _ => cases read

/-- A member that a shape looks for is one of the members. -/
theorem exists_of_member? {members : List (String × Json)} {key : String} {json : Json}
    (found : member? members key = some (some json))
    : ∃ pair ∈ members, pair.2 = json := by
  rw [member?] at found
  split at found
  case h_1 => cases found
  case h_2 pair alone =>
    obtain rfl := Option.some.inj (Option.some.inj found)
    refine ⟨pair, ?_, rfl⟩
    exact List.mem_of_mem_filter (alone ▸ List.mem_singleton_self pair)
  case h_3 => cases found

/-- Every scalar is as it is read, also in a list. -/
theorem IsParsed.isRead_scalars {json scalar : Json} (parsed : json.IsParsed)
    (member : scalar ∈ json.scalars)
    : scalar.IsRead := by
  have alone (parsed : scalar.IsParsed) : scalar.IsRead := by
    cases scalar with
    | number n =>
        obtain ⟨numeral, isNumber⟩ := parsed.exists_numeral
        exact Numeral.isRead_number? isNumber
    | _ => trivial
  cases json with
  | array items =>
      obtain ⟨item, listed, isScalar⟩ := List.mem_filterMap.mp member
      obtain rfl := scalar?_eq_some isScalar
      exact alone (parsed.item listed)
  | object members => cases member
  | null | bool _ | number _ | string _ =>
      obtain rfl := List.mem_singleton.mp member
      exact alone parsed

end Json

-----------------------------------------------------------------------------------------
-- Documents
-----------------------------------------------------------------------------------------

theorem Document.isParsed_of_valueMap? {tree : Json.Tree} {members : List (String × Json)}
    (read : valueMap? tree = some members) {pair : String × Json} (member : pair ∈ members)
    : pair.2.IsParsed := by
  obtain ⟨json, isJson, isObject⟩ := Option.bind_eq_some_iff.mp read
  cases json with
  | object found =>
      obtain rfl := Option.some.inj isObject
      exact Json.IsParsed.member ⟨_, _, isJson⟩ member
  | _ => cases isObject

/-- The operand of a condition is read; a missing one is null. -/
theorem CriterionSpec.isParsed_operand {levels : Nat} {tree : Json.Tree} {column operator : String}
    {operand : Json} {alternative : Bool}
    (read : ofTree? levels tree = some (predicate column operator operand alternative))
    : operand.IsParsed := by
  obtain ⟨members, isMembers, shaped⟩ := Option.bind_eq_some_iff.mp read
  cases shape : predicate? members with
  | none =>
      rw [shape] at shaped
      obtain ⟨sql, -, impossible⟩ := Option.map_eq_some_iff.mp shaped
      cases impossible
  | some spec =>
      rw [shape] at shaped
      obtain rfl := Option.some.inj shaped
      -- the column and the operator come before the operand
      iterate 2 obtain ⟨_, -, shape⟩ := Option.bind_eq_some_iff.mp shape
      obtain ⟨value, isValue, shape⟩ := Option.bind_eq_some_iff.mp shape
      obtain ⟨_, -, same⟩ := Option.bind_eq_some_iff.mp shape
      have isOperand : operand = value.getD .null := by
        split at same <;> cases same <;> rfl
      subst isOperand
      cases value with
      | none => exact Json.isParsed_null
      | some json =>
          obtain ⟨pair, listed, rfl⟩ := Json.exists_of_member? isValue
          exact Json.isParsed_of_members? isMembers listed

end SqlCompiler
