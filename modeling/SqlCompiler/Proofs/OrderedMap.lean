import Mathlib.Data.List.Basic
import Mathlib.Data.List.Induction
import SqlCompiler.OrderedMap

/-! Ordered maps hold every key once. Setting values does not look at them, and pairs with
different keys are a map already. A map in which pairs have been set in turn has their keys in the
order in which they first come up, each with the value it has last.
-/

namespace SqlCompiler.OrderedMap

variable {α β : Type} {key : String} {map pairs : List (String × α)}

-----------------------------------------------------------------------------------------
-- Values are not looked at
-----------------------------------------------------------------------------------------

theorem map_set (f : α → β) (key : String) (value : α) (map : List (String × α))
    : (set key value map).map (Prod.map id f) = set key (f value) (map.map (Prod.map id f)) := by
  induction map with
  | nil => rfl
  | cons pair rest ih =>
      obtain ⟨k, v⟩ := pair
      by_cases same : k = key
      · simp [set, same]
      · simp [set, same, ih]

theorem map_setAll (f : α → β) (pairs map : List (String × α))
    : (setAll pairs map).map (Prod.map id f)
      = setAll (pairs.map (Prod.map id f)) (map.map (Prod.map id f)) := by
  simp only [setAll, List.foldl_map]
  induction pairs generalizing map with
  | nil => rfl
  | cons pair rest ih => simpa [map_set] using ih (set pair.1 pair.2 map)

theorem map_ofList (f : α → β) (pairs : List (String × α))
    : (ofList pairs).map (Prod.map id f) = ofList (pairs.map (Prod.map id f)) :=
  map_setAll f pairs []

-----------------------------------------------------------------------------------------
-- Keys
-----------------------------------------------------------------------------------------

/-- Setting a key keeps it in its place, or adds it behind the others. -/
theorem keys_set (key : String) (value : α) (map : List (String × α))
    : keys (set key value map) = if key ∈ keys map then keys map else keys map ++ [key] := by
  unfold keys
  induction map with
  | nil => rfl
  | cons pair rest ih =>
      obtain ⟨k, v⟩ := pair
      by_cases same : k = key
      · simp [set, same]
      · have differs : ¬ key = k := fun equal => same equal.symm
        simp only [set, if_neg same, List.map_cons, ih, List.mem_cons, differs, false_or]
        split <;> rfl

theorem nodup_keys_set (value : α) (nodup : (keys map).Nodup)
    : (keys (set key value map)).Nodup := by
  rw [keys_set]
  split
  case isTrue => exact nodup
  case isFalse new =>
    refine List.nodup_append.mpr ⟨nodup, by simp, ?_⟩
    intro other listed last isLast same
    exact new (List.mem_singleton.mp isLast ▸ same ▸ listed)

theorem nodup_keys_setAll (pairs : List (String × α)) (nodup : (keys map).Nodup)
    : (keys (setAll pairs map)).Nodup := by
  rw [setAll]
  induction pairs generalizing map with
  | nil => exact nodup
  | cons pair rest ih => exact ih (nodup_keys_set pair.2 nodup)

/-- No key comes up twice in a map. -/
theorem nodup_keys_ofList (pairs : List (String × α)) : (keys (ofList pairs)).Nodup :=
  nodup_keys_setAll pairs List.nodup_nil

theorem set_of_notMem (new : key ∉ keys map) (value : α)
    : set key value map = map ++ [(key, value)] := by
  induction map with
  | nil => rfl
  | cons pair rest ih =>
      have differs : pair.1 ≠ key := (List.ne_of_not_mem_cons new).symm
      simp [set, differs, ih (List.not_mem_of_not_mem_cons new)]

/-- Pairs whose keys are new are added one after the other, by induction on the pairs. -/
theorem setAll_of_nodup (nodup : (keys (map ++ pairs)).Nodup)
    : setAll pairs map = map ++ pairs := by
  rw [setAll]
  induction pairs generalizing map with
  | nil => exact (List.append_nil map).symm
  | cons pair rest ih =>
      have split : (keys map ++ pair.1 :: keys rest).Nodup := by simpa [keys] using nodup
      have new : pair.1 ∉ keys map := by
        intro listed
        exact (List.nodup_append.mp split).2.2 _ listed _ List.mem_cons_self rfl
      rw [List.foldl_cons, set_of_notMem new, ih, List.append_assoc, List.singleton_append]
      simpa using nodup

/-- Pairs with different keys are the map in which they are set in turn. -/
theorem ofList_of_nodup (nodup : (keys pairs).Nodup) : ofList pairs = pairs :=
  @setAll_of_nodup α [] pairs nodup

-----------------------------------------------------------------------------------------
-- Members
-----------------------------------------------------------------------------------------

theorem mem_set {value : α} {pair : String × α} (member : pair ∈ set key value map)
    : pair = (key, value) ∨ pair ∈ map := by
  induction map with
  | nil => exact Or.inl (List.mem_singleton.mp member)
  | cons first rest ih =>
      rw [set] at member
      split at member
      case isTrue same =>
        exact same ▸ (List.mem_cons.mp member).imp_right (List.mem_cons_of_mem first)
      case isFalse =>
        rcases List.mem_cons.mp member with rfl | later
        · exact Or.inr List.mem_cons_self
        · exact (ih later).imp_right (List.mem_cons_of_mem first)

/-- A map that pairs are set in has no other members, by induction on the pairs. -/
theorem mem_setAll {pair : String × α} (member : pair ∈ setAll pairs map)
    : pair ∈ pairs ∨ pair ∈ map := by
  rw [setAll] at member
  induction pairs generalizing map with
  | nil => exact Or.inr member
  | cons first rest ih =>
      rcases ih member with later | early
      · exact Or.inl (List.mem_cons_of_mem first later)
      · refine (mem_set early).imp_left ?_
        rintro rfl
        exact List.mem_cons_self

theorem mem_ofList {pair : String × α} (member : pair ∈ ofList pairs) : pair ∈ pairs :=
  (mem_setAll member).elim id fun none => absurd none List.not_mem_nil

-----------------------------------------------------------------------------------------
-- First places and last values
-----------------------------------------------------------------------------------------

theorem ofList_append_singleton (pairs : List (String × α)) (pair : String × α)
    : ofList (pairs ++ [pair]) = set pair.1 pair.2 (ofList pairs) := by
  simp [ofList, setAll]

theorem mem_keys_set {other : String} (value : α)
    : other ∈ keys (set key value map) ↔ other = key ∨ other ∈ keys map := by
  rw [keys_set]
  split
  case isTrue listed => exact ⟨.inr, fun mem => mem.elim (fun same => same ▸ listed) id⟩
  case isFalse => simp [or_comm]

/-- A key that is set has its new value only, and the others keep theirs, by induction on the map.
-/
theorem mem_set_iff {value : α} {pair : String × α} (nodup : (keys map).Nodup)
    : pair ∈ set key value map ↔ pair = (key, value) ∨ pair.1 ≠ key ∧ pair ∈ map := by
  induction map with
  | nil => simp [set]
  | cons first rest ih =>
      obtain ⟨new, nodup⟩ := List.nodup_cons.mp nodup
      have apart (listed : pair ∈ rest) : pair.1 ≠ first.1 := fun same =>
        new (List.mem_map.mpr ⟨pair, listed, same⟩)
      rw [set]
      split
      case isTrue same =>
        subst same
        simp only [List.mem_cons]
        constructor
        · rintro (rfl | listed)
          · exact .inl rfl
          · exact .inr ⟨apart listed, .inr listed⟩
        · rintro (isNew | ⟨differs, isFirst | listed⟩)
          · exact .inl isNew
          · exact absurd (congrArg Prod.fst isFirst) differs
          · exact .inr listed
      case isFalse differs =>
        simp only [List.mem_cons, ih nodup]
        constructor
        · rintro (rfl | isNew | ⟨apart, listed⟩)
          · exact .inr ⟨differs, .inl rfl⟩
          · exact .inl isNew
          · exact .inr ⟨apart, .inr listed⟩
        · rintro (isNew | ⟨apart, isFirst | listed⟩)
          · exact .inr (.inl isNew)
          · exact .inl isFirst
          · exact .inr (.inr ⟨apart, listed⟩)

/-- The map holds what is left of pairs that are set in turn: every key once, in the order in which
the keys first come up, with the value it has last.
-/
structure Retains (pairs map : List (String × α)) : Prop where
  nodup : (keys map).Nodup
  mem_keys : ∀ key, key ∈ keys map ↔ key ∈ keys pairs
  ordered : (keys map).Pairwise fun a b => (keys pairs).idxOf a < (keys pairs).idxOf b
  latest
    : ∀ key value,
        (key, value) ∈ map
        ↔ ∃ before after, pairs = before ++ (key, value) :: after ∧ key ∉ keys after

/-- One pair more is the last one of its key, and it comes up first if its key is new. -/
theorem Retains.set (retains : Retains pairs map) (key : String) (value : α)
    : Retains (pairs ++ [(key, value)]) (OrderedMap.set key value map) where
  nodup := nodup_keys_set value retains.nodup
  mem_keys other := by
    rw [mem_keys_set, retains.mem_keys]
    simp [keys, or_comm]
  ordered := by
    have longer : keys (pairs ++ [(key, value)]) = keys pairs ++ [key] := by simp [keys]
    have early {other : String} (listed : other ∈ keys map)
        : (keys pairs ++ [key]).idxOf other = (keys pairs).idxOf other :=
      List.idxOf_append_of_mem ((retains.mem_keys other).mp listed)
    have kept
        : (keys map).Pairwise fun a b =>
            (keys pairs ++ [key]).idxOf a < (keys pairs ++ [key]).idxOf b :=
      retains.ordered.imp_of_mem fun first second before => by
        rwa [early first, early second]
    rw [longer, keys_set]
    split
    case isTrue => exact kept
    case isFalse new =>
      refine List.pairwise_append.mpr ⟨kept, List.pairwise_singleton _ _, ?_⟩
      intro other listed last isLast
      obtain rfl := List.mem_singleton.mp isLast
      have isNew : last ∉ keys pairs := fun listed => new ((retains.mem_keys last).mpr listed)
      rw [early listed, List.idxOf_append_of_notMem isNew]
      exact Nat.lt_add_right _ (List.idxOf_lt_length_of_mem ((retains.mem_keys other).mp listed))
  latest other found := by
    rw [mem_set_iff retains.nodup, retains.latest]
    constructor
    · rintro (isNew | ⟨differs, before, after, rfl, unset⟩)
      · exact ⟨pairs, [], by rw [isNew], List.not_mem_nil⟩
      · exact ⟨before, after ++ [(key, value)], by simp, by simpa [keys, differs] using unset⟩
    · rintro ⟨before, after, parts, unset⟩
      rcases List.eq_nil_or_concat after with rfl | ⟨after, last, rfl⟩
      · exact .inl (List.cons.inj (List.append_inj' parts rfl).2).1.symm
      · have parts : pairs ++ [(key, value)] = (before ++ (other, found) :: after) ++ [last] := by
          simpa using parts
        obtain ⟨rfl, isLast⟩ := List.append_inj' parts rfl
        obtain rfl := List.singleton_inj.mp isLast
        have differs : other ≠ key ∧ other ∉ keys after := by simpa [keys, and_comm] using unset
        exact .inr ⟨differs.1, before, after, rfl, differs.2⟩

/-- Setting pairs in turn retains their keys and last values, by induction on the pairs from the
end.
-/
theorem retains_ofList (pairs : List (String × α)) : Retains pairs (ofList pairs) := by
  induction pairs using List.reverseRecOn with
  | nil =>
      exact ⟨List.nodup_nil, fun _ => Iff.rfl, List.Pairwise.nil, fun key value => by
        simp [ofList, setAll]⟩
  | append_singleton pairs pair ih =>
      rw [ofList_append_singleton]
      exact ih.set pair.1 pair.2

end SqlCompiler.OrderedMap
