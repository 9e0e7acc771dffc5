/-! Maps as lists of pairs in the order in which their keys first came up. Setting a key
again keeps its place.
-/

namespace SqlCompiler.OrderedMap

variable {α : Type}

/-- Sets the value of a key: in its place if the key is there, at the end otherwise. -/
def set (key : String) (value : α) : List (String × α) → List (String × α)
  | [] => [(key, value)]
  | (k, v) :: rest =>
      if k = key then (k, value) :: rest else (k, v) :: set key value rest

/-- Sets the values of some keys, one after the other. -/
def setAll (pairs map : List (String × α)) : List (String × α) :=
  pairs.foldl (fun map pair => set pair.1 pair.2 map) map

/-- The map in which each of the pairs has been set in turn: a key stands where it first
comes up and has the value it has last.
-/
def ofList (pairs : List (String × α)) : List (String × α) :=
  setAll pairs []

/-- The keys of a map, in order. -/
def keys (map : List (String × α)) : List String :=
  map.map (·.1)

end SqlCompiler.OrderedMap
