/-!
# Maps from strings to strings

Finite maps kept as lists of entries in ascending order of their keys.  The order of strings is
the order of their code points, which is also the order of their bytes.  In the same way a set of
names is an ascending list without repetitions.
-/

namespace ChartOperator

/-- The entries of a map, in ascending order of their keys. -/
abbrev StringMap := List (String × String)

namespace StringMap

/-- Sets the value of a key. -/
def insert (key value : String) : StringMap → StringMap
  | [] => [(key, value)]
  | (k, v) :: rest =>
      if key < k then (key, value) :: (k, v) :: rest
      else if key = k then (key, value) :: rest
      else (k, v) :: insert key value rest

/-- The map of a list of entries; of two entries with one key the later counts. -/
def ofList (entries : List (String × String)) : StringMap :=
  entries.foldl (fun map entry => map.insert entry.1 entry.2) []

/-- The map with every value changed. -/
def mapValues (f : String → String) (map : StringMap) : StringMap :=
  map.map fun entry => (entry.1, f entry.2)

end StringMap

/-- Adds a name to a set of names in ascending order. -/
def insertName (name : String) : List String → List String
  | [] => [name]
  | n :: rest =>
      if name < n then name :: n :: rest
      else if name = n then n :: rest
      else n :: insertName name rest

/-- The set of some names, in ascending order. -/
def nameSet (names : List String) : List String :=
  names.foldr insertName []

end ChartOperator
