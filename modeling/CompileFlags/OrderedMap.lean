/-!
# Ordered maps

A map is the list of its entries in the order in which their keys first came. Writing to a key that
is present keeps its place and its spelling; a new key goes to the end.
-/

namespace CompileFlags.OrderedMap

variable {κ ν : Type} [BEq κ]

/-- The value of a key. -/
def get? (key : κ) : List (κ × ν) → Option ν
  | [] => none
  | entry :: rest => if entry.1 == key then some entry.2 else get? key rest

/-- Whether a key is present. -/
def contains (key : κ) (entries : List (κ × ν)) : Bool := entries.any (·.1 == key)

/-- Writes the value of a key. -/
def put (key : κ) (value : ν) : List (κ × ν) → List (κ × ν)
  | [] => [(key, value)]
  | entry :: rest =>
    if entry.1 == key then (entry.1, value) :: rest else entry :: put key value rest

/-- Takes a key out. -/
def erase (key : κ) (entries : List (κ × ν)) : List (κ × ν) := entries.filter (!·.1 == key)

/-- Writes all entries of a list in turn. -/
def putAll (entries : List (κ × ν)) (map : List (κ × ν)) : List (κ × ν) :=
  entries.foldl (fun map entry => put entry.1 entry.2 map) map

end CompileFlags.OrderedMap
