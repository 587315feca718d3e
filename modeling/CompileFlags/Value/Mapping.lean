import CompileFlags.Value.Basic

/-!
# Values as maps

A setting that should be a map may hold something else. What counts as false is the empty map, and a
list is a map if each of its items is a pair of a key and a value.
-/

namespace CompileFlags

/-- Why a value is no map. -/
inductive MappingFault where
  /-- A value of this kind has no items. -/
  | notIterable (kind : String)
  /-- The item at this index has no parts. -/
  | notSequence (index : Nat)
  /-- The item at this index has this many parts, which should be two. -/
  | wrongLength (index length : Nat)
  /-- A value of this kind is no key. -/
  | unhashable (kind : String)
deriving DecidableEq, Repr

namespace Value

/-- The parts of an item: the code points of a text, the items of a list, the keys of a map. -/
def parts? : Value → Option (List Value)
  | .text t => some (t.map fun c => .text [c])
  | .list items => some items
  | .map entries => some (entries.map fun e => .scalar e.1)
  | _ => none

/-- The scalar that a value is, as a key has to be. -/
def key : Value → Except MappingFault Scalar
  | .scalar s => .ok s
  | v => .error (.unhashable v.kind)

/-- Adds the items of a list to a map, each as a pair. -/
def putPairs (index : Nat) (map : List (Scalar × Value)) :
    List Value → Except MappingFault (List (Scalar × Value))
  | [] => .ok map
  | item :: rest =>
    match item.parts? with
    | none => .error (.notSequence index)
    | some [k, v] =>
      match k.key with
      | .error fault => .error fault
      | .ok k => putPairs (index + 1) (OrderedMap.put k v map) rest
    | some parts => .error (.wrongLength index parts.length)

/-- The entries of a value taken as a map. -/
def toMapping (v : Value) : Except MappingFault (List (Scalar × Value)) :=
  if v.isTrue then
    match v with
    | .map entries => .ok entries
    | v =>
      match v.parts? with
      | none => .error (.notIterable v.kind)
      | some items => putPairs 0 [] items
  else .ok []

end Value

end CompileFlags
