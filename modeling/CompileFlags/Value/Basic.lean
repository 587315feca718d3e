import CompileFlags.Decimal.Binary
import CompileFlags.OrderedMap
import CompileFlags.Text.Basic

/-!
# Values

What a JSON document holds, and what a setting is: scalars, lists and maps. The keys of a map read
from a document are texts; a map made from a list of pairs may have any scalars as keys. A setting may
also be an object that no document can hold.
-/

namespace CompileFlags

/-- The names of the kinds of JSON values. -/
def documentKinds : List String := ["NoneType", "bool", "int", "float", "str", "list", "dict"]

/-- An object that is no JSON value, no path, and has no items: the name of its kind, whether it counts as
true, and how messages show it. -/
structure Foreign where
  kind : String
  isTrue : Bool
  literal : String
  isForeign : kind ∉ documentKinds
deriving DecidableEq

theorem object_notMem_documentKinds : "object" ∉ documentKinds := by decide

/-- A plain object, as messages show it. -/
def Foreign.object (literal : String) : Foreign :=
  ⟨"object", true, literal, object_notMem_documentKinds⟩

instance : Inhabited Foreign := ⟨.object ""⟩

/-- A value without parts. -/
inductive Scalar where
  | null
  | bool (b : Bool)
  | int (n : Int)
  | float (x : Float)
  | text (t : Text)
  | foreign (o : Foreign)
deriving Inhabited

/-- The number that a scalar stands for among whole numbers. -/
def Scalar.toInt? : Scalar → Option Int
  | .bool b => some (if b then 1 else 0)
  | .int n => some n
  | .float x => Decimal.toInt? x
  | _ => none

/-- Whether two scalars are the same key. Numbers are compared by value over all kinds, truth values
counting as one and zero, and all undefined numbers are one key. -/
def Scalar.same : Scalar → Scalar → Bool
  | .null, .null => true
  | .text s, .text t => s = t
  | .float x, .float y => x == y || (x.isNaN && y.isNaN)
  | .foreign o, .foreign o' => o = o'
  | a, b => a.toInt?.isSome && a.toInt? = b.toInt?

instance : BEq Scalar := ⟨Scalar.same⟩

/-- A scalar, a list or a map. -/
inductive Value where
  | scalar (s : Scalar)
  | list (items : List Value)
  | map (entries : List (Scalar × Value))
deriving Inhabited

namespace Value

/-- The value `null`. -/
@[match_pattern] abbrev null : Value := .scalar .null

/-- A truth value. -/
@[match_pattern] abbrev bool (b : Bool) : Value := .scalar (.bool b)

/-- A whole number. -/
@[match_pattern] abbrev int (n : Int) : Value := .scalar (.int n)

/-- A floating-point number. -/
@[match_pattern] abbrev float (x : Float) : Value := .scalar (.float x)

/-- A text. -/
@[match_pattern] abbrev text (t : Text) : Value := .scalar (.text t)

/-- The name of a value's kind in messages. -/
def kind : Value → String
  | .scalar .null => "NoneType"
  | .scalar (.bool _) => "bool"
  | .scalar (.int _) => "int"
  | .scalar (.float _) => "float"
  | .scalar (.text _) => "str"
  | .scalar (.foreign o) => o.kind
  | .list _ => "list"
  | .map _ => "dict"

/-- Whether a value counts as true: all do but null, false, zero and what is empty. -/
def isTrue : Value → Bool
  | .scalar .null => false
  | .scalar (.bool b) => b
  | .scalar (.int n) => n ≠ 0
  | .scalar (.float x) => x != 0
  | .scalar (.text t) => !t.isEmpty
  | .scalar (.foreign o) => o.isTrue
  | .list items => !items.isEmpty
  | .map entries => !entries.isEmpty

/-- The text that a value is. -/
def text? : Value → Option Text
  | .scalar (.text t) => some t
  | _ => none

/-- The member of a map that has a name. -/
def field? (v : Value) (name : Text) : Option Value :=
  match v with
  | .map entries => OrderedMap.get? (.text name) entries
  | _ => none

end Value

end CompileFlags
