import CompileFlags.Decimal.Layout
import CompileFlags.Text.Quoted
import CompileFlags.Value.Basic

/-!
# Values in messages

A value on one line: lists in brackets, maps in braces, texts as quoted literals.
-/

namespace CompileFlags

/-- How a message writes a floating-point number. -/
def floatLiteral : Decimal.Layout where
  nan := "nan"
  infinity := "inf"

/-- A scalar in a message. -/
def Scalar.literal : Scalar → String
  | .null => "None"
  | .bool b => if b then "True" else "False"
  | .int n => toString n
  | .float x => floatLiteral.write x
  | .text t => Text.quoted t
  | .foreign o => o.literal

mutual

/-- A value in a message. -/
def Value.literal : Value → String
  | .scalar s => s.literal
  | .list items => "[" ++ ", ".intercalate (itemLiterals items) ++ "]"
  | .map entries => "\x7b" ++ ", ".intercalate (entryLiterals entries) ++ "\x7d"

/-- The items of a list in a message. -/
def itemLiterals : List Value → List String
  | [] => []
  | v :: rest => v.literal :: itemLiterals rest

/-- The entries of a map in a message. -/
def entryLiterals : List (Scalar × Value) → List String
  | [] => []
  | (k, v) :: rest => (k.literal ++ ": " ++ v.literal) :: entryLiterals rest

end

end CompileFlags
