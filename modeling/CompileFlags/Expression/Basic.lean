import CompileFlags.Text.Basic

/-!
# Expressions and literals

An expression is a literal if it is made of numbers, texts, constants and displays of them; such an
expression has a value. The elements of a set and the keys of a map have to be fixed values, which
sets and maps are not.
-/

namespace CompileFlags

/-- An expression, as far as it matters whether it is a literal. -/
inductive Expression where
  /-- A number, which may be imaginary. -/
  | number (imaginary : Bool)
  /-- A quoted text. -/
  | quoted
  /-- One of the named constants. -/
  | constant (word : String)
  /-- Three dots. -/
  | dots
  | name (word : Text)
  /-- An expression after a sign. -/
  | signed (operand : Expression)
  /-- Two expressions with a sign between them. -/
  | sum (left right : Expression)
  | tuple (items : List Expression)
  | set (items : List Expression)
  /-- Keys with their values, where an unpacked map has no key. -/
  | map (entries : List (Option Expression × Expression))
  /-- A function with its arguments, which may be missing. -/
  | call (function : Expression) (isEmpty : Bool)
  /-- Any other expression, by the name of its kind. -/
  | other (described : String)
deriving Repr

namespace Expression

/-- What the kind of an expression is called. -/
def kind : Expression → String
  | number _ | quoted => "literal"
  | constant word => word
  | dots => "ellipsis"
  | name _ => "name"
  | signed _ | sum _ _ => "expression"
  | tuple _ => "tuple"
  | set _ => "set display"
  | map _ => "dict literal"
  | call _ _ => "function call"
  | other described => described

/-- Why an expression has no value. -/
inductive ValueFault where
  /-- A part is no literal. -/
  | notLiteral
  /-- An unpacked map is no literal. -/
  | unpacked
  /-- An element or a key is no fixed value, but of this kind. -/
  | notFixed (kind : String)
deriving DecidableEq, Repr

/-- The words for a fault. -/
def ValueFault.message : ValueFault → String
  | notLiteral => "malformed node or string"
  | unpacked => "malformed node or string: None"
  | notFixed kind => "unhashable type: '" ++ kind ++ "'"

/-- Whether an expression is a real number, with a sign or without. -/
def isReal : Expression → Bool
  | number imaginary | signed (number imaginary) => !imaginary
  | _ => false

mutual

/-- Finds the value of an expression, and tells of what kind it is if it is not fixed. -/
def value : Expression → Except ValueFault (Option String)
  | number _ | quoted | constant _ | dots | signed (number _) => .ok none
  | sum left (number true) => if left.isReal then .ok none else .error .notLiteral
  | tuple items => itemValues items
  | set items => elementValues items
  | map entries => entryValues entries
  | call (name function) true => if function = "set" then .ok (some "set") else .error .notLiteral
  | _ => .error .notLiteral

/-- The values of the items of a tuple, which is as fixed as they are. -/
def itemValues : List Expression → Except ValueFault (Option String)
  | [] => .ok none
  | item :: rest =>
    match item.value with
    | .error fault => .error fault
    | .ok kind => (itemValues rest).map fun later => kind <|> later

/-- The values of the elements of a set. -/
def elementValues : List Expression → Except ValueFault (Option String)
  | [] => .ok (some "set")
  | item :: rest =>
    match item.value with
    | .error fault => .error fault
    | .ok (some kind) => .error (.notFixed kind)
    | .ok none => elementValues rest

/-- The values of the keys and the values of a map. -/
def entryValues : List (Option Expression × Expression) → Except ValueFault (Option String)
  | [] => .ok (some "dict")
  | (none, _) :: _ => .error .unpacked
  | (some key, value) :: rest =>
    match key.value, value.value with
    | .error fault, _ => .error fault
    | _, .error fault => .error fault
    | .ok (some kind), .ok _ => .error (.notFixed kind)
    | .ok none, .ok _ => entryValues rest

end

end Expression

end CompileFlags
