import CompileFlags.Expression.Reader
import CompileFlags.Text.Blank
import CompileFlags.Text.Quoted
import CompileFlags.Text.Utf8
import CompileFlags.Text.WordCharacter

/-!
# Handlers

A tag whose name starts with `@` may name a handler after its equals sign, with arguments in
parentheses. The arguments have to be literals. What does not have the form of a handler with its
arguments is a literal as a whole.
-/

namespace CompileFlags.Markup

/-- Why the arguments of a handler cannot be used. -/
inductive ArgumentFault where
  /-- They are not well formed. -/
  | malformed (arguments : Text) (fault : Expression.Fault)
  /-- They have no value. -/
  | worthless (fault : Expression.ValueFault)
  /-- They hold surrogates. -/
  | unencodable (fault : Text.EncodingFault)
deriving DecidableEq, Repr

/-- The arguments of a handler, with their parentheses. -/
def arguments (parameters : Text) : Text :=
  let t := Text.trim parameters
  let rest := t.dropWhile (·.isIn fun c => Text.isWordCharacter c || c = '.')
  if rest = [] then "()"
  else if rest.head? = some '(' && rest.getLast? = some ')' && !rest.contains '\n' then rest
  else t

/-- What is wrong with what follows an equals sign in the tag of a handler. -/
def argumentFault? (parameters : Text) : Option ArgumentFault :=
  if parameters = [] then none
  else
    let arguments := arguments parameters
    match Text.firstEncodingFault (fun _ => false) 0 arguments with
    | some fault => some (.unencodable fault)
    | none =>
      match Expression.read (Text.unifyNewlines arguments) with
      | .error fault => some (.malformed arguments fault)
      | .ok e =>
        match e.value with
        | .error fault => some (.worthless fault)
        | .ok _ => none

/-- The words about parameters that cannot be used. -/
def ArgumentFault.message (parameters : Text) : ArgumentFault → Text
  | .malformed arguments fault =>
    "error parsing " ++ Text.quoted arguments ++ " in " ++ Text.quoted parameters ++ "; " ++
      fault.message
  | .worthless fault => "error parsing " ++ Text.quoted parameters ++ "; " ++ fault.message
  | .unencodable fault => "error parsing " ++ Text.quoted parameters ++ "; " ++ fault.message

end CompileFlags.Markup
