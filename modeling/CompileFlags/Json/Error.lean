import CompileFlags.Text.Basic
import CompileFlags.Text.Digits

/-!
# What is wrong with a JSON text

A complaint, and the place it is about. Places are counted in code points; lines end at line feeds. A
text that is well formed may still go beyond a limit: its numbers may be too long, and its brackets may
be nested too deeply. And not every value can be written.
-/

namespace CompileFlags.Json

/-- What a reader expected, or could not accept. -/
inductive Complaint where
  | byteOrderMark
  | value
  | propertyName
  | colon
  | comma
  | control
  | unterminated
  | escape
  | unicodeEscape
  | extraData
deriving DecidableEq, Repr

/-- The words of a complaint. -/
def Complaint.text : Complaint → String
  | .byteOrderMark => "Unexpected UTF-8 BOM (decode using utf-8-sig)"
  | .value => "Expecting value"
  | .propertyName => "Expecting property name enclosed in double quotes"
  | .colon => "Expecting ':' delimiter"
  | .comma => "Expecting ',' delimiter"
  | .control => "Invalid control character at"
  | .unterminated => "Unterminated string starting at"
  | .escape => "Invalid \\escape"
  | .unicodeEscape => "Invalid \\uXXXX escape"
  | .extraData => "Extra data"

/-- The first complaint about a text: the number of code points before it, its line, and its column
on that line; lines and columns count from one. -/
structure SyntaxFault where
  complaint : Complaint
  position : Nat
  line : Nat
  column : Nat
deriving DecidableEq, Repr

/-- A complaint with its place. -/
def SyntaxFault.message (fault : SyntaxFault) : String :=
  fault.complaint.text ++ ": line " ++ toString fault.line ++ " column " ++ toString fault.column ++
    " (char " ++ toString fault.position ++ ")"

/-- The complaint about a position of a text. -/
def SyntaxFault.at (text : Text) (complaint : Complaint) (position : Nat) : SyntaxFault :=
  let before := text.take position
  { complaint, position
    line := before.count (.char '\n') + 1
    column := (before.reverse.takeWhile (· ≠ CodePoint.char '\n')).length + 1 }

/-- What brackets enclose. -/
inductive Bracket where
  | array
  | object
deriving DecidableEq, Repr

/-- The name of what brackets enclose. -/
def Bracket.name : Bracket → String
  | .array => "array"
  | .object => "object"

/-- Why a text has no value. What goes beyond a limit is no complaint about the syntax. -/
inductive Error where
  | malformed (fault : SyntaxFault)
  | tooManyDigits (count : Nat)
  | tooDeep (bracket : Bracket)
deriving DecidableEq, Repr

/-- Why a value cannot be written. -/
inductive RenderFault where
  /-- A whole number has more digits than are written. -/
  | tooManyDigits
  /-- An object of this kind is no JSON value. -/
  | notSerializable (kind : String)
  /-- An object of this kind is no name of a member. -/
  | notName (kind : String)
  /-- Lists and maps are nested too deeply. -/
  | tooDeep
deriving DecidableEq, Repr

/-- The words for a value that cannot be written. -/
def RenderFault.message : RenderFault → String
  | .tooManyDigits => Text.tooManyDigitsToWrite
  | .notSerializable kind => "Object of type " ++ kind ++ " is not JSON serializable"
  | .notName kind => "keys must be str, int, float, bool or None, not " ++ kind
  | .tooDeep => "maximum recursion depth exceeded"

end CompileFlags.Json
