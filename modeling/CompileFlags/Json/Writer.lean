import CompileFlags.Decimal.Layout
import CompileFlags.Json.Error
import CompileFlags.Value.Basic

/-!
# Writing JSON

Every item and member stands on a line of its own, indented by two spaces for each level; empty
lists and objects stay on one line. Text is written in ASCII, all other characters by their numbers
or those of their two surrogates. A key that is no text is written as the text of its value.

A value is written chunk by chunk. One that cannot be written is found when its turn comes, so what was
written before stays.
-/

namespace CompileFlags.Json

/-- How a JSON text writes a floating-point number. -/
def floatFormat : Decimal.Layout where
  nan := "NaN"
  infinity := "Infinity"

/-- A numeric escape. -/
def unitEscape (n : Nat) : List Char := '\\' :: 'u' :: Text.hex 4 n

/-- What stands for a character in a string. -/
def escapeChar (c : Char) : List Char :=
  if c = '"' then ['\\', '"']
  else if c = '\\' then ['\\', '\\']
  else if c = '\n' then ['\\', 'n']
  else if c = '\r' then ['\\', 'r']
  else if c = '\t' then ['\\', 't']
  else if c = '\x0c' then ['\\', 'f']
  else if c = '\x08' then ['\\', 'b']
  else if ' ' ≤ c && c ≤ '~' then [c]
  else if c.toNat < 0x10000 then unitEscape c.toNat
  else
    let n := c.toNat - 0x10000
    unitEscape (0xd800 + n / 0x400) ++ unitEscape (0xdc00 + n % 0x400)

/-- What stands for a code point in a string. -/
def escapeOne : CodePoint → List Char
  | .char c => escapeChar c
  | .surrogate n => unitEscape (CodePoint.surrogate n).number

/-- A string with its quotes. -/
def writeString (t : Text) : List Char := '"' :: t.flatMap escapeOne ++ ['"']

/-- Why a scalar cannot be written. -/
def scalarFault? : Scalar → Option RenderFault
  | .int n =>
    if Text.maxDigits < (Nat.toDigits 10 n.natAbs).length then some .tooManyDigits else none
  | .foreign o => some (.notSerializable o.kind)
  | _ => none

/-- A scalar as a value. -/
def writeScalar : Scalar → List Char
  | .null => "null".toList
  | .bool b => (if b then "true" else "false").toList
  | .int n => (toString n).toList
  | .float x => (floatFormat.write x).toList
  | .text t => writeString t
  | .foreign o => o.literal.toList

/-- Why a key cannot be written as a name. -/
def keyFault? : Scalar → Option RenderFault
  | .foreign o => some (.notName o.kind)
  | s => scalarFault? s

/-- The name that a key is written as: a text itself, and any other scalar as it is written. -/
def memberKey : Scalar → Text
  | .text t => t
  | s => (writeScalar s).map .char

/-- A new line at a level. -/
def newline (level : Nat) : List Char := '\n' :: List.replicate (2 * level) ' '

/-- A part of a document, or the fault that ends the writing. -/
abbrev Chunk := Except RenderFault (List Char)

/-- A text, unless there is a fault. -/
def Chunk.of (fault? : Option RenderFault) (text : List Char) : Chunk :=
  match fault? with
  | some fault => .error fault
  | none => .ok text

mutual

/-- The chunks of a value that stands at a level, where only so many levels can be written. -/
def chunks (levels level : Nat) : Value → List Chunk
  | .scalar s => [.of (scalarFault? s) (writeScalar s)]
  | .list items =>
    if levels ≤ level then [.error .tooDeep]
    else if items.isEmpty then [.ok ['[', ']']]
    else itemChunks levels (level + 1) ['['] items ++ [.ok (newline level), .ok [']']]
  | .map entries =>
    if levels ≤ level then [.error .tooDeep]
    else if entries.isEmpty then [.ok ['\x7b', '\x7d']]
    else
      [.ok ['\x7b'], .ok (newline (level + 1))] ++ memberChunks levels (level + 1) [] entries ++
        [.ok (newline level), .ok ['\x7d']]

/-- The chunks of the items of a list, each on its line. The first item comes after the opening bracket,
any other after a comma; both are written together with an item that is short. -/
def itemChunks (levels level : Nat) (before : List Char) : List Value → List Chunk
  | [] => []
  | v :: rest =>
    let opening := before ++ newline level
    let written :=
      match v with
      | .scalar (.foreign _) | .list _ | .map _ => .ok opening :: chunks levels level v
      | .scalar s => [.of (scalarFault? s) (opening ++ writeScalar s)]
    written ++ itemChunks levels level [','] rest

/-- The chunks of the members of an object, each on its line. -/
def memberChunks (levels level : Nat) (before : List Chunk) :
    List (Scalar × Value) → List Chunk
  | [] => []
  | (k, v) :: rest =>
    match keyFault? k with
    | some fault => [.error fault]
    | none =>
      before ++ [.ok (writeString (memberKey k)), .ok [':', ' ']] ++ chunks levels level v ++
        memberChunks levels level [.ok (',' :: newline level)] rest

end

/-- What was written of a document, and the fault that ended it. -/
structure Draft where
  text : List Char
  fault? : Option RenderFault
deriving DecidableEq, Repr

/-- Writes chunks up to the first fault. -/
def Draft.ofChunks : List Chunk → Draft
  | [] => ⟨[], none⟩
  | .error fault :: _ => ⟨[], some fault⟩
  | .ok text :: rest =>
    let draft := ofChunks rest
    ⟨text ++ draft.text, draft.fault?⟩

/-- Writes a value as a JSON text, where only so many levels can be written. -/
def render (levels : Nat) (v : Value) : Draft := .ofChunks (chunks levels 0 v)

/-- Whether the whole document was written. -/
def Draft.result (draft : Draft) : Except RenderFault Unit :=
  match draft.fault? with
  | none => .ok ()
  | some fault => .error fault

/-- The bytes of what was written. -/
def Draft.bytes (draft : Draft) : ByteArray := (String.ofList draft.text).toUTF8

end CompileFlags.Json
