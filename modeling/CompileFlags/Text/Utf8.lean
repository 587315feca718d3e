import CompileFlags.Text.Basic
import CompileFlags.Text.Digits

/-!
# Texts as bytes

Bytes are read as UTF-8. If they are not, the fault says where the first ill-formed sequence stands
and how far it goes: as far as some character could begin with these bytes. The other way round, a
text has bytes unless it holds surrogates, and the fault says where the first run of them stands.
-/

namespace CompileFlags.Text

/-- Why a sequence of bytes is no character. -/
inductive Utf8Cause where
  /-- No character begins with this byte. -/
  | start
  /-- A character begins here, and a byte that cannot continue it follows. -/
  | continuation
  /-- A character begins here, and the bytes end before it does. -/
  | truncated
deriving DecidableEq, Repr

/-- The first ill-formed sequence of a byte string: its position, its length and its first byte. -/
structure Utf8Fault where
  cause : Utf8Cause
  position : Nat
  length : Nat
  byte : UInt8
deriving DecidableEq, Repr

/-- Where the bytes stop being text. -/
def Utf8Fault.message (fault : Utf8Fault) : String :=
  let place :=
    if fault.length = 1 then
      "byte 0x" ++ String.ofList (hex 2 fault.byte.toNat) ++ " in position " ++
        toString fault.position
    else
      "bytes in position " ++ toString fault.position ++ "-" ++
        toString (fault.position + fault.length - 1)
  let cause :=
    match fault.cause with
    | .start => "invalid start byte"
    | .continuation => "invalid continuation byte"
    | .truncated => "unexpected end of data"
  "'utf-8' codec can't decode " ++ place ++ ": " ++ cause

/-- A range that a continuation byte has to lie in. -/
abbrev ByteRange := Nat × Nat

/-- The ranges of the bytes after a first byte; `none` if no character begins with it. The second
byte is limited where a character would be encoded too long, be a surrogate or be too large. -/
def continuations? (first : UInt8) : Option (List ByteRange) :=
  let any : ByteRange := (0x80, 0xbf)
  let n := first.toNat
  if n < 0x80 then some []
  else if n < 0xc2 then none
  else if n < 0xe0 then some [any]
  else if n = 0xe0 then some [(0xa0, 0xbf), any]
  else if n = 0xed then some [(0x80, 0x9f), any]
  else if n < 0xf0 then some [any, any]
  else if n = 0xf0 then some [(0x90, 0xbf), any, any]
  else if n < 0xf4 then some [any, any, any]
  else if n = 0xf4 then some [(0x80, 0x8f), any, any]
  else none

/-- How a run of bytes fits the ranges it should lie in. -/
inductive Fit where
  | full
  | broken (count : Nat)
  | short (count : Nat)
deriving DecidableEq, Repr

/-- Compares bytes with ranges, counting those that fit. -/
def fit : List ByteRange → List UInt8 → Nat → Fit
  | [], _, _ => .full
  | _ :: _, [], count => .short count
  | range :: ranges, b :: bytes, count =>
    if range.1 ≤ b.toNat && b.toNat ≤ range.2 then fit ranges bytes (count + 1)
    else .broken count

/-- The first fault from a position on. `skip` bytes belong to a character already checked. -/
def firstUtf8Fault (position skip : Nat) : List UInt8 → Option Utf8Fault
  | [] => none
  | b :: bytes =>
    match skip with
    | skip + 1 => firstUtf8Fault (position + 1) skip bytes
    | 0 =>
      match continuations? b with
      | none => some ⟨.start, position, 1, b⟩
      | some ranges =>
        match fit ranges bytes 1 with
        | .full => firstUtf8Fault (position + 1) ranges.length bytes
        | .broken count => some ⟨.continuation, position, count, b⟩
        | .short count => some ⟨.truncated, position, count, b⟩

/-- The text that the bytes encode. -/
def decodeUtf8 (bytes : ByteArray) : Except Utf8Fault Text :=
  match String.fromUTF8? bytes with
  | some s => .ok s
  | none =>
    match firstUtf8Fault 0 0 bytes.toList with
    | some fault => .error fault
    | none => .error ⟨.truncated, bytes.size, 0, 0⟩

/-- A run of surrogates, which no bytes stand for: its position, its length and its first one. -/
structure EncodingFault where
  position : Nat
  length : Nat
  first : Fin 0x800
deriving DecidableEq, Repr

/-- Where a text has no bytes. -/
def EncodingFault.message (fault : EncodingFault) : String :=
  let place :=
    if fault.length = 1 then
      "character '\\u" ++ String.ofList (hex 4 (CodePoint.surrogate fault.first).number) ++
        "' in position " ++ toString fault.position
    else
      "characters in position " ++ toString fault.position ++ "-" ++
        toString (fault.position + fault.length - 1)
  "'utf-8' codec can't encode " ++ place ++ ": surrogates not allowed"

/-- The first fault from a position on, where some surrogates may be allowed. The run goes on as
long as surrogates follow, allowed or not. -/
def firstEncodingFault (allowed : Fin 0x800 → Bool) (position : Nat) :
    Text → Option EncodingFault
  | [] => none
  | .char _ :: rest => firstEncodingFault allowed (position + 1) rest
  | .surrogate n :: rest =>
    if allowed n then firstEncodingFault allowed (position + 1) rest
    else some ⟨position, (rest.takeWhile (·.char?.isNone)).length + 1, n⟩

/-- The number of bytes of a text in which each surrogate stands for one byte. -/
def byteCount : Text → Nat
  | [] => 0
  | c :: rest => (c.char?.map Char.utf8Size).getD 1 + byteCount rest

/-- The bytes of a text. -/
def encodeUtf8 (t : Text) : Except EncodingFault ByteArray :=
  match firstEncodingFault (fun _ => false) 0 t with
  | some fault => .error fault
  | none => .ok t.display.toUTF8

end CompileFlags.Text
