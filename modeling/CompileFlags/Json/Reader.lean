import CompileFlags.Json.Error
import CompileFlags.Text.Digits
import CompileFlags.Value.Basic

/-!
# Reading JSON

A JSON text is read from left to right, and the first thing that cannot stand where it stands is
reported. Every function takes what is left of the text and gives back what is left after it; a
fault is known by how many characters are left where it stands. Besides the standard's values there
are `NaN`, `Infinity` and `-Infinity`, and of two members with one name the later gives the value.
Brackets may be nested up to a number of levels only.
-/

namespace CompileFlags.Json

/-- A fault, by the number of characters that are left where it stands. -/
inductive Fault where
  | complaint (complaint : Complaint) (left : Nat)
  | tooManyDigits (count : Nat)
  | tooDeep (bracket : Bracket)
deriving DecidableEq, Repr

/-- What a reading function gives: a result and the rest of the text. -/
abbrev Reading (α : Type) := Except Fault (α × Text)

/-- The characters that may stand between tokens. -/
def isBlank (c : CodePoint) : Bool := c = ' ' || c = '\t' || c = '\n' || c = '\r'

/-- The text after any blanks. -/
def skipBlanks (cs : Text) : Text := cs.dropWhile isBlank

/-- A decimal digit of ASCII. -/
def isDigit (c : CodePoint) : Bool := c.isIn Char.isDigit

/-- The number that a run of digits spells. -/
def ofDigits (digits : Text) : Nat := digits.foldl (fun n c => 10 * n + (c.number - 48)) 0

/-- The digits in front of the point: a zero alone, or a run that starts with another digit. -/
def wholePart? : Text → Option (Text × Text)
  | [] => none
  | c :: rest =>
    if c = '0' then some ([c], rest)
    else if isDigit c then some ((c :: rest).takeWhile isDigit, (c :: rest).dropWhile isDigit)
    else none

/-- The digits behind the point. A point without a digit after it does not belong to the number. -/
def fraction : Text → Text × Text
  | .char '.' :: rest =>
    match rest.takeWhile isDigit with
    | [] => ([], .char '.' :: rest)
    | digits => (digits, rest.dropWhile isDigit)
  | cs => ([], cs)

/-- The exponent, if a digit follows its mark and sign; otherwise they do not belong to the number.
-/
def exponent? (cs : Text) : Option (Int × Text) :=
  match cs with
  | [] => none
  | e :: rest =>
    if e = 'e' ∨ e = 'E' then
      let (negative, rest) :=
        match rest with
        | .char '-' :: rest => (true, rest)
        | .char '+' :: rest => (false, rest)
        | rest => (false, rest)
      match rest.takeWhile isDigit with
      | [] => none
      | digits =>
        let n : Int := ofDigits digits
        some (if negative then -n else n, rest.dropWhile isDigit)
    else none

/-- A number without its sign. With a point or an exponent it is a floating-point number. `start` is
what was left before the sign. -/
def unsigned (negative : Bool) (start cs : Text) : Reading Value :=
  match wholePart? cs with
  | none => .error (.complaint .value start.length)
  | some (whole, rest) =>
    let (part, rest) := fraction rest
    let float (exponent : Int) : Value :=
      let x := Decimal.toFloat (ofDigits (whole ++ part)) (exponent - part.length)
      .float (if negative then -x else x)
    match exponent? rest with
    | some (exponent, rest) => .ok (float exponent, rest)
    | none =>
      if part ≠ [] then .ok (float 0, rest)
      else if whole.length > Text.maxDigits then .error (.tooManyDigits whole.length)
      else
        let n : Int := ofDigits whole
        .ok (.int (if negative then -n else n), rest)

/-- A number. -/
def number (cs : Text) : Reading Value :=
  match cs with
  | .char '-' :: rest => unsigned true cs rest
  | _ => unsigned false cs cs

/-- The value of a hexadecimal digit in either case. -/
def hexDigit? : CodePoint → Option Nat
  | .char c =>
    if '0' ≤ c && c ≤ '9' then some (c.toNat - 48)
    else if 'a' ≤ c && c ≤ 'f' then some (c.toNat - 87)
    else if 'A' ≤ c && c ≤ 'F' then some (c.toNat - 55)
    else none
  | .surrogate _ => none

/-- The number that hexadecimal digits spell. -/
def ofHex? (digits : Text) : Option Nat :=
  digits.foldlM (fun n c => (hexDigit? c).map (16 * n + ·)) 0

/-- A surrogate that can come first of two. -/
def isHighSurrogate (n : Nat) : Bool := 0xd800 ≤ n && n ≤ 0xdbff

/-- A surrogate that can come second of two. -/
def isLowSurrogate (n : Nat) : Bool := 0xdc00 ≤ n && n ≤ 0xdfff

/-- The fault of a numeric escape, given what follows the `u`. -/
def unicodeFault (cs : Text) : Fault := .complaint .unicodeEscape (cs.length + 1)

/-- The code point of a numeric escape, given what follows the `u`, and how much of that belongs to
the escape. Four digits count only if another character follows them. A high surrogate and the low
one after it are read together. -/
def unicodeEscape (cs : Text) : Except Fault (CodePoint × Nat) :=
  if (cs.drop 4).isEmpty then .error (unicodeFault cs)
  else
    match ofHex? (cs.take 4) with
    | none => .error (unicodeFault cs)
    | some high =>
      match isHighSurrogate high, cs.drop 4 with
      | true, .char '\\' :: .char 'u' :: more =>
        if (more.drop 4).isEmpty then .ok (.ofNumber high, 4)
        else
          match ofHex? (more.take 4) with
          | none => .error (unicodeFault more)
          | some low =>
            if isLowSurrogate low then
              .ok (.ofNumber (0x10000 + (high - 0xd800) * 0x400 + (low - 0xdc00)), 10)
            else .ok (.ofNumber high, 4)
      | _, _ => .ok (.ofNumber high, 4)

/-- The character of an escape of one letter. -/
def shortEscape? : CodePoint → Option CodePoint
  | .char '"' => some '"'
  | .char '\\' => some '\\'
  | .char '/' => some '/'
  | .char 'b' => some '\x08'
  | .char 'f' => some '\x0c'
  | .char 'n' => some '\n'
  | .char 'r' => some '\r'
  | .char 't' => some '\t'
  | _ => none

/-- The code point of an escape, given what follows the backslash, and how much of that belongs to
the escape. -/
def escape (opening cs : Text) : Except Fault (CodePoint × Nat) :=
  match cs with
  | [] => .error (.complaint .unterminated opening.length)
  | .char 'u' :: rest => (unicodeEscape rest).map fun (c, length) => (c, length + 1)
  | c :: _ =>
    match shortEscape? c with
    | some c => .ok (c, 1)
    | none => .error (.complaint .escape (cs.length + 1))

/-- The code points of a string up to its closing quote. The first `skip` ones belong to an escape
that is read already; `opening` is what was left at the opening quote. -/
def chars (opening : Text) : Nat → Text → Reading Text
  | _, [] => .error (.complaint .unterminated opening.length)
  | skip + 1, _ :: rest => chars opening skip rest
  | 0, c :: rest =>
    if c = '"' then .ok ([], rest)
    else if c = '\\' then
      match escape opening rest with
      | .error fault => .error fault
      | .ok (d, length) => (chars opening length rest).map fun (cs, rest) => (d :: cs, rest)
    else if c.number < 0x20 then .error (.complaint .control (rest.length + 1))
    else (chars opening 0 rest).map fun (cs, rest) => (c :: cs, rest)

/-- A string, given what follows its opening quote. -/
def string (cs : Text) : Reading Text := chars (.char '"' :: cs) 0 cs

/-- A comma or the closing bracket: `true` if the list or object goes on. -/
def separator (closing : CodePoint) (cs : Text) : Reading Bool :=
  match skipBlanks cs with
  | [] => .error (.complaint .comma 0)
  | c :: rest =>
    if c = closing then .ok (false, rest)
    else if c = ',' then .ok (true, skipBlanks rest)
    else .error (.complaint .comma (rest.length + 1))

/-- The name of a member and the colon after it. -/
def memberName (cs : Text) : Reading Text :=
  match cs with
  | .char '"' :: rest =>
    match string rest with
    | .error fault => .error fault
    | .ok (name, rest) =>
      match skipBlanks rest with
      | .char ':' :: rest => .ok (name, skipBlanks rest)
      | rest => .error (.complaint .colon rest.length)
  | _ => .error (.complaint .propertyName cs.length)

/-- The values that are written as words. -/
def words : List (Text × Value) := [
  ("null", .null), ("true", .bool true), ("false", .bool false), ("NaN", .float (0.0 / 0.0)),
  ("Infinity", .float (1.0 / 0.0)), ("-Infinity", .float (-1.0 / 0.0))]

/-- A value without parts that is no string: a word or a number. -/
def simple (cs : Text) : Reading Value :=
  match words.find? (·.1.isPrefixOf cs) with
  | some (word, v) => .ok (v, cs.drop word.length)
  | none => number cs

mutual

/-- A value at the front of the text, given how many levels of brackets may be entered. -/
def value (levels : Nat) : Nat → Text → Reading Value
  | 0, cs => .error (.complaint .value cs.length)
  | fuel + 1, cs =>
    match cs with
    | .char '"' :: rest => (string rest).map fun (s, rest) => (.text s, rest)
    | .char '[' :: rest =>
      if levels = 0 then .error (.tooDeep .array)
      else
        match skipBlanks rest with
        | .char ']' :: rest => .ok (.list [], rest)
        | rest => (items (levels - 1) fuel rest).map fun (vs, rest) => (.list vs, rest)
    | .char '\x7b' :: rest =>
      if levels = 0 then .error (.tooDeep .object)
      else
        match skipBlanks rest with
        | .char '\x7d' :: rest => .ok (.map [], rest)
        | rest =>
          (members (levels - 1) fuel rest).map fun (es, rest) => (.map (OrderedMap.putAll es []), rest)
    | _ => simple cs

/-- The items of a list, to its closing bracket. -/
def items (levels : Nat) : Nat → Text → Reading (List Value)
  | 0, cs => .error (.complaint .value cs.length)
  | fuel + 1, cs =>
    match value levels fuel cs with
    | .error fault => .error fault
    | .ok (v, rest) =>
      match separator ']' rest with
      | .error fault => .error fault
      | .ok (false, rest) => .ok ([v], rest)
      | .ok (true, rest) => (items levels fuel rest).map fun (vs, rest) => (v :: vs, rest)

/-- The members of an object, to its closing brace. -/
def members (levels : Nat) : Nat → Text → Reading (List (Scalar × Value))
  | 0, cs => .error (.complaint .value cs.length)
  | fuel + 1, cs =>
    match memberName cs with
    | .error fault => .error fault
    | .ok (name, rest) =>
      match value levels fuel rest with
      | .error fault => .error fault
      | .ok (v, rest) =>
        match separator '\x7d' rest with
        | .error fault => .error fault
        | .ok (false, rest) => .ok ([(.text name, v)], rest)
        | .ok (true, rest) =>
          (members levels fuel rest).map fun (es, rest) => ((.text name, v) :: es, rest)

end

/-- A whole text: one value, with nothing but blanks around it. Every character is entered at most
twice, so the fuel does not run out. -/
def document (levels : Nat) (cs : Text) : Except Fault Value :=
  if cs.head? = some (.char '\ufeff') then .error (.complaint .byteOrderMark cs.length)
  else
    match value levels (2 * cs.length + 2) (skipBlanks cs) with
    | .error fault => .error fault
    | .ok (v, rest) =>
      match skipBlanks rest with
      | [] => .ok v
      | rest => .error (.complaint .extraData rest.length)

/-- The value of a JSON text whose brackets are nested up to a number of levels. -/
def parse (levels : Nat) (text : Text) : Except Error Value :=
  match document levels text with
  | .ok v => .ok v
  | .error (.tooManyDigits count) => .error (.tooManyDigits count)
  | .error (.tooDeep bracket) => .error (.tooDeep bracket)
  | .error (.complaint c left) => .error (.malformed (.at text c (text.length - left)))

end CompileFlags.Json
