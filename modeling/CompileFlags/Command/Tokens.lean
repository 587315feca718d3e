import CompileFlags.Text.Blank

/-!
# The tokens of a command line

A command line is split into tokens as a shell would, without expansions. Blanks separate tokens. A
backslash takes the next character as it is. Between apostrophes every character is taken as it is;
between double quotes a backslash acts only before a double quote or another backslash. Pieces that
touch form one token, and a pair of quotes alone is an empty one.
-/

namespace CompileFlags.Command

/-- How a command line can end in the middle of a token. -/
inductive Incomplete where
  /-- A quote is never closed. -/
  | quotation
  /-- A backslash is the last character. -/
  | escape
deriving DecidableEq, Repr

/-- What is missing from the command line. -/
def Incomplete.reason : Incomplete → String
  | .quotation => "No closing quotation"
  | .escape => "No escaped character"

/-- Where the reader stands: outside quotes, with or without a token begun, or inside quotes. -/
inductive Mode where
  | outside (begun : Bool)
  | single
  | double
deriving DecidableEq, Repr

/-- The characters that separate tokens. -/
def isSeparator (c : CodePoint) : Bool := c = ' ' || c = '\t' || c = '\r' || c = '\n'

/-- Puts a character in front of the first token. -/
def push (c : CodePoint) (tokens : List Text) : List Text := tokens.modifyHead (c :: ·)

/-- Ends the token at hand, if one is begun: nothing is left of it. -/
def close (begun : Bool) (tokens : List Text) : List Text :=
  if begun then [] :: tokens else tokens

/-- The tokens from a position on. Once a token is begun, the first of them is the rest of that
token; otherwise all of them are yet to come. -/
def scan : Mode → Text → Except Incomplete (List Text)
  | .outside begun, [] => .ok (close begun [])
  | .single, [] => .error .quotation
  | .double, [] => .error .quotation
  | .outside begun, c :: rest =>
    if isSeparator c then (scan (.outside false) rest).map (close begun)
    else if c = '\'' then scan .single rest
    else if c = '"' then scan .double rest
    else if c = '\\' then
      match rest with
      | [] => .error .escape
      | d :: rest => (scan (.outside true) rest).map (push d)
    else (scan (.outside true) rest).map (push c)
  | .single, c :: rest =>
    if c = '\'' then scan (.outside true) rest else (scan .single rest).map (push c)
  | .double, c :: rest =>
    if c = '"' then scan (.outside true) rest
    else if c = '\\' then
      match rest with
      | [] => .error .escape
      | d :: rest =>
        if d = '"' ∨ d = '\\' then (scan .double rest).map (push d)
        else (scan .double rest).map (push c ∘ push d)
    else (scan .double rest).map (push c)

/-- The tokens of a command line. A command that is blank in any script has none. -/
def split (command : Text) : Except Incomplete (List Text) :=
  if Text.isBlankText command then .ok [] else scan (.outside false) command

end CompileFlags.Command
