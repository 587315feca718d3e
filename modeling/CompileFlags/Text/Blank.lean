import CompileFlags.Text.Basic

/-!
# Blank characters and line endings

White space of every script, with the four information separators. A command that holds nothing
else has no tokens. A text file may end its lines with a line feed, a carriage return or both. Reading
one turns each ending into a single line feed.
-/

namespace CompileFlags.Text

/-- White space, from the tabulator to the ideographic space. -/
def isBlank (c : Char) : Bool :=
  let n := c.toNat
  (9 ≤ n && n ≤ 13) || (28 ≤ n && n ≤ 32) || n == 0x85 || n == 0xa0 || n == 0x1680 ||
    (0x2000 ≤ n && n ≤ 0x200a) || n == 0x2028 || n == 0x2029 || n == 0x202f || n == 0x205f ||
    n == 0x3000

/-- Whether a text holds white space only. -/
def isBlankText (t : Text) : Bool := t.all (·.isIn isBlank)

/-- A text without the white space around it. -/
def trim (t : Text) : Text :=
  ((t.dropWhile (·.isIn isBlank)).reverse.dropWhile (·.isIn isBlank)).reverse

/-- The words of a text, between its white space. -/
def words (t : Text) : List Text :=
  (t.splitOnP (·.isIn isBlank)).filter (· ≠ [])

/-- Each carriage return, with the line feed after it if there is one, as one line feed. -/
def unifyNewlines : Text → Text
  | [] => []
  | .char '\r' :: .char '\n' :: rest => .char '\n' :: unifyNewlines rest
  | c :: rest => (if c = '\r' then '\n' else c) :: unifyNewlines rest

end CompileFlags.Text
