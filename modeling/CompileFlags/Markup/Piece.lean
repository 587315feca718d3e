import CompileFlags.Text.Basic

/-!
# Pieces of a marked-up message

A message is made of texts and of tags in brackets. A backslash protects the bracket after it;
backslashes before a tag protect one another in pairs.
-/

namespace CompileFlags.Markup

/-- A piece of a message. -/
inductive Piece where
  | text (t : Text)
  /-- A tag without its brackets, and where it stands in the message. -/
  | tag (content : Text) (position : Nat)
deriving DecidableEq, Repr

/-- The characters that a tag may start with. -/
def startsTag (c : Char) : Bool := c.isLower || c = '#' || c = '/' || c = '@'

/-- The tag at the front of a text, without its brackets: it ends at the next closing bracket, and
no opening one stands before that. -/
def tag? : Text → Option Text
  | .char '[' :: c :: rest =>
    let tag := c :: rest.takeWhile (· ≠ ']')
    if c.isIn startsTag && rest.contains ']' && !tag.contains '[' then some tag else none
  | _ => none

/-- The pieces of the rest of a message, from a position on. The first `skip` code points belong to
a tag that is dealt with already. -/
def piecesFrom (position : Nat) : Nat → Text → List Piece
  | _, [] => []
  | skip + 1, _ :: rest => piecesFrom (position + 1) skip rest
  | 0, c :: rest =>
    let slashes := ((c :: rest).takeWhile (· = CodePoint.char '\\')).length
    match tag? ((c :: rest).drop slashes) with
    | none =>
      let following := piecesFrom (position + 1) 0 rest
      if c = '\\' ∧ rest.head? = some '[' then following else .text [c] :: following
    | some tag =>
      let piece : Piece :=
        if slashes % 2 = 1 then .text ("[" ++ tag ++ "]") else .tag tag (position + slashes)
      .text (List.replicate (slashes / 2) '\\') :: piece ::
        piecesFrom (position + 1) (slashes + tag.length + 1) rest

/-- The pieces of a message. -/
def pieces (message : Text) : List Piece := piecesFrom 0 0 message

end CompileFlags.Markup
