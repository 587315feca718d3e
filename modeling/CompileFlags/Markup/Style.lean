import CompileFlags.Markup.Colour
import CompileFlags.Text.Blank

/-!
# Styles

A style is described by words: attributes such as `bold` or `b`, the same after `not`, a colour, a
second one after `on`, and an address after `link`. Descriptions of one style have the same normal
form, whatever the order of their words.
-/

namespace CompileFlags.Markup

/-- What a style turns on or off. -/
inductive Attribute where
  | bold | dim | italic | underline | blink | blink2 | reverse | conceal | strike
  | underline2 | frame | encircle | overline
deriving DecidableEq, Repr

namespace Attribute

/-- The attributes, in the order in which they are written. -/
def all : List Attribute := [
  .bold, .dim, .italic, .underline, .blink, .blink2, .reverse, .conceal, .strike, .underline2,
  .frame, .encircle, .overline]

/-- The name of an attribute. -/
def name : Attribute → String
  | bold => "bold"
  | dim => "dim"
  | italic => "italic"
  | underline => "underline"
  | blink => "blink"
  | blink2 => "blink2"
  | reverse => "reverse"
  | conceal => "conceal"
  | strike => "strike"
  | underline2 => "underline2"
  | frame => "frame"
  | encircle => "encircle"
  | overline => "overline"

/-- The abbreviation of an attribute, if it has one. -/
def abbreviation? : Attribute → Option String
  | bold => "b"
  | dim => "d"
  | italic => "i"
  | underline => "u"
  | reverse => "r"
  | conceal => "c"
  | strike => "s"
  | underline2 => "uu"
  | overline => "o"
  | blink | blink2 | frame | encircle => none

/-- The attribute that a word means. -/
def ofWord? (word : Text) : Option Attribute :=
  all.find? fun a => word = a.name || a.abbreviation?.any (word = Text.ofString ·)

end Attribute

/-- A style: what it turns on or off, the latest first, and its colours and address. -/
structure Style where
  attributes : List (Attribute × Bool) := []
  colour : Option Text := none
  background : Option Text := none
  link : Option Text := none
deriving DecidableEq, Repr

namespace Style

/-- A style with the words of a description added, unless one of them is not understood. -/
def addWords (style : Style) : List Text → Except Text.NumberFault (Option Style)
  | [] => .ok (some style)
  | word :: rest =>
    let small := word.lower
    if small = "on" then
      match rest with
      | [] => .ok none
      | next :: rest =>
        match colour? next with
        | .error fault => .error fault
        | .ok none => .ok none
        | .ok (some background) => addWords { style with background } rest
    else if small = "not" then
      match rest with
      | [] => .ok none
      | next :: rest =>
        match Attribute.ofWord? next with
        | none => .ok none
        | some a => addWords { style with attributes := (a, false) :: style.attributes } rest
    else if small = "link" then
      match rest with
      | [] => .ok none
      | link :: rest => addWords { style with link } rest
    else
      match Attribute.ofWord? small with
      | some a => addWords { style with attributes := (a, true) :: style.attributes } rest
      | none =>
        match colour? small with
        | .error fault => .error fault
        | .ok none => .ok none
        | .ok (some colour) => addWords { style with colour } rest

/-- The style of a description, unless it is not understood. -/
def ofText? (description : Text) : Except Text.NumberFault (Option Style) :=
  if description.trim = "none" then .ok (some {}) else addWords {} description.words

/-- The description of a style in its normal form. -/
def text (style : Style) : Text :=
  let mention (a : Attribute) : Option Text :=
    (style.attributes.lookup a).map fun turnedOn => if turnedOn then a.name else "not " ++ a.name
  let words : List Text :=
    Attribute.all.filterMap mention ++ style.colour.toList ++
      (style.background.map (Text.ofString "on " ++ ·)).toList ++
      (style.link.map (Text.ofString "link " ++ ·)).toList
  if words = [] then "none" else List.intercalate " " words

/-- The normal form of a description. One that is not understood is only tidied. -/
def normalForm (description : Text) : Except Text.NumberFault Text :=
  (ofText? description).map fun style => (style.map (·.text)).getD description.trim.lower

end Style

end CompileFlags.Markup
