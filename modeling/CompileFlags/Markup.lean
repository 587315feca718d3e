import CompileFlags.Markup.Handler
import CompileFlags.Markup.Piece
import CompileFlags.Markup.Style
import CompileFlags.Report.Panel

/-!
# Marked-up messages

A message is marked up with tags in brackets: `[bold red]` opens a style, and `[/red b]`, which
describes the same style, or `[/]` closes it. A plain console shows what is left without the tags,
but it reads every style that a part of the text is shown in.
-/

namespace CompileFlags.Markup
open Report (Span Styled)

/-- Why a message cannot be shown. -/
inductive Fault where
  /-- No style of that name is open. -/
  | notOpen (tag : Text) (position : Nat)
  /-- No style is open at all. -/
  | nothingOpen (position : Nat)
  /-- A colour is described by what is no number. -/
  | number (fault : Text.NumberFault)
  /-- The arguments of a handler, among its parameters, cannot be used. -/
  | arguments (parameters : Text) (fault : ArgumentFault)
deriving DecidableEq, Repr

/-- The message of a fault. -/
def Fault.message : Fault → Text
  | .notOpen tag position =>
    "closing tag '[" ++ tag ++ "]' at position " ++ toString position ++
      " doesn't match any open tag"
  | .nothingOpen position =>
    "closing tag '[/]' at position " ++ toString position ++ " has nothing to close"
  | .number fault => fault.message
  | .arguments parameters fault => fault.message parameters

/-- The normal form of a style's description. -/
def styleName (description : Text) : Except Fault Text :=
  match Style.normalForm description with
  | .ok name => .ok name
  | .error fault => .error (.number fault)

/-- A tag that is not closed: where its text starts, its name, and what follows an equals sign. -/
structure OpenTag where
  first : Nat
  name : Text
  parameters : Option Text
deriving DecidableEq, Repr

/-- The span of a tag that ends at a position. -/
def OpenTag.span (tag : OpenTag) (last : Nat) : Span :=
  ⟨tag.first, last, tag.name ++ (tag.parameters.map (Text.ofString " " ++ ·)).getD []⟩

/-- What is known before a piece: how much text there is, the open tags, innermost first, and the
spans of those that are closed, the latest first. -/
structure Progress where
  length : Nat := 0
  openTags : List OpenTag := []
  spans : List Span := []
deriving DecidableEq, Repr

namespace Progress

/-- Closes the innermost tag that satisfies a condition. A handler, whose name starts with an at
sign, is no style; its arguments have to be usable. -/
def close (p : Progress) (wanted : OpenTag → Bool) (missing : Fault) : Except Fault Progress :=
  match p.openTags.find? wanted with
  | none => .error missing
  | some tag =>
    let p := { p with openTags := p.openTags.eraseP wanted }
    if tag.name.head? = some (.char '@') then
      match tag.parameters.bind fun t => (argumentFault? t).map (Fault.arguments t) with
      | some fault => .error fault
      | none => .ok p
    else .ok { p with spans := tag.span p.length :: p.spans }

/-- Goes past a tag. What follows an equals sign does not belong to the name of a style. -/
def passTag (p : Progress) (content : Text) (position : Nat) : Except Fault Progress :=
  let parameters := match content.dropWhile (· ≠ CodePoint.char '=') with
    | [] => none
    | _ :: parameters => some parameters
  match content.takeWhile (· ≠ CodePoint.char '=') with
  | .char '/' :: description =>
    let description := Text.trim description
    if description = [] then
      p.close (fun _ => true) (.nothingOpen position)
    else
      match styleName description with
      | .error fault => .error fault
      | .ok name => p.close (·.name = name) (.notOpen content position)
  | description =>
    match styleName description with
    | .error fault => .error fault
    | .ok name => .ok { p with openTags := ⟨p.length, name, parameters⟩ :: p.openTags }

/-- Goes past a piece. -/
def pass (p : Progress) : Piece → Except Fault Progress
  | .text t => .ok { p with length := p.length + (Styled.kept t).length }
  | .tag content position => p.passTag content position

/-- All spans at the end of a message, where the tags that are still open end too. They are in the
order of their starts, and those that were closed later come first. -/
def allSpans (p : Progress) : List Span :=
  (p.openTags.reverse.map (·.span p.length) ++ p.spans).mergeSort (·.first ≤ ·.first)

end Progress

/-- The text that a piece shows. -/
def Piece.shown : Piece → Text
  | .text t => Styled.kept t
  | .tag _ _ => []

/-- What a message shows, with its styles. -/
def styled (message : Text) : Except Fault Styled :=
  ((pieces message).foldlM Progress.pass {}).map fun p =>
    ⟨(pieces message).flatMap Piece.shown, p.allSpans⟩

/-- Where the lines of a text start and end, given the lines and the start of the first. -/
def lineBounds (start : Nat) : List Text → List (Nat × Nat)
  | [] => []
  | line :: rest => (start, start + line.length) :: lineBounds (start + line.length + 1) rest

/-- The spans that a console meets, line by line. Where there are several lines, those that cover
nothing but line ends are not met. -/
def metSpans (s : Styled) : List Span :=
  match lineBounds 0 (s.text.splitOn '\n') with
  | [_] => s.spans
  | bounds => bounds.flatMap fun (start, stop) =>
    s.spans.filter fun span => max span.first start < min span.last stop

/-- What a message shows on a plain console, which has no use for the styles but reads them. -/
def plain (message : Text) : Except Fault Text :=
  match styled message with
  | .error fault => .error fault
  | .ok s => ((metSpans s).mapM fun span => styleName span.style).map fun _ => s.text

/-- A fault as the console tells it. -/
def Fault.toConsole (fault : Fault) : ConsoleFault where
  kind := match fault with
    | .number _ => "ValueError"
    | _ => "MarkupError"
  message := fault.message

/-- Why a message cannot be shown. -/
def fault? (message : Text) : Option ConsoleFault :=
  match plain message with
  | .ok _ => none
  | .error fault => some fault.toConsole

/-- The cells of a table, column by column, each under its header. -/
def cells (t : Report.Table) : List Text :=
  t.headers.zipIdx.flatMap fun (header, i) => header :: t.rows.filterMap (·[i]?)

/-- A plain console. It reads marks in the cells of a table, but not in titles and summaries. -/
def console : Report.Console where
  message m := (plain m).mapError Fault.toConsole
  warning m := (plain m).mapError Fault.toConsole
  panelFault? panel := panel.table.bind fun t => (cells t).findSome? fault?

end CompileFlags.Markup
