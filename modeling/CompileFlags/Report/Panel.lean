import CompileFlags.Answer
import CompileFlags.Language
import CompileFlags.Report.Gradient

/-!
# Panels

An answer as it is shown: a title, a summary, and a table of the candidates if there are any.
-/

namespace CompileFlags.Report

/-- The first colour of a title. -/
def firstColour : String := "#45d3ee"

/-- The last colour of a title. -/
def lastColour : String := "#fecd91"

/-- The style of the labels in a summary. -/
def labelStyle : String := "bold " ++ lastColour

/-- The style of notes in a summary. -/
def noteStyle : String := "#9FBFC5"

/-- The words of a panel's title. -/
def panelTitle : String := "CDBFLAGS"

/-- Rows of cells under their headers. -/
structure Table where
  headers : List Text
  rows : List (List Text)
deriving DecidableEq, Repr

/-- What is shown of an answer. -/
structure Panel where
  title : Styled
  summary : Styled
  table : Option Table
deriving DecidableEq, Repr

/-- What shows messages and panels. It reads marks in them, and has to find bytes for them, so it may refuse
to show either. -/
structure Console where
  /-- What a message shows. -/
  message : Text → Except ConsoleFault Text
  /-- What a warning shows, which is written apart from messages. -/
  warning : Text → Except ConsoleFault Text
  /-- Why a panel cannot be shown. -/
  panelFault? : Panel → Option ConsoleFault

/-- How the flags were found, in words. -/
def matchWords (a : Answer) : Text :=
  match a.kind with
  | some .directory => "directory " ++ a.matchedDirectory.getD "None"
  | some kind => if kind.label = "" then "none" else kind.label
  | none => "none"

/-- The summary of an answer. -/
def summary (a : Answer) : Styled :=
  let s := Styled.empty
    |>.appendStyled labelStyle (sourceLabel a.queriedPath ++ ": ")
    |>.append (a.queriedPath ++ "\n")
    |>.appendStyled labelStyle "Database: "
    |>.append ((a.database.filter (· ≠ [])).getD "none found" ++ "\n")
    |>.appendStyled labelStyle "Match: "
    |>.append (matchWords a)
  if a.dropped = 0 then s
  else s.appendStyled noteStyle ("\n" ++ toString a.dropped ++ " unusable database entries skipped")

/-- The candidates to show: all of them, or only the first. -/
def shown (a : Answer) (all : Bool) : List (List Text) :=
  if all then a.candidates else a.candidates.take 1

/-- Candidates with their indices and the directories they run in. Each has to have one. -/
def withDirectories (a : Answer) (all : Bool) :
    Except Fault (List (Nat × Text × List Text)) :=
  (shown a all).zipIdx.mapM fun (options, i) =>
    match a.directories[i]? with
    | some directory => .ok (i, directory, options)
    | none => .error .noWorkingDirectory

/-- The table of the candidates, numbered from one. -/
def table (a : Answer) (all : Bool) : Except Fault Table :=
  (withDirectories a all).map fun rows => {
    headers := ["#", "Working Directory", "Flags"]
    rows := rows.map fun (i, directory, options) =>
      [toString (i + 1), directory, List.intercalate " " options] }

/-- The panel of an answer. -/
def panel (a : Answer) (all : Bool) : Except Fault Panel :=
  match (if a.hasFlags then (table a all).map some else .ok none),
    gradient panelTitle firstColour lastColour with
  | .ok table, .ok title => .ok ⟨title, summary a, table⟩
  | .error fault, _ => .error fault
  | _, .error fault => .error fault

/-- The lines of a table: its headers, then its rows, cells apart by two blanks. -/
def Table.lines (t : Table) : List Text := (t.headers :: t.rows).map (List.intercalate "  ")

/-- The lines of a panel, with an empty one before the table. -/
def Panel.plainText (p : Panel) : Text :=
  let table := (p.table.map fun t => [] :: t.lines).getD []
  ([p.title.text, p.summary.text] ++ table).flatMap (· ++ "\n")

end CompileFlags.Report
