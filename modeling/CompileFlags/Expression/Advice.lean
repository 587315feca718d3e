import CompileFlags.Expression.Input

/-!
# Advice on mistakes

An expression that cannot be read is looked at once more for common mistakes. A report names the
likely fault once the part that makes it likely is read; without a report, reading goes on.
-/

namespace CompileFlags.Expression.Reader

/-- The report on a part that is read where none can stand, if it makes some fault likely. -/
def report {α : Type} (part : Reading α) (fault : α → Input → Option Fault) : Option Stop :=
  match part with
  | .error (.unexpected (_ :: _)) => none
  | .error stop => some stop
  | .ok (_, []) => some (.unexpected [])
  | .ok (a, rest) => (fault a rest).map .fault

/-- Goes on unless there is a report. -/
def heed {α : Type} (report : Option Stop) (otherwise : Unit → Reading α) : Reading α :=
  match report with
  | some stop => .error stop
  | none => otherwise ()

/-- How many brackets are open after the last token before the rest. -/
def depthBefore (ts rest : Input) : Nat :=
  ((ts.take (ts.length - rest.length)).getLast?.map (·.depth)).getD 0

/-- The kind of the first of some expressions that cannot take elements. -/
def fixedTarget? (targets : List Expression) : Option String :=
  let parts : Expression → List Expression
    | .tuple items => items
    | e => [e]
  (targets.flatMap parts).findSome? fun e =>
    if ["name", "attribute", "tuple", "starred", "comparison"].contains e.kind then none
    else some e.kind

/-- What kinds of arguments stand before one. -/
inductive Seen where
  | positional | named | unpacked
deriving DecidableEq, Repr

end CompileFlags.Expression.Reader
