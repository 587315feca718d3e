import CompileFlags.Expression.Advice

/-!
# Reading expressions

An expression is read from left to right. Operators of all ranks are read alike, since it does not
matter here what they apply to. Square brackets have no place in a tag, so there are no lists and no
indices. An expression that cannot be read is read once more with advice on the common mistakes.
-/

namespace CompileFlags.Expression.Reader

mutual

/-- An expression, with a condition if there is one. -/
def expression : Nat → Bool → Input → Reading Expression
  | 0, _, ts => .error (.unexpected ts)
  | n + 1, advise, ts =>
    match skip? "lambda" ts with
    | some rest => lambda n advise rest
    | none =>
      (disjunction n advise ts).andThen fun e rest =>
        heed (if advise then adjacent n ts e rest else none) fun _ =>
          match skip? "if" rest with
          | none => .ok (e, rest)
          | some after =>
            (disjunction n advise after).orElse
              (fun _ after =>
                match skip? "else" after with
                | none => if after = [] then .error (.unexpected []) else .ok (e, rest)
                | some after =>
                  (expression n advise after).orElse
                    (fun _ after => .ok (.other "conditional expression", after))
                    fun _ => .ok (e, rest))
              fun _ => .ok (e, rest)

/-- The report on an expression, from its start on, that something follows without a comma. -/
def adjacent : Nat → Input → Expression → Input → Option Stop
  | 0, _, _, _ => none
  | n + 1, ts, e, rest =>
    let isOld : Bool := match e with
      | .name word => isAmong oldStatements word
      | _ => false
    let excluded := match name? ts with
      | some (_, ⟨.quoted _ _, _, _⟩ :: _) => true
      | some (word, _) => isSoftKeyword word
      | none => false
    (if excluded || !startsOperand rest then none
    else
      report (expression n false rest) fun _ after =>
        if isOld || depthBefore rest after = 0 then none else some .missingComma) <|>
    (match skip? "if" rest with
    | none => none
    | some after =>
      report (disjunction n true after) fun _ after =>
        if isNext ["else", ":"] after then none else some .missingElse) <|>
    match name? ts with
    | none => none
    | some (word, after) =>
      let old : Option Fault :=
        if isAmong oldStatements word then some (.missingParentheses word) else none
      if !startsOperand after || isNext ["("] after then
        if (old.isSome || isSoftKeyword word) && isNext ["+", "-", "*"] after then
          report (series n true false after) fun _ _ => old
        else none
      else if excluded || isNext ["lambda"] after then
        report (series n true false after) fun _ _ => old
      else
        match disjunction n false after with
        | .ok (e, rest) => adjacent n after e rest <|> old.map .fault
        | .error _ => none

/-- Expressions between commas, and perhaps a last comma. They may get names, or not. -/
def series : Nat → Bool → Bool → Input → Reading (List Expression)
  | 0, _, _, ts => .error (.unexpected ts)
  | n + 1, advise, mayName, ts =>
    (element n advise mayName ts).andThen fun e rest =>
      match skip? "," rest with
      | none => .ok ([e], rest)
      | some rest =>
        (series n advise mayName rest).orElse (fun es rest => .ok (e :: es, rest))
          fun _ => .ok ([e], rest)

/-- An expression that may be unpacked. -/
def element : Nat → Bool → Bool → Input → Reading Expression
  | 0, _, _, ts => .error (.unexpected ts)
  | n + 1, advise, mayName, ts =>
    match skip? "*" ts with
    | some rest => (arithmetic n advise rest).andThen fun _ rest => .ok (.other "starred", rest)
    | none => if mayName then named n advise ts else expression n advise ts

/-- A function without a name, after its keyword. -/
def lambda : Nat → Bool → Input → Reading Expression
  | 0, _, ts => .error (.unexpected ts)
  | n + 1, advise, ts =>
    let after (rest : Input) : Reading Expression :=
      match skip? "," rest with
      | some rest => lambda n advise rest
      | none => if isNext [":"] rest then lambda n advise rest else .error (.unexpected rest)
    match skip? ":" ts, name? ts, skip? "*" ts, skip? "**" ts, skip? "/" ts with
    | some rest, _, _, _, _ =>
      (expression n advise rest).andThen fun _ rest => .ok (.other "lambda", rest)
    | none, some (_, rest), _, _, _ =>
      match skip? "=" rest with
      | none => after rest
      | some rest => (expression n advise rest).andThen fun _ rest => after rest
    | none, none, some rest, _, _ => after (((name? rest).map (·.2)).getD rest)
    | none, none, none, some rest, _ =>
      match name? rest with
      | some (_, rest) => after rest
      | none => .error (.unexpected rest)
    | none, none, none, none, some rest => after rest
    | none, none, none, none, none => .error (.unexpected ts)

/-- Comparisons joined by words. -/
def disjunction : Nat → Bool → Input → Reading Expression
  | 0, _, ts => .error (.unexpected ts)
  | n + 1, advise, ts =>
    (negation n advise ts).andThen fun e rest =>
      match (skip? "and" rest).or (skip? "or" rest) with
      | none => .ok (e, rest)
      | some after =>
        (disjunction n advise after).orElse (fun _ rest => .ok (.other "expression", rest))
          fun _ => .ok (e, rest)

/-- A comparison that may be negated. -/
def negation : Nat → Bool → Input → Reading Expression
  | 0, _, ts => .error (.unexpected ts)
  | n + 1, advise, ts =>
    match skip? "not" ts with
    | some rest => (negation n advise rest).andThen fun _ rest => .ok (.other "expression", rest)
    | none => comparison n advise ts

/-- Sums and products that are compared with one another. -/
def comparison : Nat → Bool → Input → Reading Expression
  | 0, _, ts => .error (.unexpected ts)
  | n + 1, advise, ts =>
    (arithmetic n advise ts).andThen fun e rest =>
      match comparison? rest with
      | none => .ok (e, rest)
      | some after =>
        (comparison n advise after).orElse (fun _ rest => .ok (.other "comparison", rest))
          fun _ => .ok (e, rest)

/-- Operands with operators between them. -/
def arithmetic : Nat → Bool → Input → Reading Expression
  | 0, _, ts => .error (.unexpected ts)
  | n + 1, advise, ts =>
    (factor n advise ts).andThen fun left rest =>
      match arithmeticOperator? rest with
      | none => .ok (left, rest)
      | some (isSign, after) =>
        (arithmetic n advise after).orElse
          (fun right rest => .ok (if isSign then .sum left right else .other "expression", rest))
          fun _ => .ok (left, rest)

/-- An operand with signs in front and an exponent. -/
def factor : Nat → Bool → Input → Reading Expression
  | 0, _, ts => .error (.unexpected ts)
  | n + 1, advise, ts =>
    match (skip? "+" ts).or (skip? "-" ts), skip? "~" ts with
    | some rest, _ => (factor n advise rest).andThen fun e rest => .ok (.signed e, rest)
    | none, some rest =>
      (factor n advise rest).andThen fun _ rest => .ok (.other "expression", rest)
    | none, none =>
      (primary n advise ts).andThen fun e rest =>
        match skip? "**" rest with
        | none => .ok (e, rest)
        | some after =>
          (factor n advise after).orElse (fun _ rest => .ok (.other "expression", rest))
            fun _ => .ok (e, rest)

/-- An operand with what is applied to it. -/
def primary : Nat → Bool → Input → Reading Expression
  | 0, _, ts => .error (.unexpected ts)
  | n + 1, advise, ts =>
    match skip? "await" ts with
    | some rest =>
      (primary n advise rest).andThen fun _ rest => .ok (.other "await expression", rest)
    | none => (atom n advise ts).andThen fun e rest => trailers n advise e rest

/-- The members and calls after an operand. -/
def trailers : Nat → Bool → Expression → Input → Reading Expression
  | 0, _, _, ts => .error (.unexpected ts)
  | n + 1, advise, e, ts =>
    match skip? "." ts, skip? "(" ts with
    | some rest, _ =>
      match name? rest with
      | some (_, rest) => trailers n advise (.other "attribute") rest
      | none => if rest = [] then .error (.unexpected []) else .ok (e, ts)
    | none, some rest =>
      match skip? ")" rest with
      | some rest => trailers n advise (.call e true) rest
      | none =>
        (arguments n advise rest).orElse (fun _ rest => trailers n advise (.call e false) rest)
          fun _ => .ok (e, ts)
    | none, none =>
      heed (if advise then (skip? openingBrace ts).bind (misplacedSet n) else none) fun _ =>
        .ok (e, ts)

/-- The report on what follows an opening brace that itself follows an operand. -/
def misplacedSet : Nat → Input → Option Stop
  | 0, _ => none
  | n + 1, ts =>
    starred n true ts <|>
    report ((element n true true ts).andThen fun _ rest =>
      (skip "," () rest).andThen fun _ rest =>
        (series n true true rest).orElse (fun _ rest => clauses n true rest) fun _ =>
          clauses n true rest) fun _ _ => some .bareTarget

/-- The arguments of a call, up to its closing bracket. A single argument may be a generator. -/
def arguments : Nat → Bool → Input → Reading Unit
  | 0, _, ts => .error (.unexpected ts)
  | n + 1, advise, ts =>
    (argumentList n advise .positional ts).andThen fun (seen, count) rest =>
      let after := (skip? "," rest).getD rest
      match skip? ")" after with
      | some rest => .ok ((), rest)
      | none =>
        let refuse (_ : Unit) : Reading Unit :=
          heed (if advise then misplaced n seen count rest else none) fun _ =>
            .error (.unexpected after)
        if count = 1 && seen = .positional && isNext ["for", "async"] rest then
          (clauses n advise rest).orElse
            (fun _ after =>
              if isNext ["*"] ts then .error (if advise then .fault .starInComprehension
                else .unexpected after)
              else if advise && isNext [","] after then .error (.fault .bareGenerator)
              else skip ")" () after)
            refuse
        else refuse ()

/-- The report on what follows arguments, given what kinds they are and their number. -/
def misplaced : Nat → Seen → Nat → Input → Option Stop
  | 0, _, _, _ => none
  | n + 1, seen, count, rest =>
    match skip? "," rest with
    | none =>
      if count ≤ 1 then none
      else report (clauses n true rest) fun _ _ => some .bareGenerator
    | some after =>
      (report (unpackedLists n after) fun _ _ => some .listAfterMap) <|>
      (report ((expression n true after).andThen fun _ rest => clauses n true rest)
        fun _ _ => some .bareGenerator) <|>
      report (argumentList n true .positional after) fun _ _ =>
        some (if seen = .unpacked then .positionalAfterMap else .positionalAfterNamed)

/-- Unpacked lists between commas, up to one that is assigned to. -/
def unpackedLists : Nat → Input → Reading Unit
  | 0, ts => .error (.unexpected ts)
  | n + 1, ts =>
    if ts ≠ [] && !isNext ["*"] ts then .error (.unexpected ts)
    else
      (argument n true .positional ts).andThen fun _ rest =>
        if isNext ["="] rest then .error (.unexpected rest)
        else
          match skip? "," rest with
          | none => .ok ((), rest)
          | some after => (unpackedLists n after).orElse (fun _ rest => .ok ((), rest))
              fun _ => .ok ((), rest)

/-- Arguments between commas, with what kinds they are and their number. -/
def argumentList : Nat → Bool → Seen → Input → Reading (Seen × Nat)
  | 0, _, _, ts => .error (.unexpected ts)
  | n + 1, advise, seen, ts =>
    (argument n advise seen ts).andThen fun seen rest =>
      match skip? "," rest with
      | none => .ok ((seen, 1), rest)
      | some after =>
        (argumentList n advise seen after).orElse
          (fun (seen, count) rest => .ok ((seen, count + 1), rest)) fun _ => .ok ((seen, 1), rest)

/-- An argument after others. Those without a name come first, and unpacked maps after unpacked
lists. -/
def argument : Nat → Bool → Seen → Input → Reading Seen
  | 0, _, _, ts => .error (.unexpected ts)
  | n + 1, advise, seen, ts =>
    let other (_ : Unit) : Reading Seen :=
      (expression n advise ((nameBefore? ":=" ts).getD ts)).andThen fun _ rest =>
        if rest = [] then .error (.unexpected [])
        else if advise && isNext ["="] rest then .error (.fault .assignedArgument)
        else if seen ≠ .positional || isNext ["=", ":="] rest then .error (.unexpected rest)
        else .ok (seen, rest)
    match skip? "*" ts, skip? "**" ts, nameBefore? "=" ts, constant? ts with
    | some rest, _, _, _ =>
      if seen = .unpacked then .error (.unexpected ts)
      else
        (expression n advise rest).orElse (fun _ rest => .ok (seen, rest))
          fun _ => .error (.fault .emptyStar)
    | none, some rest, _, _ =>
      (expression n advise rest).andThen fun _ rest => .ok (.unpacked, rest)
    | none, none, some rest, _ =>
      (expression n advise rest).andThen fun _ rest =>
        heed (if advise then report (clauses n advise rest) fun _ _ => some .singleEquals else none)
          fun _ => .ok (if seen = .positional then .named else seen, rest)
    | none, none, none, some (word, rest) =>
      if advise && isNext ["="] rest then .error (.fault (.assignedConstant word)) else other ()
    | none, none, none, none => other ()

/-- A single operand. -/
def atom : Nat → Bool → Input → Reading Expression
  | 0, _, ts => .error (.unexpected ts)
  | n + 1, advise, ts =>
    match ts with
    | ⟨.number imaginary digits, _, _⟩ :: rest =>
      if Text.maxDigits < digits then .error (.fault (.tooManyDigits digits))
      else .ok (.number imaginary, rest)
    | ⟨.quoted _ _, _, _⟩ :: _ => readQuoted ts
    | ts =>
      match name? ts, constant? ts, skip? "..." ts, skip? "(" ts, skip? openingBrace ts with
      | some (word, rest), _, _, _, _ => .ok (.name word, rest)
      | none, some (word, rest), _, _, _ => .ok (.constant word, rest)
      | none, none, some rest, _, _ => .ok (.dots, rest)
      | none, none, none, some rest, _ => parenthesised n advise rest
      | none, none, none, none, some rest => braced n advise rest
      | none, none, none, none, none => .error (.unexpected ts)

/-- The report on an unpacked list after an opening bracket, where it is not one of several. -/
def starred : Nat → Bool → Input → Option Stop
  | 0, _, _ => none
  | n + 1, advise, ts =>
    match skip? "*" ts with
    | none => none
    | some rest =>
      match expression n advise rest with
      | .error (.unexpected (_ :: _)) => some (.fault .emptyStar)
      | .error stop => some stop
      | .ok (_, rest) => report (clauses n advise rest) fun _ _ => some .starInComprehension

/-- What follows an opening parenthesis: a tuple, a generator, or an expression by itself. -/
def parenthesised : Nat → Bool → Input → Reading Expression
  | 0, _, ts => .error (.unexpected ts)
  | n + 1, advise, ts =>
    match skip? ")" ts, skip? "yield" ts with
    | some rest, _ => .ok (.tuple [], rest)
    | none, some rest =>
      (series n advise false ((skip? "from" rest).getD rest)).orElse
        (fun _ rest => skip ")" (.other "yield expression") rest)
        fun _ => skip ")" (.other "yield expression") rest
    | none, none =>
      let lone (rest : Input) : Reading Expression :=
        heed (if advise then loneStar n ts else none) fun _ => .error (.unexpected rest)
      (element n advise true ts).orElse
        (fun e rest =>
          match skip? "," rest with
          | some rest =>
            (series n advise true rest).orElse (fun es rest => skip ")" (.tuple (e :: es)) rest)
              fun _ => skip ")" (.tuple [e]) rest
          | none =>
            if isNext ["*"] ts then lone rest
            else
              (skip ")" e rest).orElse (fun e rest => .ok (e, rest)) fun _ =>
                (clauses n advise rest).andThen fun _ rest =>
                  skip ")" (.other "generator expression") rest)
        fun _ => lone ts

/-- The report on something unpacked that is alone in parentheses. -/
def loneStar : Nat → Input → Option Stop
  | 0, _ => none
  | n + 1, ts =>
    match skip? "*" ts, skip? "**" ts with
    | some rest, _ =>
      match expression n true rest with
      | .ok (_, rest) =>
        if isNext [")"] rest then some (.fault .loneStar) else starred n true ts
      | .error _ => starred n true ts
    | none, some rest =>
      report (expression n true rest) fun _ rest =>
        if isNext [")"] rest then some .loneDoubleStar else none
    | none, none => none

/-- An expression inside brackets, which may get a name. -/
def named : Nat → Bool → Input → Reading Expression
  | 0, _, ts => .error (.unexpected ts)
  | n + 1, advise, ts =>
    match nameBefore? ":=" ts with
    | some rest =>
      (expression n advise rest).andThen fun _ rest => .ok (.other "named expression", rest)
    | none =>
      (expression n advise ts).andThen fun e rest =>
        heed (if advise then misassigned n ts e rest else none) fun _ =>
          if isNext [":="] rest then .error (.unexpected rest) else .ok (e, rest)

/-- The report on an expression, from its start on, that a sign for assignments follows. -/
def misassigned : Nat → Input → Expression → Input → Option Stop
  | 0, _, _, _ => none
  | n + 1, ts, e, rest =>
    let compared (value : Input) (fault : Fault) : Option Stop :=
      report (arithmetic n true value) fun _ rest =>
        if isNext ["=", ":="] rest then none else some fault
    match skip? ":=" rest, skip? "=" rest, nameBefore? "=" ts with
    | some value, _, _ => report (expression n true value) fun _ _ => some (.namedExpression e.kind)
    | none, some _, some value => compared value .singleEquals
    | none, some _, none =>
      match atom n false ts, arithmetic n false ts with
      | .ok (.tuple _, _), _ | .ok (.constant _, _), _ => none
      | .ok (.other "generator expression", _), _ => none
      | _, .ok (target, after) =>
        (skip? "=" after).bind fun value => compared value (.assigned target.kind)
      | _, .error _ => none
    | none, none, _ => none

/-- What follows an opening brace: a map, a set, or a generator of one. -/
def braced : Nat → Bool → Input → Reading Expression
  | 0, _, ts => .error (.unexpected ts)
  | n + 1, advise, ts =>
    match skip? closingBrace ts, skip? "**" ts, skip? "*" ts, nameBefore? ":=" ts with
    | some rest, _, _, _ => .ok (.map [], rest)
    | none, some _, _, _ => (entry n advise false ts).andThen fun e rest => map n advise e rest
    | none, none, some _, _ =>
      ((element n advise true ts).andThen fun e rest => set n advise true e rest).orElse
        (fun e rest => .ok (e, rest)) fun _ =>
          heed (if advise then starred n advise ts else none) fun _ => .error (.unexpected ts)
    | none, none, none, some _ =>
      (named n advise ts).andThen fun e rest => set n advise false e rest
    | none, none, none, none =>
      (expression n advise ts).andThen fun e rest =>
        match skip? ":" rest with
        | some rest =>
          (entryValue n advise rest).andThen fun value rest => map n advise (some e, value) rest
        | none =>
          heed (if advise then misassigned n ts e rest else none) fun _ => set n advise false e rest

/-- The rest of a map after its first entry. -/
def map : Nat → Bool → Option Expression × Expression → Input → Reading Expression
  | 0, _, _, ts => .error (.unexpected ts)
  | n + 1, advise, e, ts =>
    let generator (_ : Unit) : Reading Expression :=
      (clauses n advise ts).andThen fun _ rest =>
        skip closingBrace (.other "dict comprehension") rest
    match skip? closingBrace ts, skip? "," ts with
    | some rest, _ => .ok (.map [e], rest)
    | none, some rest =>
      (entries n advise rest).orElse
        (fun es rest => skip closingBrace (.map (e :: es)) ((skip? "," rest).getD rest))
        fun _ => skip closingBrace (.map [e]) rest
    | none, none =>
      if e.1.isSome then generator ()
      else
        heed (if advise then
            report (generator ()) fun _ _ => some .doubleStarInComprehension
          else none)
          fun _ => .error (.unexpected ts)

/-- The rest of a set after its first element, which may be unpacked. -/
def set : Nat → Bool → Bool → Expression → Input → Reading Expression
  | 0, _, _, _, ts => .error (.unexpected ts)
  | n + 1, advise, isUnpacked, e, ts =>
    let bare (rest : Input) : Reading Expression :=
      heed (if advise then report (clauses n advise rest) fun _ _ => some .bareTarget else none)
        fun _ => .error (.unexpected rest)
    match skip? closingBrace ts, skip? "," ts with
    | some rest, _ => .ok (.set [e], rest)
    | none, some rest =>
      (series n advise true rest).orElse
        (fun es rest =>
          (skip closingBrace () rest).orElse (fun _ rest => .ok (.set (e :: es), rest))
            fun _ => bare rest)
        fun _ => (skip closingBrace () rest).orElse (fun _ rest => .ok (.set [e], rest))
          fun _ => bare rest
    | none, none =>
      (clauses n advise ts).andThen fun _ rest =>
        if isUnpacked then .error (if advise then .fault .starInComprehension else .unexpected rest)
        else skip closingBrace (.other "set comprehension") rest

/-- The entries of a map after a comma. -/
def entries : Nat → Bool → Input → Reading (List (Option Expression × Expression))
  | 0, _, ts => .error (.unexpected ts)
  | n + 1, advise, ts =>
    (entry n advise true ts).andThen fun e rest =>
      match skip? "," rest with
      | none => .ok ([e], rest)
      | some after =>
        (entries n advise after).orElse (fun es rest => .ok (e :: es, rest))
          fun _ => .ok ([e], rest)

/-- An entry of a map, which may be an unpacked map. After other entries, a key has to have a
colon. -/
def entry : Nat → Bool → Bool → Input → Reading (Option Expression × Expression)
  | 0, _, _, ts => .error (.unexpected ts)
  | n + 1, advise, isLater, ts =>
    match skip? "**" ts with
    | some rest => (arithmetic n advise rest).andThen fun e rest => .ok ((none, e), rest)
    | none =>
      (expression n advise ts).andThen fun key rest =>
        match skip? ":" rest, rest with
        | none, [] => .error (.unexpected [])
        | none, _ => .error (if isLater then .fault .missingColon else .unexpected rest)
        | some rest, _ =>
          (entryValue n advise rest).andThen fun value rest => .ok ((some key, value), rest)

/-- The value of an entry, after its colon. -/
def entryValue : Nat → Bool → Input → Reading Expression
  | 0, _, ts => .error (.unexpected ts)
  | n + 1, advise, ts =>
    match skip? "*" ts with
    | some rest =>
      heed (report (arithmetic n advise rest) fun _ _ => some .starredValue) fun _ =>
        .error (.unexpected ts)
    | none =>
      if isNext [closingBrace, ","] ts then .error (.fault .missingValue)
      else expression n advise ts

/-- The clauses of a generator: what its elements are taken from, and conditions on them. -/
def clauses : Nat → Bool → Input → Reading Unit
  | 0, _, ts => .error (.unexpected ts)
  | n + 1, advise, ts =>
    (skip "for" () ((skip? "async" ts).getD ts)).andThen fun _ rest =>
      let refuse (targets : List Expression) : Reading Unit :=
        heed (if advise then
            report (series n true false rest) fun es _ =>
              (fixedTarget? (targets ++ es)).map .fixedTarget
          else none)
          fun _ => .error (.unexpected rest)
      (targets n advise rest).orElse
        (fun es after =>
          match fixedTarget? es, skip? "in" after with
          | none, some rest =>
            (disjunction n advise rest).andThen fun _ rest =>
              (conditions n advise rest).andThen fun _ rest =>
                (clauses n advise rest).orElse (fun _ rest => .ok ((), rest))
                  fun _ => .ok ((), rest)
          | _, _ => refuse es)
        fun _ => refuse []

/-- The conditions of a generator. -/
def conditions : Nat → Bool → Input → Reading Unit
  | 0, _, ts => .error (.unexpected ts)
  | n + 1, advise, ts =>
    match skip? "if" ts with
    | none => .ok ((), ts)
    | some rest =>
      (disjunction n advise rest).orElse (fun _ rest => conditions n advise rest)
        fun _ => .ok ((), ts)

/-- What takes the elements of a generator. -/
def targets : Nat → Bool → Input → Reading (List Expression)
  | 0, _, ts => .error (.unexpected ts)
  | n + 1, advise, ts =>
    (arithmetic n advise ((skip? "*" ts).getD ts)).andThen fun e rest =>
      match skip? "," rest with
      | none => .ok ([e], rest)
      | some rest =>
        (targets n advise rest).orElse (fun es rest => .ok (e :: es, rest)) fun _ => .ok ([e], rest)

end

/-- Expressions between commas, and perhaps a last comma. The fuel counts them. -/
def unbracketed (advise : Bool) : Nat → Input → Reading (List Expression)
  | 0, ts => .error (.unexpected ts)
  | fuel + 1, ts =>
    (expression (20 * ts.length + 20) advise ts).andThen fun e rest =>
      match skip? "," rest with
      | none => .ok ([e], rest)
      | some rest =>
        (unbracketed advise fuel rest).orElse (fun es rest => .ok (e :: es, rest))
          fun _ => .ok ([e], rest)

/-- A whole expression, which may be a tuple without parentheses. Nothing but line ends may follow
it. -/
def whole (advise : Bool) (ts : Input) : Reading Expression :=
  (expression (20 * ts.length + 20) advise ts).andThen fun e rest =>
    let finish (e : Expression) (rest : Input) : Reading Expression :=
      match rest.dropWhile (·.token = .lineEnd) with
      | [⟨.finish, _, _⟩] => .ok (e, [])
      | rest => .error (.unexpected rest)
    match skip? "," rest with
    | none => finish e rest
    | some rest =>
      (unbracketed advise ts.length rest).orElse (fun es rest => finish (.tuple (e :: es)) rest)
        fun _ => finish (.tuple [e]) rest

/-- The fault at tokens that cannot stand where they stand, given what ends the tokens. A bracket on
an earlier line that is never closed is the likelier fault. -/
def faultAt (ending : Lexer.Ending) (ts : Input) : Fault :=
  match ts, ending with
  | [], .backslash => .afterBackslash
  | [], .brackets ((opening, _) :: _) => .openBracket opening
  | t :: _, .brackets ((opening, line) :: _) =>
    if line < t.line then .openBracket opening else .unexpected
  | t :: _, _ => if t.token = .indent then .indented else .unexpected
  | [], .brackets [] => .unexpected

end Reader

open Reader in
/-- Reads an expression. -/
def read (t : Text) : Except Fault Expression :=
  if t.contains '\x00' then .error .nullCharacter
  else
    match Lexer.tokens t with
    | .error fault => .error fault
    | .ok (ts, ending) =>
      match whole false ts with
      | .ok (e, _) => .ok e
      | .error (.fault fault) => .error fault
      | .error (.unexpected []) => .error (faultAt ending [])
      | .error (.unexpected _) =>
        match whole true ts with
        | .ok (e, _) => .ok e
        | .error (.fault fault) => .error fault
        | .error (.unexpected rest) => .error (faultAt ending rest)

end CompileFlags.Expression
