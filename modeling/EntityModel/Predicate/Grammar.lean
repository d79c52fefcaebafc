import EntityModel.Predicate.Tree

/-!
# Expressions of predicate code

The grammar of expressions, read by descent over the tokens. A reader answers the node that it
read, where the last token that it took stops, and the tokens that are left, or nothing where the
tokens do not fit. The readers go by an amount of fuel; the length of the code bounds it, as each
level of nesting takes at least one token.
-/

namespace EntityModel.Predicate

/-- What a reader read. -/
structure Reading where
  node : Node
  stop : Nat
  rest : List Token

/-! ### Steps on tokens -/

def startsMark (text : String) : List Token → Bool
  | t :: _ => t.isMark text
  | [] => false

def startsWord (text : String) : List Token → Bool
  | t :: _ => t.isWord text
  | [] => false

/-- A mark that has to come next, and what follows it. -/
def mark? (text : String) : List Token → Option (Token × List Token)
  | t :: rest => if t.isMark text then some (t, rest) else none
  | [] => none

/-- A keyword that has to come next, and what follows it. -/
def word? (text : String) : List Token → Option (Token × List Token)
  | t :: rest => if t.isWord text then some (t, rest) else none
  | [] => none

/-- A name that has to come next, and what follows it. -/
def name? : List Token → Option (Token × List Token)
  | t :: rest => if t.kind = .name then some (t, rest) else none
  | [] => none

def startOf : List Token → Nat
  | t :: _ => t.start
  | [] => 0

def leaf (form : Form) (t : Token) (rest : List Token) : Reading :=
  ⟨.node form t.text t.start t.stop [], t.stop, rest⟩

/-- Whether the tokens can only follow a complete list of expressions. -/
def endsList : List Token → Bool
  | [] => true
  | t :: _ =>
    t.kind == .lineEnd ||
      [")", "]", "\x7d", "=", ":", ";"].any t.isMark

/-! ### Operators -/

/-- The marks of the operators between two operands, from the loosest to the tightest. -/
def binaryMarks : List (List String) :=
  [["|"], ["^"], ["&"], ["<<", ">>"], ["+", "-"], ["*", "/", "//", "%", "@"]]

def comparison? : List Token → Option (List Char × List Token)
  | s :: t :: rest =>
    if s.isWord "not" && t.isWord "in" then some ("not in".toList, rest)
    else if s.isWord "is" && t.isWord "not" then some ("is not".toList, rest)
    else if s.isWord "in" || s.isWord "is" ||
        ["==", "!=", "<", "<=", ">", ">="].any s.isMark then some (s.text, t :: rest)
    else none
  | _ => none

/-! ### Targets -/

mutual

/-- Whether an expression can be assigned to. -/
def Node.isTarget : Node → Bool
  | .node form _ _ _ parts => match form with
    | .name | .attribute | .subscript => true
    | .tuple | .list => areTargets parts
    | .spread => areTargets parts
    | _ => false
termination_by structural n => n

/-- Whether expressions can be assigned to. -/
def areTargets : List Node → Bool
  | [] => true
  | n :: ns => n.isTarget && areTargets ns
termination_by structural ns => ns

end

/-! ### Strings -/

mutual

/-- The fields of a piece of a formatted string, with those of their formats. -/
def Piece.fields : Piece → List (Nat × List Char)
  | .literal _ => []
  | .field start expression format => (start, expression) :: fieldsOf format
termination_by structural p => p

def fieldsOf : List Piece → List (Nat × List Char)
  | [] => []
  | p :: ps => p.fields ++ fieldsOf ps
termination_by structural ps => ps

end

/-- A string token's part of the string that it belongs to. -/
structure StringPart where
  isBytes : Bool
  isFormatted : Bool
  /-- the text, or the code of a formatted string -/
  text : List Char
  fields : List (Nat × List Char)

def StringPart.ofToken? (t : Token) : Option StringPart := do
  let literal ← StringLiteral.ofToken? t.text
  if literal.mark.isFormatted then
    let fields := fieldsOf (← literal.pieces?)
    return ⟨false, true, t.text, fields.map fun (start, expression) =>
      (t.start + literal.offset + start, expression)⟩
  else return ⟨literal.mark.isBytes, false, ← literal.text?, []⟩

def Token.moved (by_ : Nat) (t : Token) : Token :=
  { t with start := t.start + by_, stop := t.stop + by_ }

/-! ### Parameters -/

/-- What has come before in a list of parameters. -/
structure ParameterState where
  hasDefault : Bool := false
  hasSlash : Bool := false
  hasStar : Bool := false
  /-- whether a name has to come next -/
  needsName : Bool := false
  /-- whether nothing may come next -/
  isClosed : Bool := false

def ParameterState.form (s : ParameterState) : Form :=
  if s.hasStar then .keywordOnly else .positional

def markPositionalOnly (parameters : List Node) : List Node :=
  parameters.map fun p => .node .positionalOnly p.word p.start p.stop p.parts

/-- The forms of arguments that have come before in a call, as far as they limit what may come. -/
inductive ArgumentPhase where
  | anything
  /-- no plain argument after a named one -/
  | named
  /-- only named arguments and mappings after a mapping -/
  | mapped
  deriving DecidableEq

/-- The node of a display: its parts between brackets. -/
def display (form : Form) (opening closing : Token) (parts : List Node) (rest : List Token) :
    Reading :=
  ⟨.node form [] opening.start closing.stop parts, closing.stop, rest⟩

/-! ### Expressions -/

mutual

/-- An expression: a lambda expression, or a choice or anything tighter. -/
def expression? : Nat → List Token → Option Reading
  | 0, _ => none
  | n + 1, ts =>
    if startsWord "lambda" ts then lambda? n ts
    else do
      let yes ← disjunction? n ts
      if startsWord "if" yes.rest then
        let (_, rest) ← word? "if" yes.rest
        let test ← disjunction? n rest
        let (_, rest) ← word? "else" test.rest
        let no ← expression? n rest
        return ⟨.node .conditional [] (startOf ts) no.stop [yes.node, test.node, no.node],
          no.stop, no.rest⟩
      else return yes
termination_by structural n => n

def lambda? : Nat → List Token → Option Reading
  | 0, _ => none
  | n + 1, ts => do
    let (word, rest) ← word? "lambda" ts
    let (parameters, rest) ← parameters? n false {} [] rest
    let (_, rest) ← mark? ":" rest
    let body ← expression? n rest
    return ⟨.node .lambda [] word.start body.stop
      [.node .parameters [] word.start word.stop parameters, body.node], body.stop, body.rest⟩
termination_by structural n => n

/-- Parameters up to the mark that ends them; with annotations they stand in parentheses. -/
def parameters? : Nat → (isAnnotated : Bool) → ParameterState → List Node → List Token →
    Option (List Node × List Token)
  | 0, _, _, _, _ => none
  | n + 1, isAnnotated, s, before, ts =>
    if startsMark (if isAnnotated then ")" else ":") ts then
      if s.needsName then none else some (before, ts)
    else if s.isClosed then none
    else do
      let (before, s, rest) ←
        if startsMark "/" ts then
          if s.hasSlash || s.hasStar || before.isEmpty then none
          else some (markPositionalOnly before, { s with hasSlash := true }, ts.tail)
        else if startsMark "*" ts then
          if s.hasStar then none
          else if startsMark "," ts.tail then
            some (before, { s with hasStar := true, needsName := true }, ts.tail)
          else do
            let (name, rest) ← name? ts.tail
            let rest ← annotation? n isAnnotated rest
            some (before ++ [.node .gathered name.text name.start name.stop []],
              { s with hasStar := true }, rest)
        else if startsMark "**" ts then
          if s.needsName then none
          else do
            let (name, rest) ← name? ts.tail
            let rest ← annotation? n isAnnotated rest
            some (before ++ [.node .gatheredNamed name.text name.start name.stop []],
              { s with isClosed := true }, rest)
        else do
          let (name, rest) ← name? ts
          let rest ← annotation? n isAnnotated rest
          if startsMark "=" rest then
            let default ← expression? n rest.tail
            some (before ++ [.node s.form name.text name.start name.stop [default.node]],
              { s with hasDefault := true, needsName := false }, default.rest)
          else if s.hasDefault && !s.hasStar then none
          else some (before ++ [.node s.form name.text name.start name.stop []],
            { s with needsName := false }, rest)
      if startsMark "," rest then parameters? n isAnnotated s before rest.tail
      else if s.needsName then none
      else if startsMark (if isAnnotated then ")" else ":") rest then some (before, rest)
      else none
termination_by structural n => n

def annotation? : Nat → (isAnnotated : Bool) → List Token → Option (List Token)
  | 0, _, _ => none
  | n + 1, isAnnotated, ts =>
    if isAnnotated && startsMark ":" ts then
      (starExpression? n ts.tail).map fun annotation => annotation.rest
    else some ts
termination_by structural n => n

def disjunction? : Nat → List Token → Option Reading
  | 0, _ => none
  | n + 1, ts => do
    let first ← conjunction? n ts
    if startsWord "or" first.rest then
      let (others, stop, rest) ← disjuncts? n first.rest
      return ⟨.node .boolean "or".toList (startOf ts) stop (first.node :: others), stop, rest⟩
    else return first
termination_by structural n => n

/-- The alternatives after the first one. -/
def disjuncts? : Nat → List Token → Option (List Node × Nat × List Token)
  | 0, _ => none
  | n + 1, ts => do
    let next ← conjunction? n ts.tail
    if startsWord "or" next.rest then
      let (others, stop, rest) ← disjuncts? n next.rest
      return (next.node :: others, stop, rest)
    else return ([next.node], next.stop, next.rest)
termination_by structural n => n

def conjunction? : Nat → List Token → Option Reading
  | 0, _ => none
  | n + 1, ts => do
    let first ← inversion? n ts
    if startsWord "and" first.rest then
      let (others, stop, rest) ← conjuncts? n first.rest
      return ⟨.node .boolean "and".toList (startOf ts) stop (first.node :: others), stop, rest⟩
    else return first
termination_by structural n => n

/-- The conditions after the first one. -/
def conjuncts? : Nat → List Token → Option (List Node × Nat × List Token)
  | 0, _ => none
  | n + 1, ts => do
    let next ← inversion? n ts.tail
    if startsWord "and" next.rest then
      let (others, stop, rest) ← conjuncts? n next.rest
      return (next.node :: others, stop, rest)
    else return ([next.node], next.stop, next.rest)
termination_by structural n => n

/-- A condition that may be negated. -/
def inversion? : Nat → List Token → Option Reading
  | 0, _ => none
  | n + 1, ts =>
    if startsWord "not" ts then do
      let operand ← inversion? n ts.tail
      return ⟨.node .unary "not".toList (startOf ts) operand.stop [operand.node], operand.stop,
        operand.rest⟩
    else do
      let first ← binary? n binaryMarks ts
      match comparison? first.rest with
      | none => return first
      | some _ =>
        let (others, stop, rest) ← comparisons? n first.rest
        return ⟨.node .comparison [] (startOf ts) stop (first.node :: others), stop, rest⟩
termination_by structural n => n

/-- The operators and operands of a comparison after its first operand. -/
def comparisons? : Nat → List Token → Option (List Node × Nat × List Token)
  | 0, _ => none
  | n + 1, ts => do
    let (op, rest) ← comparison? ts
    let next ← binary? n binaryMarks rest
    let operator := Node.node .operator op (startOf ts) (startOf ts) []
    match comparison? next.rest with
    | none => return ([operator, next.node], next.stop, next.rest)
    | some _ =>
      let (others, stop, rest) ← comparisons? n next.rest
      return (operator :: next.node :: others, stop, rest)
termination_by structural n => n

/-- Operands joined by operators as loose as the first of the given levels, or tighter. -/
def binary? : Nat → List (List String) → List Token → Option Reading
  | 0, _, _ => none
  | n + 1, [], ts => factor? n ts
  | n + 1, level :: tighter, ts => do
    binaryRest? n level tighter (startOf ts) (← binary? n tighter ts)
termination_by structural n => n

/-- The operands after the first one. -/
def binaryRest? : Nat → List String → List (List String) → Nat → Reading → Option Reading
  | 0, _, _, _, _ => none
  | n + 1, level, tighter, start, left => match left.rest with
    | [] => some left
    | t :: rest =>
      if level.any t.isMark then do
        let right ← binary? n tighter rest
        binaryRest? n level tighter start
          ⟨.node .binary t.text start right.stop [left.node, right.node], right.stop, right.rest⟩
      else some left
termination_by structural n => n

/-- An operand with a sign, or a power. -/
def factor? : Nat → List Token → Option Reading
  | 0, _ => none
  | n + 1, ts => match ts with
    | [] => none
    | t :: rest =>
      if ["+", "-", "~"].any t.isMark then do
        let operand ← factor? n rest
        return ⟨.node .unary t.text t.start operand.stop [operand.node], operand.stop, operand.rest⟩
      else do
        let base ← awaited? n ts
        if startsMark "**" base.rest then
          let exponent ← factor? n base.rest.tail
          return ⟨.node .binary "**".toList t.start exponent.stop [base.node, exponent.node],
            exponent.stop, exponent.rest⟩
        else return base
termination_by structural n => n

def awaited? : Nat → List Token → Option Reading
  | 0, _ => none
  | n + 1, ts =>
    if startsWord "await" ts then do
      let operand ← primary? n ts.tail
      return ⟨.node .awaited [] (startOf ts) operand.stop [operand.node],
        operand.stop, operand.rest⟩
    else primary? n ts
termination_by structural n => n

/-- An atom with what follows it: attributes, calls and subscripts. -/
def primary? : Nat → List Token → Option Reading
  | 0, _ => none
  | n + 1, ts => do trailers? n (startOf ts) (← atom? n ts)
termination_by structural n => n

/-- The attributes, calls and subscripts after an operand. -/
def trailers? : Nat → Nat → Reading → Option Reading
  | 0, _, _ => none
  | n + 1, start, left => match left.rest with
    | [] => some left
    | t :: rest =>
      if t.isMark "." then do
        let (name, rest) ← name? rest
        trailers? n start
          ⟨.node .attribute name.text start name.stop [left.node], name.stop, rest⟩
      else if t.isMark "(" then do
        let (arguments, closing, rest) ← arguments? n t .anything [] rest
        trailers? n start
          ⟨.node .call [] start closing.stop (left.node :: arguments), closing.stop, rest⟩
      else if t.isMark "[" then do
        let index ← subscripts? n rest
        let (closing, rest) ← mark? "]" index.rest
        trailers? n start
          ⟨.node .subscript [] start closing.stop [left.node, index.node], closing.stop, rest⟩
      else some left
termination_by structural n => n

/-- The arguments of a call up to its closing parenthesis. -/
def arguments? : Nat → (opening : Token) → ArgumentPhase → List Node → List Token →
    Option (List Node × Token × List Token)
  | 0, _, _, _, _ => none
  | n + 1, opening, phase, before, ts =>
    if startsMark ")" ts then do
      let (closing, rest) ← mark? ")" ts
      return (before, closing, rest)
    else do
      let (argument, phase) ←
        if startsMark "*" ts then
          if phase = .mapped then none
          else do
            let operand ← expression? n ts.tail
            some ((⟨.node .spread [] (startOf ts) operand.stop [operand.node], operand.stop,
              operand.rest⟩ : Reading), phase)
        else if startsMark "**" ts then do
          let operand ← expression? n ts.tail
          some (⟨.node .doubleSpread [] (startOf ts) operand.stop [operand.node], operand.stop,
            operand.rest⟩, .mapped)
        else if (name? ts).isSome && startsMark "=" ts.tail then do
          let (name, rest) ← name? ts
          let value ← expression? n rest.tail
          some (⟨.node .named name.text name.start value.stop [value.node], value.stop,
            value.rest⟩, if phase = .mapped then .mapped else .named)
        else if phase = .anything then do
          let value ← named? n ts
          if startsMark "=" value.rest || startsMark ":=" value.rest then none
          else some (value, .anything)
        else none
      if startsMark "," argument.rest then
        arguments? n opening phase (before ++ [argument.node]) argument.rest.tail
      else if startsMark ")" argument.rest then do
        let (closing, rest) ← mark? ")" argument.rest
        return (before ++ [argument.node], closing, rest)
      else if before.isEmpty && phase = .anything && argument.node.form != .spread then do
        let (clauses, rest) ← clauses? n argument.rest
        let (closing, rest) ← mark? ")" rest
        return ([.node .generator [] opening.start closing.stop (argument.node :: clauses)],
          closing, rest)
      else none
termination_by structural n => n

/-- An expression that may be given a name. -/
def named? : Nat → List Token → Option Reading
  | 0, _ => none
  | n + 1, ts =>
    if (name? ts).isSome && startsMark ":=" ts.tail then do
      let (name, rest) ← name? ts
      let value ← expression? n rest.tail
      return ⟨.node .assigned name.text name.start value.stop [value.node], value.stop, value.rest⟩
    else do
      let value ← expression? n ts
      if startsMark ":=" value.rest then none else return value
termination_by structural n => n

/-- What stands between the brackets of a subscript. -/
def subscripts? : Nat → List Token → Option Reading
  | 0, _ => none
  | n + 1, ts => do
    let first ← subscript? n ts
    if startsMark "," first.rest then
      let (others, stop, rest) ← subscriptRest? n first.rest
      return ⟨.node .tuple [] (startOf ts) stop (first.node :: others), stop, rest⟩
    else if first.node.form = .spread then
      return ⟨.node .tuple [] (startOf ts) first.stop [first.node], first.stop, first.rest⟩
    else return first
termination_by structural n => n

def subscriptRest? : Nat → List Token → Option (List Node × Nat × List Token)
  | 0, _ => none
  | n + 1, ts => do
    let (comma, rest) ← mark? "," ts
    if startsMark "]" rest then return ([], comma.stop, rest)
    else
      let next ← subscript? n rest
      if startsMark "," next.rest then
        let (others, stop, rest) ← subscriptRest? n next.rest
        return (next.node :: others, stop, rest)
      else return ([next.node], next.stop, next.rest)
termination_by structural n => n

/-- One subscript: a spread, a slice or an expression that may be given a name. -/
def subscript? : Nat → List Token → Option Reading
  | 0, _ => none
  | n + 1, ts =>
    if startsMark "*" ts then do
      let operand ← expression? n ts.tail
      return ⟨.node .spread [] (startOf ts) operand.stop [operand.node], operand.stop, operand.rest⟩
    else do
      let first ←
        if startsMark ":" ts then some (⟨.absent, startOf ts, ts⟩ : Reading) else named? n ts
      match first.rest with
      | t :: rest =>
        if t.isMark ":" && !((name? ts).isSome && startsMark ":=" ts.tail) then
          let last ← bound? n t.stop rest
          match last.rest with
          | u :: rest =>
            if u.isMark ":" then
              let step ← bound? n u.stop rest
              return ⟨.node .slice [] (startOf ts) step.stop [first.node, last.node, step.node],
                step.stop, step.rest⟩
            else return ⟨.node .slice [] (startOf ts) last.stop [first.node, last.node], last.stop,
              last.rest⟩
          | [] => none
        else return first
      | [] => none
termination_by structural n => n

/-- A bound of a slice, which may be left out; the place is that of the colon before it. -/
def bound? : Nat → Nat → List Token → Option Reading
  | 0, _, _ => none
  | n + 1, stop, ts =>
    if startsMark ":" ts || startsMark "]" ts || startsMark "," ts then some ⟨.absent, stop, ts⟩
    else expression? n ts
termination_by structural n => n

def atom? : Nat → List Token → Option Reading
  | 0, _ => none
  | n + 1, ts => match ts with
    | [] => none
    | t :: rest => match t.kind with
      | .name => some (leaf .name t rest)
      | .number => some (leaf .number t rest)
      | .keyword =>
        if ["None", "True", "False"].any t.isWord then some (leaf .constant t rest) else none
      | .string => string? n ts
      | .mark =>
        if t.isMark "..." then some (leaf .constant t rest)
        else if t.isMark "(" then parenthesized? n t rest
        else if t.isMark "[" then bracketed? n t rest
        else if t.isMark "\x7b" then braced? n t rest
        else none
      | _ => none
termination_by structural n => n

/-- Strings that stand side by side. -/
def string? : Nat → List Token → Option Reading
  | 0, _ => none
  | n + 1, ts => do
    let tokens := ts.takeWhile (·.kind == .string)
    let parts ← tokens.mapM StringPart.ofToken?
    let last ← tokens.getLast?
    let rest := ts.drop tokens.length
    if parts.any (·.isBytes) && !parts.all (·.isBytes) then none
    else
      let fields ← fields? n (parts.flatMap (·.fields))
      let form := if parts.any (·.isFormatted) then Form.formatted
        else if parts.any (·.isBytes) then .bytes else .string
      return ⟨.node form (parts.flatMap (·.text)) (startOf ts) last.stop fields, last.stop, rest⟩
termination_by structural n => n

/-- The expressions of the fields of a formatted string. -/
def fields? : Nat → List (Nat × List Char) → Option (List Node)
  | 0, _ => none
  | _, [] => some []
  | n + 1, (start, code) :: others => do
    let tokens ← Token.ofCode? ('(' :: code ++ [')'])
    let field ← atom? n (tokens.map (Token.moved (start - 1)))
    if field.rest.all (·.kind == .lineEnd) then
      return field.node :: (← fields? n others)
    else none
termination_by structural n => n

/-- What stands in parentheses: a grouped expression, a tuple or a generator. -/
def parenthesized? : Nat → Token → List Token → Option Reading
  | 0, _, _ => none
  | n + 1, opening, ts =>
    if startsMark ")" ts then do
      let (closing, rest) ← mark? ")" ts
      return display .tuple opening closing [] rest
    else if startsWord "yield" ts then do
      let inner ← yielded? n ts
      let (closing, rest) ← mark? ")" inner.rest
      return ⟨inner.node, closing.stop, rest⟩
    else do
      let first ← item? n ts
      if startsMark "," first.rest then
        let (others, rest) ← items? n ")" first.rest
        let (closing, rest) ← mark? ")" rest
        return display .tuple opening closing (first.node :: others) rest
      else if first.node.form = .spread then none
      else if startsMark ")" first.rest then
        let (closing, rest) ← mark? ")" first.rest
        return ⟨first.node, closing.stop, rest⟩
      else
        let (clauses, rest) ← clauses? n first.rest
        let (closing, rest) ← mark? ")" rest
        return display .generator opening closing (first.node :: clauses) rest
termination_by structural n => n

/-- What stands in brackets: a list, or a list made by clauses. -/
def bracketed? : Nat → Token → List Token → Option Reading
  | 0, _, _ => none
  | n + 1, opening, ts =>
    if startsMark "]" ts then do
      let (closing, rest) ← mark? "]" ts
      return display .list opening closing [] rest
    else do
      let first ← item? n ts
      if startsMark "," first.rest || startsMark "]" first.rest then
        let (others, rest) ← items? n "]" first.rest
        let (closing, rest) ← mark? "]" rest
        return display .list opening closing (first.node :: others) rest
      else if first.node.form = .spread then none
      else
        let (clauses, rest) ← clauses? n first.rest
        let (closing, rest) ← mark? "]" rest
        return display .listOf opening closing (first.node :: clauses) rest
termination_by structural n => n

/-- What stands in braces: a set or a mapping, or one made by clauses. -/
def braced? : Nat → Token → List Token → Option Reading
  | 0, _, _ => none
  | n + 1, opening, ts =>
    if startsMark "\x7d" ts then do
      let (closing, rest) ← mark? "\x7d" ts
      return display .mapping opening closing [] rest
    else if startsMark "**" ts then do
      let first ← pair? n ts
      let (others, rest) ← pairs? n first.rest
      let (closing, rest) ← mark? "\x7d" rest
      return display .mapping opening closing (first.node :: others) rest
    else do
      let first ← item? n ts
      if startsMark ":" first.rest then
        let first ← pair? n ts
        if startsMark "," first.rest || startsMark "\x7d" first.rest then
          let (others, rest) ← pairs? n first.rest
          let (closing, rest) ← mark? "\x7d" rest
          return display .mapping opening closing (first.node :: others) rest
        else
          let (clauses, rest) ← clauses? n first.rest
          let (closing, rest) ← mark? "\x7d" rest
          return display .mappingOf opening closing (first.node :: clauses) rest
      else if startsMark "," first.rest || startsMark "\x7d" first.rest then
        let (others, rest) ← items? n "\x7d" first.rest
        let (closing, rest) ← mark? "\x7d" rest
        return display .set opening closing (first.node :: others) rest
      else if first.node.form = .spread then none
      else
        let (clauses, rest) ← clauses? n first.rest
        let (closing, rest) ← mark? "\x7d" rest
        return display .setOf opening closing (first.node :: clauses) rest
termination_by structural n => n

/-- An item of a display: a spread, or an expression that may be given a name. -/
def item? : Nat → List Token → Option Reading
  | 0, _ => none
  | n + 1, ts =>
    if startsMark "*" ts then do
      let operand ← binary? n binaryMarks ts.tail
      return ⟨.node .spread [] (startOf ts) operand.stop [operand.node], operand.stop, operand.rest⟩
    else named? n ts
termination_by structural n => n

/-- The items of a display after the first one, up to the mark that closes it. -/
def items? : Nat → (closing : String) → List Token → Option (List Node × List Token)
  | 0, _, _ => none
  | n + 1, closing, ts =>
    if startsMark "," ts then
      if startsMark closing ts.tail then some ([], ts.tail)
      else do
        let next ← item? n ts.tail
        let (others, rest) ← items? n closing next.rest
        return (next.node :: others, rest)
    else some ([], ts)
termination_by structural n => n

/-- An entry of a mapping display. -/
def pair? : Nat → List Token → Option Reading
  | 0, _ => none
  | n + 1, ts =>
    if startsMark "**" ts then do
      let operand ← binary? n binaryMarks ts.tail
      return ⟨.node .doubleSpread [] (startOf ts) operand.stop [operand.node], operand.stop,
        operand.rest⟩
    else do
      let key ← expression? n ts
      let (_, rest) ← mark? ":" key.rest
      let value ← expression? n rest
      return ⟨.node .pair [] (startOf ts) value.stop [key.node, value.node], value.stop, value.rest⟩
termination_by structural n => n

/-- The entries of a mapping display after the first one, up to the closing brace. -/
def pairs? : Nat → List Token → Option (List Node × List Token)
  | 0, _ => none
  | n + 1, ts =>
    if startsMark "," ts then
      if startsMark "\x7d" ts.tail then some ([], ts.tail)
      else do
        let next ← pair? n ts.tail
        let (others, rest) ← pairs? n next.rest
        return (next.node :: others, rest)
    else some ([], ts)
termination_by structural n => n

/-- The clauses of a display that is made by them; there is at least one. -/
def clauses? : Nat → List Token → Option (List Node × List Token)
  | 0, _ => none
  | n + 1, ts => do
    let first ← clause? n ts
    if startsWord "for" first.rest ||
        (startsWord "async" first.rest && startsWord "for" first.rest.tail) then
      let (others, rest) ← clauses? n first.rest
      return (first.node :: others, rest)
    else return ([first.node], first.rest)
termination_by structural n => n

/-- A clause: a target, what it runs over, and conditions. -/
def clause? : Nat → List Token → Option Reading
  | 0, _ => none
  | n + 1, ts => do
    let isAsync := startsWord "async" ts
    let (_, rest) ← word? "for" (if isAsync then ts.tail else ts)
    let target ← targets? n rest
    let (_, rest) ← word? "in" target.rest
    let source ← disjunction? n rest
    let (conditions, stop, rest) ← conditions? n source.stop source.rest
    return ⟨.node .clause (if isAsync then "async".toList else []) (startOf ts) stop
      (target.node :: source.node :: conditions), stop, rest⟩
termination_by structural n => n

def conditions? : Nat → Nat → List Token → Option (List Node × Nat × List Token)
  | 0, _, _ => none
  | n + 1, stop, ts =>
    if startsWord "if" ts then do
      let first ← disjunction? n ts.tail
      let (others, stop, rest) ← conditions? n first.stop first.rest
      return (first.node :: others, stop, rest)
    else some ([], stop, ts)
termination_by structural n => n

/-- Targets, joined to a tuple by commas. -/
def targets? : Nat → List Token → Option Reading
  | 0, _ => none
  | n + 1, ts => do
    let first ← target? n ts
    if startsMark "," first.rest then
      let (others, stop, rest) ← targetRest? n first.rest
      return ⟨.node .tuple [] (startOf ts) stop (first.node :: others), stop, rest⟩
    else return first
termination_by structural n => n

def targetRest? : Nat → List Token → Option (List Node × Nat × List Token)
  | 0, _ => none
  | n + 1, ts => do
    let (comma, rest) ← mark? "," ts
    match target? n rest with
    | none => return ([], comma.stop, rest)
    | some next =>
      if startsMark "," next.rest then
        let (others, stop, rest) ← targetRest? n next.rest
        return (next.node :: others, stop, rest)
      else return ([next.node], next.stop, next.rest)
termination_by structural n => n

def target? : Nat → List Token → Option Reading
  | 0, _ => none
  | n + 1, ts =>
    if startsMark "*" ts then do
      let operand ← primary? n ts.tail
      if operand.node.isTarget then
        return ⟨.node .spread [] (startOf ts) operand.stop [operand.node],
          operand.stop, operand.rest⟩
      else none
    else do
      let operand ← primary? n ts
      if operand.node.isTarget then return operand else none
termination_by structural n => n

def starExpression? : Nat → List Token → Option Reading
  | 0, _ => none
  | n + 1, ts =>
    if startsMark "*" ts then do
      let operand ← binary? n binaryMarks ts.tail
      return ⟨.node .spread [] (startOf ts) operand.stop [operand.node], operand.stop, operand.rest⟩
    else expression? n ts
termination_by structural n => n

/-- Expressions, joined to a tuple by commas. -/
def starExpressions? : Nat → List Token → Option Reading
  | 0, _ => none
  | n + 1, ts => do
    let first ← starExpression? n ts
    if startsMark "," first.rest then
      let (others, stop, rest) ← starExpressionRest? n first.rest
      return ⟨.node .tuple [] (startOf ts) stop (first.node :: others), stop, rest⟩
    else return first
termination_by structural n => n

def starExpressionRest? : Nat → List Token → Option (List Node × Nat × List Token)
  | 0, _ => none
  | n + 1, ts => do
    let (comma, rest) ← mark? "," ts
    if endsList rest then return ([], comma.stop, rest)
    else
      let next ← starExpression? n rest
      if startsMark "," next.rest then
        let (others, stop, rest) ← starExpressionRest? n next.rest
        return (next.node :: others, stop, rest)
      else return ([next.node], next.stop, next.rest)
termination_by structural n => n

def yielded? : Nat → List Token → Option Reading
  | 0, _ => none
  | n + 1, ts => do
    let (word, rest) ← word? "yield" ts
    if startsWord "from" rest then
      let source ← expression? n rest.tail
      return ⟨.node .yieldedFrom [] word.start source.stop [source.node], source.stop, source.rest⟩
    else if endsList rest then return ⟨.node .yielded [] word.start word.stop [], word.stop, rest⟩
    else
      let value ← starExpressions? n rest
      return ⟨.node .yielded [] word.start value.stop [value.node], value.stop, value.rest⟩
termination_by structural n => n

end

/-! ### Whole pieces of code -/

/-- Enough fuel for code of a length: no token is read through more than so many levels. -/
def fuelFor (length : Nat) : Nat := 24 * (length + 2)

/-- The lambda expression that code consists of. -/
def Node.ofLambda? (code : List Char) : Option Node := do
  let reading ← lambda? (fuelFor code.length) (← Token.ofCode? code)
  if reading.rest.all (·.kind == .lineEnd) then return reading.node else none

end EntityModel.Predicate
