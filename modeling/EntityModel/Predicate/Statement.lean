import EntityModel.Predicate.Grammar

/-!
# Statements of predicate code

The grammar of statements, on top of that of expressions. A block is the list of its statements; the
place of a statement runs from its first token to its last one, where the decorators before a
definition stand outside of it. The headers of `with` statements and of the cases of a selection are
skipped but for the names that they bind.
-/

namespace EntityModel.Predicate

/-! ### Steps on tokens -/

def fuelOn (ts : List Token) : Nat := fuelFor ((ts.getLast?.map (·.stop)).getD 0)

def startsKind (kind : TokenKind) : List Token → Bool
  | t :: _ => t.kind == kind
  | [] => false

def startsName (text : String) : List Token → Bool
  | t :: _ => t.isName text
  | [] => false

/-- The end of a statement's line, and what follows it. -/
def lineEnd? : List Token → Option (List Token)
  | t :: rest => if t.kind = .lineEnd then some rest else none
  | [] => some []

def endsSimple : List Token → Bool
  | [] => true
  | t :: _ => t.kind == .lineEnd || t.isMark ";"

/-- The tokens up to the colon that ends a header, and what follows the colon. -/
def header? : (depth : Nat) → List Token → Option (List Token × List Token)
  | _, [] => none
  | depth, t :: rest =>
    if t.kind == .lineEnd then none
    else if depth = 0 && t.isMark ":" then some ([], rest)
    else
      let deeper := ["(", "[", "\x7b"].any t.isMark
      let higher := [")", "]", "\x7d"].any t.isMark
      let depth := if deeper then depth + 1 else if higher then depth - 1 else depth
      (header? depth rest).map fun (before, after) => (t :: before, after)

def namesBound : List Token → List Node
  | s :: t :: rest =>
    if s.isWord "as" && t.kind == .name then
      .node .name t.text t.start t.stop [] :: namesBound rest
    else namesBound (t :: rest)
  | _ => []

/-- A name with points in it, where it stops, and what follows it. -/
def dottedName? : Nat → List Token → Option (List Char × Nat × List Token)
  | 0, _ => none
  | n + 1, ts => do
    let (t, rest) ← name? ts
    if startsMark "." rest then
      let (more, stop, rest) ← dottedName? n rest.tail
      return (t.text ++ '.' :: more, stop, rest)
    else return (t.text, t.stop, rest)

/-- An imported name and the name that it gets, as its only part if there is one. -/
def alias? (n : Nat) (ts : List Token) : Option Reading := do
  let (name, stop, rest) ← dottedName? n ts
  if startsWord "as" rest then
    let (t, rest) ← name? rest.tail
    return ⟨.node .alias name (startOf ts) t.stop
      [.node .name t.text t.start t.stop []], t.stop, rest⟩
  else return ⟨.node .alias name (startOf ts) stop [], stop, rest⟩

/-- Imported names between commas; a comma may end them where they stand in parentheses. -/
def aliases? (isGrouped : Bool) : Nat → List Token → Option (List Node × Nat × List Token)
  | 0, _ => none
  | n + 1, ts => do
    let first ← alias? (n + 1) ts
    if startsMark "," first.rest then
      if isGrouped && startsMark ")" first.rest.tail then
        return ([first.node], first.stop, first.rest.tail)
      else
        let (others, stop, rest) ← aliases? isGrouped n first.rest.tail
        return (first.node :: others, stop, rest)
    else return ([first.node], first.stop, first.rest)

/-! ### Simple statements -/

/-- The marks of assignments that combine the old value with another. -/
def augmentedMarks : List String :=
  ["+=", "-=", "*=", "/=", "//=", "%=", "@=", "&=", "|=", "^=", ">>=", "<<=", "**="]

/-- What may stand on the right of an assignment. -/
def assignable? (n : Nat) (ts : List Token) : Option Reading :=
  if startsWord "yield" ts then yielded? n ts else starExpressions? n ts

/-- The targets of an assignment after the first one, and its value. -/
def assigned? : Nat → List Token → Option (List Node × Nat × List Token)
  | 0, _ => none
  | n + 1, ts => do
    let next ← assignable? (fuelOn ts) ts.tail
    if startsMark "=" next.rest then
      let (others, stop, rest) ← assigned? n next.rest
      return (next.node :: others, stop, rest)
    else return ([next.node], next.stop, next.rest)

def assignment? (n : Nat) (ts : List Token) : Option Reading := do
  let first ← assignable? n ts
  let start := startOf ts
  match first.rest with
  | t :: rest =>
    if t.isMark "=" then
      let (others, stop, rest) ← assigned? (ts.length + 1) first.rest
      return ⟨.node .assignment [] start stop (first.node :: others), stop, rest⟩
    else if t.isMark ":" then
      let annotation ← expression? n rest
      if startsMark "=" annotation.rest then
        let value ← assignable? n annotation.rest.tail
        return ⟨.node .annotated [] start value.stop [first.node, annotation.node, value.node],
          value.stop, value.rest⟩
      else return ⟨.node .annotated [] start annotation.stop [first.node, annotation.node],
        annotation.stop, annotation.rest⟩
    else if augmentedMarks.any t.isMark then
      let value ← assignable? n rest
      return ⟨.node .augmented t.text start value.stop [first.node, value.node],
        value.stop, value.rest⟩
    else return ⟨.node .expression [] start first.stop [first.node], first.stop, first.rest⟩
  | [] => return ⟨.node .expression [] start first.stop [first.node], first.stop, []⟩

/-- A word with expressions after it, which may be left out. -/
def wordStatement? (n : Nat) (form : Form) (t : Token) (rest : List Token) : Option Reading :=
  if endsSimple rest then some (leaf form t rest)
  else do
    let value ← starExpressions? n rest
    return ⟨.node form t.text t.start value.stop [value.node], value.stop, value.rest⟩

def raised? (n : Nat) (t : Token) (rest : List Token) : Option Reading := do
  let e ← wordStatement? n .simple t rest
  if startsWord "from" e.rest then
    let cause ← expression? n e.rest.tail
    return ⟨.node .simple t.text t.start cause.stop (e.node.parts ++ [cause.node]), cause.stop,
      cause.rest⟩
  else return e

/-- An import of names from a module; relative modules are named without their points. -/
def importedFrom? (n : Nat) (t : Token) (rest : List Token) : Option Reading := do
  let rest := rest.dropWhile fun t => t.isMark "." || t.isMark "..."
  let (module, rest) ← if startsWord "import" rest then some ([], rest) else do
    let (module, _, rest) ← dottedName? n rest
    some (module, rest)
  let (_, rest) ← word? "import" rest
  let build (names : List Node) (stop : Nat) (rest : List Token) : Reading :=
    ⟨.node .importedFrom module t.start stop names, stop, rest⟩
  match rest with
  | u :: after =>
    if u.isMark "*" then some (build [] u.stop after)
    else if u.isMark "(" then
      let (names, _, after) ← aliases? true n after
      let (closing, after) ← mark? ")" after
      return build names closing.stop after
    else
      let (names, stop, after) ← aliases? false n rest
      return build names stop after
  | [] => none

def simple? (n : Nat) (ts : List Token) : Option Reading := do
  let t ← ts.head?
  let rest := ts.tail
  if t.isWord "pass" || t.isWord "break" || t.isWord "continue" then some (leaf .simple t rest)
  else if t.isWord "return" then wordStatement? n .returned t rest
  else if t.isWord "raise" then raised? n t rest
  else if ["del", "global", "nonlocal", "assert"].any t.isWord then wordStatement? n .simple t rest
  else if t.isWord "import" then
    let (names, stop, rest) ← aliases? false n rest
    return ⟨.node .imported [] t.start stop names, stop, rest⟩
  else if t.isWord "from" then importedFrom? n t rest
  else assignment? n ts

/-- Simple statements on one line, where the last one stops, and what follows the line. -/
def simpleLine? : Nat → List Token → Option (List Node × Nat × List Token)
  | 0, _ => none
  | n + 1, ts => do
    let first ← simple? (fuelOn ts) ts
    if startsMark ";" first.rest then
      match lineEnd? first.rest.tail with
      | some rest => return ([first.node], first.stop, rest)
      | none =>
        let (others, stop, rest) ← simpleLine? n first.rest.tail
        return (first.node :: others, stop, rest)
    else return ([first.node], first.stop, ← lineEnd? first.rest)

/-! ### Compound statements -/

def blockOf (statements : List Node) : Node :=
  .node .block [] ((statements.head?.map Node.start).getD 0)
    ((statements.getLast?.map Node.stop).getD 0) statements

/-- The node of a statement whose last part is a block, and what follows it. -/
def closing (form : Form) (word : List Char) (start : Nat) (parts : List Node) (last : Node)
    (rest : List Token) : Reading :=
  ⟨.node form word start last.stop (parts ++ [last]), last.stop, rest⟩

/-- The node of a statement with a block, other blocks and what stands before them. -/
def joined (form : Form) (start : Nat) (before : List Node) (block : Node) (others : List Node)
    (rest : List Token) : Reading :=
  let stop := (others.map Node.stop).foldl max block.stop
  ⟨.node form [] start stop (before ++ block :: others), stop, rest⟩

mutual

def statements? : Nat → List Token → Option (List Node × List Token)
  | 0, _ => none
  | n + 1, ts => match compound? n ts with
    | some r => some ([r.node], r.rest)
    | none => match simpleLine? (ts.length + 1) ts with
      | some (nodes, _, rest) => some (nodes, rest)
      | none => none

/-- The statements of a block, up to its end. -/
def body? : Nat → List Token → Option (List Node × List Token)
  | 0, _ => none
  | n + 1, ts => do
    let (first, rest) ← statements? n ts
    if rest.isEmpty || startsKind .dedent rest then return (first, rest)
    else
      let (others, rest) ← body? n rest
      return (first ++ others, rest)

/-- The block after a colon: indented lines, or what stands on the line. -/
def block? : Nat → List Token → Option (Node × List Token)
  | 0, _ => none
  | n + 1, ts =>
    if startsKind .lineEnd ts then
      if startsKind .indent ts.tail then do
        let (statements, rest) ← body? n ts.tail.tail
        return (blockOf statements, rest.tail)
      else none
    else do
      let (statements, _, rest) ← simpleLine? (ts.length + 1) ts
      return (blockOf statements, rest)

/-- The block after a word and a colon, or nothing where the word does not come. -/
def blockAfter? (word : String) : Nat → List Token → Option (List Node × List Token)
  | 0, _ => none
  | n + 1, ts =>
    if startsWord word ts then do
      let (_, rest) ← mark? ":" ts.tail
      let (block, rest) ← block? n rest
      return ([block], rest)
    else some ([.absent], ts)

def compound? : Nat → List Token → Option Reading
  | 0, _ => none
  | n + 1, ts => match ts with
    | [] => none
    | t :: rest =>
      if t.isWord "if" then branch? n t rest
      else if t.isWord "while" then do
        let test ← named? (fuelOn ts) rest
        let (_, rest) ← mark? ":" test.rest
        let (block, rest) ← block? n rest
        let (otherwise, rest) ← blockAfter? "else" n rest
        return joined .whileLoop t.start [test.node] block otherwise rest
      else if t.isWord "for" then loop? n t rest
      else if t.isWord "try" then do
        let (_, rest) ← mark? ":" rest
        let (block, rest) ← block? n rest
        let (handlers, rest) ← handlers? n rest
        let (otherwise, rest) ← blockAfter? "else" n rest
        let (finally_, rest) ← blockAfter? "finally" n rest
        return joined .attempt t.start [] block (handlers ++ otherwise ++ finally_) rest
      else if t.isWord "with" then do
        let (header, rest) ← header? 0 rest
        let (block, rest) ← block? n rest
        return closing .scoped [] t.start (namesBound header) block rest
      else if t.isWord "def" then definition? n t rest
      else if t.isWord "class" then class? n t rest
      else if t.isWord "async" then do
        let inner ← compound? n rest
        match inner.node with
        | .node form word _ stop parts =>
          let word := if form = .function then word else "async".toList
          let form := if form = .function then Form.function else form
          let parts := if form = .function then parts ++ [.absent] else parts
          return ⟨.node form word t.start stop parts, inner.stop, inner.rest⟩
      else if t.isMark "@" then do
        let decorator ← named? (fuelOn ts) rest
        let rest ← lineEnd? decorator.rest
        let inner ← compound? n rest
        let (before, definition) := match inner.node with
          | .node .decorated _ _ _ parts => (parts.dropLast, parts.getLast?.getD inner.node)
          | definition => ([], definition)
        return ⟨.node .decorated [] definition.start definition.stop
          (decorator.node :: before ++ [definition]), inner.stop, inner.rest⟩
      else if t.isName "match" then selection? n t rest
      else none

/-- A branch after its word; a branch that follows is the only statement of its other block. -/
def branch? : Nat → Token → List Token → Option Reading
  | 0, _, _ => none
  | n + 1, t, ts => do
    let test ← named? (fuelOn ts) ts
    let (_, rest) ← mark? ":" test.rest
    let (block, rest) ← block? n rest
    match rest with
    | u :: after =>
      if u.isWord "elif" then
        let other ← branch? n u after
        return joined .branch t.start [test.node] block [blockOf [other.node]] other.rest
      else
        let (otherwise, rest) ← blockAfter? "else" n rest
        return joined .branch t.start [test.node] block otherwise rest
    | [] => return joined .branch t.start [test.node] block [.absent] []

/-- A loop over items after its word. -/
def loop? : Nat → Token → List Token → Option Reading
  | 0, _, _ => none
  | n + 1, t, ts => do
    let fuel := fuelOn ts
    let target ← targets? fuel ts
    let (_, rest) ← word? "in" target.rest
    let source ← starExpressions? fuel rest
    let (_, rest) ← mark? ":" source.rest
    let (block, rest) ← block? n rest
    let (otherwise, rest) ← blockAfter? "else" n rest
    return joined .loop t.start [target.node, source.node] block otherwise rest

def handlers? : Nat → List Token → Option (List Node × List Token)
  | 0, _ => none
  | n + 1, ts => match ts with
    | [] => some ([], [])
    | t :: rest =>
      if t.isWord "except" then do
        let (header, rest) ← header? 0 rest
        let (block, rest) ← block? n rest
        let handler := closing .handler [] t.start (namesBound header) block rest
        let (others, rest) ← handlers? n rest
        return (handler.node :: others, rest)
      else some ([], ts)

/-- A definition of a function after its word. -/
def definition? : Nat → Token → List Token → Option Reading
  | 0, _, _ => none
  | n + 1, t, ts => do
    let fuel := fuelOn ts
    let (name, rest) ← name? ts
    let (opening, rest) ← mark? "(" rest
    let (parameters, rest) ← parameters? fuel true {} [] rest
    let (_, rest) ← mark? ")" rest
    let rest ← if startsMark "->" rest then do
      let annotation ← expression? fuel rest.tail
      some annotation.rest
    else some rest
    let (_, rest) ← mark? ":" rest
    let (block, rest) ← block? n rest
    return closing .function name.text t.start
      [.node .parameters [] opening.start opening.stop parameters] block rest

/-- A definition of a class after its word. -/
def class? : Nat → Token → List Token → Option Reading
  | 0, _, _ => none
  | n + 1, t, ts => do
    let (name, rest) ← name? ts
    let (bases, rest) ← if startsMark "(" rest then do
      let opening ← rest.head?
      let (bases, _, rest) ← arguments? (fuelOn ts) opening .anything [] rest.tail
      some (bases, rest)
    else some ([], rest)
    let (_, rest) ← mark? ":" rest
    let (block, rest) ← block? n rest
    return closing .classDefinition name.text t.start bases block rest

def selection? : Nat → Token → List Token → Option Reading
  | 0, _, _ => none
  | n + 1, t, ts => do
    let subject ← starExpressions? (fuelOn ts) ts
    let (_, rest) ← mark? ":" subject.rest
    if startsKind .lineEnd rest && startsKind .indent rest.tail &&
      startsName "case" rest.tail.tail then
      let (cases, rest) ← cases? n rest.tail.tail
      let stop := (cases.map Node.stop).foldl max 0
      return ⟨.node .selection [] t.start stop (subject.node :: cases), stop, rest.tail⟩
    else none

def cases? : Nat → List Token → Option (List Node × List Token)
  | 0, _ => none
  | n + 1, ts => match ts with
    | [] => some ([], [])
    | t :: rest =>
      if t.isName "case" then do
        let (header, rest) ← header? 0 rest
        let (block, rest) ← block? n rest
        let names := (header.filter (·.kind == .name)).map fun u =>
          Node.node .name u.text u.start u.stop []
        let one := closing .selected [] t.start names block rest
        let (others, rest) ← cases? n rest
        return (one.node :: others, rest)
      else some ([], ts)

end

def Node.ofCode? (code : List Char) : Option Node := do
  let tokens ← Token.ofCode? code
  if tokens.isEmpty then return blockOf []
  else
    let (statements, rest) ← body? (8 * (tokens.length + 2)) tokens
    if rest.isEmpty then return blockOf statements else none

end EntityModel.Predicate
