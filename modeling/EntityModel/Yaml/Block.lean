import EntityModel.Yaml.Cursor

/-!
# Block scalars

A scalar of whole lines, introduced by `|` or `>`. The first keeps its line ends; the second joins
lines that start with no space. What follows the last line is kept, reduced to one line end or
dropped, as the header says.
-/

namespace EntityModel.Yaml

/-- What becomes of the line ends after the last line. -/
inductive Chomping where
  | clip | keep | strip
  deriving DecidableEq, Repr

/-- What the header of a block scalar says. -/
structure BlockHeader where
  chomping : Chomping
  /-- the indentation of the lines beyond that of the block around them, where it is given -/
  increment : Option Nat
  deriving Repr

namespace BlockHeader

/-- The sign for what becomes of the last line ends, if there is one. -/
def readChomping (p : Cursor) : Option Chomping × Cursor :=
  if p.peek == '+' then (some .keep, p.next)
  else if p.peek == '-' then (some .strip, p.next)
  else (none, p)

/-- The digit for the indentation, if there is one; it is not zero. -/
def readIncrement? (p : Cursor) : Option (Option Nat × Cursor) :=
  let c := p.peek
  if c == '0' then none
  else if c.isDigit then some (some (c.toNat - 0x30), p.next)
  else some (none, p)

/-- The header, the sign and the digit in either order, and the place after its line. -/
def read? (p : Cursor) : Option (BlockHeader × Cursor) := do
  let (first, p) := readChomping p
  let (increment, p) ← readIncrement? p
  let (second, p) :=
    if first.isNone && increment.isSome then readChomping p else (none, p)
  if isWordEnd p.peek then
    return (⟨(first <|> second).getD .clip, increment⟩, ← p.endOfLine?)
  else none

end BlockHeader

/-- The empty lines before the first line of a block scalar, the deepest indentation among them, and
the place after them. -/
def leadingLines : Nat → (deepest : Nat) → Cursor → List Char × Nat × Cursor
  | 0, deepest, p => ([], deepest, p)
  | fuel + 1, deepest, p =>
    if p.peek == ' ' then leadingLines fuel (max deepest p.next.column) p.next
    else match p.lineBreak? with
      | none => ([], deepest, p)
      | some (c, p) =>
        let (more, deepest, p) := leadingLines fuel deepest p
        (c :: more, deepest, p)

/-- The place after the spaces, up to a column. -/
def toColumn (column : Nat) (p : Cursor) : Cursor :=
  p.advance ((p.rest.take (column - p.column)).takeWhile (· == ' ')).length

/-- The empty lines from a place on, and the place after them and after the indentation. -/
def emptyLines (indent : Nat) : Nat → Cursor → List Char × Cursor
  | 0, p => ([], p)
  | fuel + 1, p =>
    let p := toColumn indent p
    match p.lineBreak? with
    | none => ([], p)
    | some (c, p) =>
      let (more, p) := emptyLines indent fuel p
      (c :: more, p)

/-- The lines of a block scalar, the end of the last line, the empty lines after it, and the place
after them. -/
structure BlockBody where
  text : List Char
  lastBreak : List Char
  emptyAfter : List Char
  after : Cursor
  deriving Repr

/-- The lines at an indentation, after some empty ones. -/
def blockLines (folded : Bool) (indent : Nat) : Nat → (before : List Char) → Cursor → BlockBody
  | 0, before, p => ⟨[], [], before, p⟩
  | fuel + 1, before, p =>
    if p.column != indent || p.peek == endMark then ⟨[], [], before, p⟩
    else
      let (line, q) := p.span (!isLineEnd ·)
      let (lineEnd, q) := match q.lineBreak? with
        | some (c, q) => ([c], q)
        | none => ([], q)
      let (breaks, q) := emptyLines indent (q.rest.length + 1) q
      if q.column == indent && q.peek != endMark then
        let joined := folded && lineEnd == ['\n'] && !isSpace p.peek && !isSpace q.peek
        let glue := if !joined then lineEnd else if breaks.isEmpty then [' '] else []
        let body := blockLines folded indent fuel breaks q
        { body with text := before ++ line ++ glue ++ body.text }
      else ⟨before ++ line, lineEnd, breaks, q⟩

/-- The text of a block scalar, and the place after it; the place is at the sign that introduces it.
Its lines stand at the given column or beyond. -/
def blockScalar (outerIndent : Nat) (p : Cursor) : Reading (String × Cursor) := do
  let some (header, q) := BlockHeader.read? p.next | malformed
  let fuel := q.rest.length + 1
  let least := max 1 outerIndent
  let (indent, before, q) := match header.increment with
    | none =>
      let (before, deepest, q) := leadingLines fuel 0 q
      (max least deepest, before, q)
    | some increment =>
      let indent := least + increment - 1
      let (before, q) := emptyLines indent fuel q
      (indent, before, q)
  let body := blockLines (p.peek == '>') indent fuel before q
  let ending := match header.chomping with
    | .clip => body.lastBreak
    | .keep => body.lastBreak ++ body.emptyAfter
    | .strip => []
  return (String.ofList (body.text ++ ending), body.after)

end EntityModel.Yaml
