import EntityModel.Yaml.Cursor

/-!
# Plain scalars

A scalar without quotes. It runs to a colon before a gap, to a comment, to a mark of a bracketed
collection it stands in, or to a line that is not indented deeply enough; lines that continue it are
joined by spaces, and empty lines between them become line feeds.
-/

namespace EntityModel.Yaml

/-- The characters of a plain scalar up to a gap or its end. -/
def plainRun (inBrackets : Bool) : List Char → List Char
  | [] => []
  | c :: rest =>
    let next := rest.headD endMark
    if isGap c || (c == ':' && (isGap next || (inBrackets && isBracketMark next))) ||
        (inBrackets && (c == '?' || isBracketMark c)) then []
    else c :: plainRun inBrackets rest

/-- The line ends from a place on, spaces around them skipped; nothing when a document starts or
ends after one of them. -/
def plainBreaks : Nat → Cursor → Option (List Char) × Cursor
  | 0, p => (none, p)
  | fuel + 1, p =>
    if p.peek == ' ' then plainBreaks fuel p.next
    else match p.lineBreak? with
      | none => (some [], p)
      | some (c, p) =>
        if p.atDocumentMark then (none, p)
        else
          let (more, p) := plainBreaks fuel p
          (more.map (c :: ·), p)

/-- What stands for a gap inside a plain scalar, the place after the gap, and whether a line ended
in it. Nothing stands for the gap before the mark of a document. -/
def plainGap (p : Cursor) : List Char × Cursor × Bool :=
  let (spaces, p) := p.span (· == ' ')
  match p.lineBreak? with
  | none => (spaces, p, false)
  | some (c, p) =>
    if p.atDocumentMark then ([], p, true)
    else match plainBreaks (p.rest.length + 1) p with
      | (none, p) => ([], p, true)
      | (some breaks, p) =>
        if c != '\n' then (c :: breaks, p, true)
        else (if breaks.isEmpty then [' '] else breaks, p, true)

/-- The rest of a plain scalar after a gap, the place after it, and whether a line ended there. -/
def readPlain (inBrackets : Bool) (indent : Nat) :
    Nat → (gap : List Char) → (lineEnded : Bool) → Cursor → List Char × Cursor × Bool
  | 0, _, lineEnded, p => ([], p, lineEnded)
  | fuel + 1, gap, lineEnded, p =>
    let run := if p.peek == '#' then [] else plainRun inBrackets p.rest
    if run.isEmpty then ([], p, lineEnded)
    else
      let (nextGap, q, ended) := plainGap (p.advance run.length)
      if nextGap.isEmpty || q.peek == '#' || (!inBrackets && q.column < indent) then
        (gap ++ run, q, ended)
      else
        let (more, q, ended) := readPlain inBrackets indent fuel nextGap ended q
        (gap ++ run ++ more, q, ended)

/-- The text of a plain scalar, the place after it, and whether a line ended there. Lines that
continue it stand at the given column or beyond, outside of brackets. -/
def plainScalar (inBrackets : Bool) (indent : Nat) (p : Cursor) : String × Cursor × Bool :=
  let (text, q, ended) := readPlain inBrackets indent (p.rest.length + 1) [] false p
  (String.ofList text, q, ended)

end EntityModel.Yaml
