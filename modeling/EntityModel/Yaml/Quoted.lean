import EntityModel.Yaml.Cursor
import EntityModel.Json.Reader

/-!
# Quoted scalars

The text between quotes. Between single quotes a quote is written twice and everything else stands
for itself; between double quotes a backslash starts an escape. A line that ends inside the quotes
becomes a space, and empty lines become line feeds.
-/

namespace EntityModel.Yaml

/-- The character for which a single letter after the backslash stands. -/
def escaped? : Char → Option Char
  | '0' => some '\x00'
  | 'a' => some '\x07'
  | 'b' => some '\x08'
  | 't' => some '\t'
  | '\t' => some '\t'
  | 'n' => some '\n'
  | 'v' => some '\x0b'
  | 'f' => some '\x0c'
  | 'r' => some '\r'
  | 'e' => some '\x1b'
  | ' ' => some ' '
  | '"' => some '"'
  | '\\' => some '\\'
  | '/' => some '/'
  | 'N' => some '\x85'
  | '_' => some '\xa0'
  | 'L' => some '\u2028'
  | 'P' => some '\u2029'
  | _ => none

/-- The number of hexadecimal digits that follow a letter after the backslash. -/
def escapeWidth? : Char → Option Nat
  | 'x' => some 2
  | 'u' => some 4
  | 'U' => some 8
  | _ => none

/-- The number that so many hexadecimal digits write, and the place after them. -/
def hexNumber? (width : Nat) (p : Cursor) : Option (Nat × Cursor) := do
  let digits ← (p.rest.take width).mapM Json.hexValue?
  if digits.length = width then
    return (digits.foldl (fun n d => 16 * n + d) 0, p.advance width)
  else none

/-- The second half of a surrogate pair, if an escape at the place writes one. -/
def secondHalf? (p : Cursor) : Option (Nat × Cursor) := do
  if p.peek == '\\' then
    let width ← escapeWidth? (p.peekAt 1)
    hexNumber? width (p.advance 2)
  else none

/-- The character with a number; the two halves of a surrogate pair make one character. -/
def codePoint (code : Nat) (p : Cursor) : Reading (List Char × Cursor) :=
  if 0x7FFFFFFF < code then noValue (.outOfRange "Python int too large to convert to C int")
  else if 0x10FFFF < code then noValue (.refused .codePoint)
  else match secondHalf? p with
    | some (second, q) => match Json.joinSurrogates? code second with
      | some joined => .ok ([Char.ofNat joined], q)
      | none => .ok ([Char.ofNat code], p)
    | none => .ok ([Char.ofNat code], p)

/-- The line ends from a place on, white space around them skipped. No document may start or end
there. -/
def quotedBreaks : Nat → Cursor → Reading (List Char × Cursor)
  | 0, _ => malformed
  | fuel + 1, p => do
    if p.atDocumentMark then malformed
    else
      let p := p.skip isSpace
      match p.lineBreak? with
      | none => return ([], p)
      | some (c, p) =>
        let (more, p) ← quotedBreaks fuel p
        return (c :: more, p)

/-- What an escape stands for; the place is after the backslash. -/
def readEscape (p : Cursor) : Reading (List Char × Cursor) :=
  match escaped? p.peek, escapeWidth? p.peek, p.lineBreak? with
  | some c, _, _ => .ok ([c], p.next)
  | none, some width, _ => match hexNumber? width p.next with
    | some (code, p) => codePoint code p
    | none => malformed
  | none, none, some (_, p) => quotedBreaks (p.rest.length + 1) p
  | none, none, none => malformed

/-- What white space inside quotes stands for: itself within a line, else the lines that end. -/
def readGap (p : Cursor) : Reading (List Char × Cursor) := do
  let (spaces, p) := p.span isSpace
  match p.lineBreak? with
  | none => if p.peek == endMark then malformed else return (spaces, p)
  | some (c, p) =>
    let (breaks, p) ← quotedBreaks (p.rest.length + 1) p
    if c != '\n' then return (c :: breaks, p)
    else return (if breaks.isEmpty then [' '] else breaks, p)

/-- The text up to the closing quote, and the place after the quote. -/
def readQuoted (quote : Char) : Nat → Cursor → Reading (List Char × Cursor)
  | 0, _ => malformed
  | fuel + 1, p => do
    let c := p.peek
    if c == quote && !(quote == '\'' && p.peekAt 1 == '\'') then return ([], p.next)
    else
      let (part, p) ←
        if c == quote then pure ([quote], p.advance 2)
        else if c == '\\' && quote == '"' then readEscape p.next
        else if isGap c then readGap p
        else pure ([c], p.next)
      let (more, p) ← readQuoted quote fuel p
      return (part ++ more, p)

/-- The text of a quoted scalar, and the place after it; the place is at the opening quote. -/
def quotedScalar (p : Cursor) : Reading (String × Cursor) := do
  let (text, q) ← readQuoted p.peek (p.rest.length + 1) p.next
  return (String.ofList text, q)

end EntityModel.Yaml
