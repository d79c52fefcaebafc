import EntityModel.Fault

/-!
# Places in a YAML text

A cursor is a place in a text: what is left of the text, and the number of characters, lines and
columns before it. The end of the text shows as the character NUL, which no readable text holds.
-/

namespace EntityModel.Yaml

/-! ### Defects -/

/-- Why a text has no value. -/
inductive Defect where
  /-- the text does not follow the format, or uses a part of it that is not supported -/
  | malformed
  /-- a scalar writes a value that does not exist -/
  | noValue (fault : Fault)
  deriving Repr

/-- A part of a text that was read, or the defect that was met. -/
abbrev Reading := Except Defect

/-- The outcome for a text that does not follow the format. -/
def malformed {α : Type} : Reading α := .error .malformed

/-- The outcome for a value that does not exist. -/
def noValue {α : Type} (fault : Fault) : Reading α := .error (.noValue fault)

/-! ### Characters -/

def endMark : Char := '\x00'

/-- The marks that separate the parts of a bracketed collection. -/
def isBracketMark (c : Char) : Bool :=
  c == ',' || c == '[' || c == ']' || c == '\x7b' || c == '\x7d'

/-- Whether a character ends a line. -/
def isBreak (c : Char) : Bool :=
  c == '\n' || c == '\r' || c == '\x85' || c == '\u2028' || c == '\u2029'

def isLineEnd (c : Char) : Bool := c == endMark || isBreak c

/-- Whether a word stops at a character that is not a tab. -/
def isWordEnd (c : Char) : Bool := c == ' ' || isLineEnd c

/-- Whether a word stops at a character. -/
def isGap (c : Char) : Bool := c == '\t' || isWordEnd c

def isSpace (c : Char) : Bool := c == ' ' || c == '\t'

/-- Whether a text may hold a character. -/
def isReadable (c : Char) : Bool :=
  let n := c.toNat
  n == 0x09 || n == 0x0A || n == 0x0D || (0x20 ≤ n && n ≤ 0x7E) || n == 0x85 ||
    (0xA0 ≤ n && n ≤ 0xD7FF) || (0xE000 ≤ n && n ≤ 0xFFFD) || 0x10000 ≤ n

/-! ### Cursors -/

/-- A place in a text. -/
structure Cursor where
  rest : List Char
  index : Nat := 0
  line : Nat := 0
  column : Nat := 0
  deriving Repr

namespace Cursor

def peek (p : Cursor) : Char := p.rest.headD endMark

/-- The character some places further on. -/
def peekAt (p : Cursor) (n : Nat) : Char := (p.rest.drop n).headD endMark

/-- The place after one character. A byte order mark takes no column, and a line feed belongs to the
carriage return before it. -/
def next (p : Cursor) : Cursor :=
  match p.rest with
  | [] => p
  | c :: rest =>
    if isBreak c && !(c == '\r' && rest.headD endMark == '\n') then
      ⟨rest, p.index + 1, p.line + 1, 0⟩
    else if c == '\ufeff' then ⟨rest, p.index + 1, p.line, p.column⟩
    else ⟨rest, p.index + 1, p.line, p.column + 1⟩

/-- The place after some characters. -/
def advance (p : Cursor) : Nat → Cursor
  | 0 => p
  | n + 1 => p.next.advance n

/-- The characters as long as they are of a class, and the place after them. -/
def span (p : Cursor) (inClass : Char → Bool) : List Char × Cursor :=
  let taken := p.rest.takeWhile inClass
  (taken, p.advance taken.length)

/-- The place after the characters of a class. -/
def skip (p : Cursor) (inClass : Char → Bool) : Cursor := (p.span inClass).2

/-- The end of a line, if the place is one, and the place after it. Most ways to end a line amount
to a line feed. -/
def lineBreak? (p : Cursor) : Option (Char × Cursor) :=
  let c := p.peek
  if !isBreak c then none
  else if c == '\u2028' || c == '\u2029' then some (c, p.next)
  else if c == '\r' && p.peekAt 1 == '\n' then some ('\n', p.advance 2)
  else some ('\n', p.next)

/-- Whether one of the given words stands at the place, alone. -/
def atMark (p : Cursor) (c : Char) : Bool :=
  p.rest.take 3 == [c, c, c] && isGap (p.peekAt 3)

/-- Whether a line starts with the mark that opens or closes a document. -/
def atDocumentMark (p : Cursor) : Bool := p.atMark '-' || p.atMark '.'

/-- The place after the rest of a line on which nothing may stand but a comment. -/
def endOfLine? (p : Cursor) : Option Cursor :=
  let p := p.skip (· == ' ')
  let p := if p.peek == '#' then p.skip (!isLineEnd ·) else p
  if isLineEnd p.peek then some ((p.lineBreak?.map (·.2)).getD p) else none

end Cursor

end EntityModel.Yaml
