import EntityModel.Predicate.Literal
import EntityModel.Text.PrintableTable

/-!
# Tokens of predicate code

Predicates are written in Python, as lambda expressions or as functions in a block of code. This
module takes such code apart into tokens. The end of a line is a token unless a bracket is open or
the line is blank, and so are the steps by which lines are indented more or less than those before.
-/

namespace EntityModel.Predicate

/-- The kinds of tokens. -/
inductive TokenKind where
  | name
  | keyword
  | number
  | string
  | mark
  | lineEnd
  | indent
  | dedent
  deriving DecidableEq, Repr

/-- A token and where it stands. -/
structure Token where
  kind : TokenKind
  text : List Char
  start : Nat
  stop : Nat
  deriving DecidableEq, Repr

namespace Token

/-- The words that cannot be names. -/
def keywords : List (List Char) :=
  ["False", "None", "True", "and", "as", "assert", "async", "await", "break", "class", "continue",
    "def", "del", "elif", "else", "except", "finally", "for", "from", "global", "if", "import",
    "in", "is", "lambda", "nonlocal", "not", "or", "pass", "raise", "return", "try", "while",
    "with", "yield"].map String.toList

/-- The marks of several characters, longer ones first. -/
def longMarks : List (List Char) :=
  ["**=", "//=", ">>=", "<<=", "...", "!=", "%=", "&=", "**", "*=", "+=", "-=", "->", "//", "/=",
    ":=", "<<", "<=", "<>", "==", ">=", ">>", "@=", "^=", "|="].map String.toList

/-- Whether a token is a mark of the given text. -/
def isMark (t : Token) (text : String) : Bool := t.kind == .mark && t.text == text.toList

/-- Whether a token is a keyword of the given text. -/
def isWord (t : Token) (text : String) : Bool := t.kind == .keyword && t.text == text.toList

/-- Whether a token is a name of the given text. -/
def isName (t : Token) (text : String) : Bool := t.kind == .name && t.text == text.toList

end Token

/-! ### Scanning -/

/-- The width of a line's indentation, counted with tabs that reach to the next multiple of eight
and with tabs that count as one. -/
structure Indentation where
  wide : Nat := 0
  narrow : Nat := 0
  deriving DecidableEq, Repr

/-- What a scanner remembers. -/
structure ScanState where
  /-- open brackets, innermost first -/
  opened : List Char := []
  /-- the indentations of the blocks that are open, innermost first; the outermost is not among
  them -/
  blocks : List Indentation := []
  /-- whether the next character begins a line -/
  atLineStart : Bool := true

namespace ScanState

def current (s : ScanState) : Indentation := s.blocks.headD {}

end ScanState

/-- The end of a line, which may be written in three ways, and the number of its characters. -/
def lineBreak? : List Char → Option (Nat × List Char)
  | '\r' :: '\n' :: rest => some (2, rest)
  | '\n' :: rest => some (1, rest)
  | '\r' :: rest => some (1, rest)
  | _ => none

def isLineBreak (c : Char) : Bool := c == '\n' || c == '\r'

/-- The indentation at the start of a line, and what follows it. A backslash at the end of a line
carries the indentation over to the next one. -/
def measure? : Nat → Indentation → (kept : Option Indentation) → List Char →
    Option (Indentation × List Char)
  | 0, i, kept, cs => some (kept.getD i, cs)
  | n + 1, i, kept, cs => match cs with
    | ' ' :: rest => measure? n ⟨i.wide + 1, i.narrow + 1⟩ kept rest
    | '\t' :: rest => measure? n ⟨(i.wide / 8 + 1) * 8, i.narrow + 1⟩ kept rest
    | '\x0c' :: rest => measure? n {} kept rest
    | '\\' :: rest => match lineBreak? rest with
      | some (_, []) => none
      | some (_, rest) =>
        let kept := match kept with
          | some k => if k.wide = 0 then i else k
          | none => i
        measure? n i (some kept) rest
      | none => none
    | rest =>
      let k := kept.getD i
      some (if k.wide = 0 then i else k, rest)

/-- The blocks that stay open before a line that is indented less, and how many are closed. -/
def closeBlocks? (i : Indentation) : List Indentation → Option (Nat × List Indentation)
  | [] => if i.wide = 0 && i.narrow = 0 then some (0, []) else none
  | block :: outer =>
    if i.wide < block.wide then do
      let (n, open_) ← closeBlocks? i outer
      return (n + 1, open_)
    else if i = block then some (0, block :: outer)
    else none

/-- The kinds of the tokens by which a line's indentation differs from that of the line before, and
the blocks that are then open. -/
def stepTo? (i : Indentation) (s : ScanState) : Option (List TokenKind × List Indentation) :=
  if i = s.current then some ([], s.blocks)
  else if s.current.wide < i.wide then
    if s.current.narrow < i.narrow then some ([.indent], i :: s.blocks) else none
  else do
    let (n, blocks) ← closeBlocks? i s.blocks
    if n = 0 then none else return (List.replicate n .dedent, blocks)

/-- What follows an opening or a closing bracket of the state; other characters leave it as it
is. -/
def bracket? (c : Char) (s : ScanState) : Option ScanState :=
  if c == '(' || c == '[' || c == '\x7b' then
    if 200 ≤ s.opened.length then none else some { s with opened := c :: s.opened }
  else if c == ')' || c == ']' || c == '\x7d' then
    match s.opened with
    | opening :: opened => if closes opening c then some { s with opened } else none
    | [] => none
  else some s

/-- The kind of the token that starts with these characters, and what follows it. -/
def scanToken? (cs : List Char) : Option (TokenKind × List Char) :=
  match cs with
  | [] => none
  | c :: rest =>
    if c.isDigit || (c == '.' && (rest.headD ' ').isDigit) then
      (afterNumber? cs).map fun after => (.number, after)
    else if isWordChar c then
      let word := cs.takeWhile isWordChar
      let after := cs.drop word.length
      if (after.headD ' ' == '\'' || after.headD ' ' == '"') && (stringPrefix? word).isSome then
        (afterString? after).map fun after => (.string, after)
      else if word.all (·.toNat < 0x80) || isIdentifier word then
        some (if Token.keywords.contains word then .keyword else .name, after)
      else none
    else if c == '\'' || c == '"' then (afterString? cs).map fun after => (.string, after)
    else match Token.longMarks.find? (·.isPrefixOf cs) with
      | some mark => some (.mark, cs.drop mark.length)
      | none => if Text.isPrintable c then some (.mark, rest) else none

def tokensAt (position : Nat) (kinds : List TokenKind) : List Token :=
  kinds.map fun kind => ⟨kind, [], position, position⟩

/-- The tokens of code, given the position at which it starts and whether the line has had a token
already. The scanner goes by an amount of fuel that the number of characters bounds. -/
def scan? : Nat → (position : Nat) → ScanState → (isLineBegun : Bool) → List Char →
    Option (List Token)
  | 0, _, _, _, _ => none
  | n + 1, position, s, isLineBegun, cs =>
    if s.atLineStart && s.opened.isEmpty then do
      let (i, rest) ← measure? (cs.length + 1) {} none cs
      let position := position + (cs.length - rest.length)
      match rest with
      | [] => return tokensAt position (List.replicate s.blocks.length .dedent)
      | c :: _ =>
        if c == '#' || isLineBreak c then
          let after := rest.dropWhile (!isLineBreak ·)
          let position := position + (rest.length - after.length)
          match lineBreak? after with
          | some (width, after) => scan? n (position + width) s false after
          | none => return tokensAt position (List.replicate s.blocks.length .dedent)
        else
          let (kinds, blocks) ← stepTo? i s
          return tokensAt position kinds ++
            (← scan? n position { s with blocks, atLineStart := false } false rest)
    else match cs with
      | [] =>
        if !s.opened.isEmpty then none
        else some (tokensAt position
          ((if isLineBegun then [TokenKind.lineEnd] else []) ++
            List.replicate s.blocks.length .dedent))
      | c :: rest =>
        if c == ' ' || c == '\t' || c == '\x0c' then scan? n (position + 1) s isLineBegun rest
        else if c == '#' then
          let after := rest.dropWhile (!isLineBreak ·)
          scan? n (position + (cs.length - after.length)) s isLineBegun after
        else match lineBreak? cs with
          | some (width, after) =>
            if s.opened.isEmpty then do
              return ⟨.lineEnd, [], position, position + width⟩ ::
                (← scan? n (position + width) { s with atLineStart := true } false after)
            else scan? n (position + width) s isLineBegun after
          | none =>
            if c == '\\' then match lineBreak? rest with
              | some (_, []) => none
              | some (width, after) => scan? n (position + 1 + width) s isLineBegun after
              | none => none
            else do
              let (kind, after) ← scanToken? cs
              let width := cs.length - after.length
              let s ← if kind = .mark then bracket? c s else some s
              return ⟨kind, cs.take width, position, position + width⟩ ::
                (← scan? n (position + width) s true after)

/-- The tokens of code, or nothing where it cannot be taken apart. -/
def Token.ofCode? (code : List Char) : Option (List Token) :=
  if code.contains '\x00' then none else scan? (2 * code.length + 2) 0 {} false code

end EntityModel.Predicate
