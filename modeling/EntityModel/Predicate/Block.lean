import EntityModel.Predicate.Token
import EntityModel.Text.IdentifierTable

/-!
# Blocks of code

Where the lines of a function stand in the code around it. The search starts at the line at which
the function starts and goes back to a line on which a function can start. From there the block of a
lambda expression goes to the end of its logical line; the block of a definition goes to the end of
the lines that are indented more than its first one.

A block may start in the middle of an expression, so brackets need not match here.
-/

namespace EntityModel.Predicate

/-! ### Lines of code -/

def codeLines (code : List Char) : List (List Char) :=
  match code with
  | [] => []
  | '\r' :: '\n' :: rest => ['\r', '\n'] :: codeLines rest
  | c :: rest =>
    if isLineBreak c then [c] :: codeLines rest
    else match codeLines rest with
      | [] => [[c]]
      | line :: lines => (c :: line) :: lines

/-- The number of the line on which a place stands, the first line being zero. -/
def lineOf (code : List Char) (place : Nat) : Nat :=
  ((codeLines (code.take place)).filter fun line => line.getLast?.any isLineBreak).length

def lineStart (code : List Char) (line : Nat) : Nat :=
  ((codeLines code).take line).flatten.length

/-- Whether a line has, after blanks, a word and then a blank. -/
def startsWithWord (word : String) (line : List Char) : Bool :=
  let body := line.dropWhile Text.isBlank
  word.toList.isPrefixOf body && Text.isBlank ((body.drop word.length).headD 'x')

/-- Whether the word for a lambda expression stands in a line, before a colon or a blank. -/
def hasLambda : (afterWord : Bool) → List Char → Bool
  | _, [] => false
  | afterWord, c :: rest =>
    let cs := c :: rest
    let next := (cs.drop 6).headD 'x'
    (!afterWord && "lambda".toList.isPrefixOf cs && (next == ':' || Text.isBlank next)) ||
      hasLambda (Text.isIdentifierPart c) rest

def canStart (line : List Char) : Bool :=
  startsWithWord "def" line ||
    (startsWithWord "async" line &&
      startsWithWord "def" ((line.dropWhile Text.isBlank).drop 5)) ||
    hasLambda false line ||
    (line.dropWhile Text.isBlank).headD 'x' == '@'

/-- The last line up to a given one on which a function can start, or the first line. -/
def startLine (lines : List (List Char)) : Nat → Nat
  | 0 => 0
  | n + 1 => if canStart (lines.getD (n + 1) []) then n + 1 else startLine lines n

/-! ### Marks of a block -/

/-- What matters for where a block ends. -/
inductive BlockMark where
  | opening (isLambda : Bool)
  | decorator
  | other
  /-- the end of a logical line, on a line of the block -/
  | lineEnd (line : Nat)
  | indent
  | dedent
  deriving DecidableEq, Repr

/-- What is remembered from mark to mark. -/
structure MarkState where
  line : Nat := 0
  /-- how many brackets are open, less than zero where some were opened before the block -/
  depth : Int := 0
  /-- the widths of the blocks that are open, the innermost first -/
  widths : List Nat := [0]
  atLineStart : Bool := true

/-- The width of a line's blanks, and what follows them. -/
def measureBlanks : Nat → List Char → Nat × List Char
  | w, ' ' :: rest => measureBlanks (w + 1) rest
  | w, '\t' :: rest => measureBlanks ((w / 8 + 1) * 8) rest
  | _, '\x0c' :: rest => measureBlanks 0 rest
  | w, rest => (w, rest)

/-- The marks at the start of a line of some width, and the blocks that are then open; nothing where
the width fits none of them. -/
def stepMarks? (width : Nat) (widths : List Nat) : Option (List BlockMark × List Nat) :=
  if widths.headD 0 < width then some ([.indent], width :: widths)
  else
    let kept := widths.dropWhile (width < ·)
    if kept.headD 0 = width then
      some (List.replicate (widths.length - kept.length) .dedent, kept)
    else none

def wordMark (word : List Char) : BlockMark :=
  if word = "lambda".toList then .opening true
  else if word = "def".toList || word = "class".toList then .opening false
  else .other

/-- The number of lines that end in characters. -/
def breaksIn (cs : List Char) : Nat := (codeLines cs).length - 1

def marks : Nat → MarkState → List Char → List BlockMark
  | 0, _, _ => []
  | n + 1, s, cs =>
    if s.atLineStart then
      let (width, rest) := measureBlanks 0 cs
      match rest with
      | [] => []
      | c :: _ =>
        if c == '#' || isLineBreak c then
          match lineBreak? (rest.dropWhile (!isLineBreak ·)) with
          | some (_, after) => marks n { s with line := s.line + 1 } after
          | none => []
        else match stepMarks? width s.widths with
          | some (found, widths) => found ++ marks n { s with widths, atLineStart := false } rest
          | none => []
    else match cs with
      | [] => [.lineEnd s.line]
      | c :: rest =>
        if c == '#' then marks n s (rest.dropWhile (!isLineBreak ·))
        else match lineBreak? cs with
          | some (_, after) =>
            let next := { s with line := s.line + 1, atLineStart := s.depth = 0 }
            if 0 < s.depth then marks n next after else .lineEnd s.line :: marks n next after
          | none =>
            if c == '\\' then match lineBreak? rest with
              | some (_, after) => marks n { s with line := s.line + 1 } after
              | none => .other :: marks n s rest
            else if isWordChar c then
              let word := cs.takeWhile isWordChar
              let after := cs.drop word.length
              let quoted := (after.headD ' ' == '\'' || after.headD ' ' == '"') &&
                (stringPrefix? word).isSome
              if quoted then .other :: marks n s after
              else wordMark word :: marks n s after
            else if c == '\'' || c == '"' then match afterString? cs with
              | some after =>
                let taken := cs.take (cs.length - after.length)
                .other :: marks n { s with line := s.line + breaksIn taken } after
              | none => .other :: marks n s rest
            else if c == '@' then .decorator :: marks n s rest
            else if c == ' ' || c == '\t' || c == '\x0c' then marks n s rest
            else
              let opens := c == '(' || c == '[' || c == '\x7b'
              let closes := c == ')' || c == ']' || c == '\x7d'
              let depth := if opens then s.depth + 1 else if closes then s.depth - 1 else s.depth
              .other :: marks n { s with depth } rest

/-! ### Ends of blocks -/

/-- What is known about a block up to a mark. -/
structure BlockState where
  isStarted : Bool := false
  isLambda : Bool := false
  inDecorator : Bool := false
  /-- whether the rest of the logical line does not matter -/
  skipsLine : Bool := false
  depth : Nat := 0
  last : Nat := 0

def lastLine (s : BlockState) : List BlockMark → Nat
  | [] => s.last
  | mark :: rest =>
    if !s.isStarted && !s.inDecorator then
      let s := { s with skipsLine := true }
      match mark with
      | .decorator => lastLine { s with inDecorator := true } rest
      | .opening isLambda => lastLine { s with isStarted := true, isLambda } rest
      | _ => lastLine s rest
    else match mark with
      | .lineEnd line =>
        if s.isLambda then line
        else lastLine { s with skipsLine := false, last := line, inDecorator := false } rest
      | .indent =>
        if s.skipsLine then lastLine s rest
        else lastLine { s with depth := s.depth + 1, skipsLine := true } rest
      | .dedent =>
        if s.skipsLine then lastLine s rest
        else if s.depth ≤ 1 then s.last
        else lastLine { s with depth := s.depth - 1 } rest
      | _ =>
        if s.skipsLine || s.depth ≠ 0 then lastLine s rest else s.last

/-- The code of the block of the function that starts on a line. -/
def blockAt (code : List Char) (line : Nat) : List Char :=
  let lines := (codeLines code)
  let lines := lines.drop (startLine lines line)
  let found := marks (2 * code.length + 2) {} lines.flatten
  (lines.take (lastLine {} found + 1)).flatten

end EntityModel.Predicate
