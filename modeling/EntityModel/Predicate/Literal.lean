import EntityModel.Json.Reader
import EntityModel.Text.IdentifierTable

/-!
# Literals in predicate code

Where a number or a string ends in the text of a predicate, and which escapes a string may hold. A
scanner answers what follows the literal, or nothing where the literal is malformed.
-/

namespace EntityModel.Predicate

open Text

/-- A character that an identifier may hold as far as scanning goes: every character outside ASCII
is taken in and judged afterwards. -/
def isWordChar (c : Char) : Bool := c.isAlphanum || c == '_' || 0x80 ≤ c.toNat

def isIdentifier : List Char → Bool
  | [] => false
  | c :: rest => isIdentifierStart c && rest.all isIdentifierPart

/-! ### Numbers -/

/-- What follows the digits of a number after its first one, single underscores between them
allowed. -/
def afterDigits? (isDigit : Char → Bool) : List Char → Option (List Char)
  | [] => some []
  | '_' :: c :: rest => if isDigit c then afterDigits? isDigit rest else none
  | ['_'] => none
  | c :: rest => if isDigit c then afterDigits? isDigit rest else some (c :: rest)

/-- What follows at least one digit, which an underscore may lead. -/
def afterSomeDigits? (isDigit : Char → Bool) : List Char → Option (List Char)
  | '_' :: c :: rest => if isDigit c then afterDigits? isDigit rest else none
  | c :: rest => if isDigit c then afterDigits? isDigit rest else none
  | [] => none

/-- Words that may stand right behind a number, by their first letters. -/
def numberFollowers : List (List Char) :=
  ["and", "else", "for", "if", "in", "is", "or", "not"].map String.toList

/-- Whether a number may end before these characters. -/
def endsNumber (rest : List Char) : Bool :=
  numberFollowers.any (·.isPrefixOf rest) || !(rest.headD ' ' |> isWordChar)

/-- What follows a number that is complete, if it may end there. -/
def numberEnd? (rest : List Char) : Option (List Char) :=
  if endsNumber rest then some rest else none

/-- What follows the mark of an imaginary number, if there is one, where the number ends. -/
def afterImaginary? : List Char → Option (List Char)
  | 'j' :: rest => numberEnd? rest
  | 'J' :: rest => numberEnd? rest
  | rest => numberEnd? rest

/-- What follows the exponent of a number, if there is one. A letter `e` that no digits follow
does not belong to the number. -/
def afterExponent? (cs : List Char) : Option (List Char) :=
  match cs with
  | c :: rest =>
    if c == 'e' || c == 'E' then
      match rest with
      | s :: d :: more =>
        if s == '+' || s == '-' then
          if d.isDigit then afterDigits? Char.isDigit more >>= afterImaginary? else none
        else if s.isDigit then afterDigits? Char.isDigit (d :: more) >>= afterImaginary?
        else numberEnd? cs
      | [s] =>
        if s.isDigit then some []
        else if s == '+' || s == '-' then none
        else numberEnd? cs
      | [] => numberEnd? cs
    else afterImaginary? cs
  | [] => some []

/-- What follows the point of a number: digits, and an exponent. -/
def afterPoint? (cs : List Char) : Option (List Char) :=
  match cs with
  | c :: rest =>
    if c.isDigit then afterDigits? Char.isDigit rest >>= afterExponent? else afterExponent? cs
  | [] => some []

/-- What follows the whole part of a decimal number. -/
def afterWhole? : List Char → Option (List Char)
  | '.' :: rest => afterPoint? rest
  | rest => afterExponent? rest

/-- What follows the zeros of a number, single underscores between them and before a digit
allowed. -/
def afterZeros? : List Char → Option (List Char)
  | [] => some []
  | '_' :: c :: rest =>
    if c == '0' then afterZeros? rest else if c.isDigit then some (c :: rest) else none
  | ['_'] => none
  | c :: rest => if c == '0' then afterZeros? rest else some (c :: rest)

/-- What follows a number that starts with a zero and names no base: zeros alone, or a number with
a point, an exponent or an imaginary mark. -/
def afterZero? (cs : List Char) : Option (List Char) := do
  let afterZeros ← afterZeros? cs
  match afterZeros with
  | c :: more =>
    if c.isDigit then
      match ← afterDigits? Char.isDigit more with
      | '.' :: rest => afterPoint? rest
      | d :: rest =>
        if d == 'e' || d == 'E' || d == 'j' || d == 'J' then afterExponent? (d :: rest) else none
      | [] => none
    else afterWhole? afterZeros
  | [] => some []

/-- A digit of a number of base sixteen, eight or two. -/
def isHexDigit (c : Char) : Bool := (Json.hexValue? c).isSome

/-- A digit of a number of base eight. -/
def isOctalDigit (c : Char) : Bool := '0' ≤ c && c ≤ '7'

/-- A digit of a number of base two. -/
def isBinaryDigit (c : Char) : Bool := c == '0' || c == '1'

/-- What follows a number with a base, where a digit too great for it is malformed. -/
def afterBased? (isDigit : Char → Bool) (cs : List Char) : Option (List Char) := do
  let rest ← afterSomeDigits? isDigit cs
  if (rest.headD ' ').isDigit then none else numberEnd? rest

/-- What follows a number that starts with these characters: a digit, or a point and a digit. How
many digits it has is not limited. -/
def afterNumber? : List Char → Option (List Char)
  | '0' :: c :: rest =>
    if c == 'x' || c == 'X' then afterBased? isHexDigit rest
    else if c == 'o' || c == 'O' then afterBased? isOctalDigit rest
    else if c == 'b' || c == 'B' then afterBased? isBinaryDigit rest
    else afterZero? (c :: rest)
  | ['0'] => some []
  | '.' :: rest => afterPoint? rest
  | _ :: rest => afterDigits? Char.isDigit rest >>= afterWhole?
  | [] => none

/-! ### Strings -/

/-- What follows the closing quote of a string on one line. -/
def afterQuote? (quote : Char) : List Char → Option (List Char)
  | [] => none
  | '\\' :: '\r' :: '\n' :: rest => afterQuote? quote rest
  | '\\' :: _ :: rest => afterQuote? quote rest
  | c :: rest =>
    if c == quote then some rest
    else if c == '\n' || c == '\r' then none
    else afterQuote? quote rest

/-- What follows the three closing quotes of a string. -/
def afterTriple? (quote : Char) : List Char → Option (List Char)
  | [] => none
  | '\\' :: _ :: rest => afterTriple? quote rest
  | a :: b :: c :: rest =>
    if a == quote && b == quote && c == quote then some rest
    else afterTriple? quote (b :: c :: rest)
  | _ :: rest => afterTriple? quote rest

/-- What follows a string whose opening quote comes first. -/
def afterString? : List Char → Option (List Char)
  | a :: b :: c :: rest =>
    if a == b && b == c then afterTriple? a rest else afterQuote? a (b :: c :: rest)
  | a :: rest => afterQuote? a rest
  | [] => none

/-- What the letters before a string say about it. -/
structure StringPrefix where
  isRaw : Bool := false
  isBytes : Bool := false
  isFormatted : Bool := false
  deriving DecidableEq, Repr

/-- The meaning of letters before a string, if they have one. -/
def stringPrefix? (letters : List Char) : Option StringPrefix :=
  match letters.map Char.toLower with
  | [] => some {}
  | ['u'] => some {}
  | ['r'] => some { isRaw := true }
  | ['b'] => some { isBytes := true }
  | ['f'] => some { isFormatted := true }
  | ['b', 'r'] => some { isRaw := true, isBytes := true }
  | ['r', 'b'] => some { isRaw := true, isBytes := true }
  | ['f', 'r'] => some { isRaw := true, isFormatted := true }
  | ['r', 'f'] => some { isRaw := true, isFormatted := true }
  | _ => none

/-- A string literal taken apart. -/
structure StringLiteral where
  mark : StringPrefix
  /-- how many characters stand before the body -/
  offset : Nat
  body : List Char
  deriving Repr

/-- A string token taken apart: letters, quotes and body. -/
def StringLiteral.ofToken? (token : List Char) : Option StringLiteral := do
  let letters := token.takeWhile Char.isAlpha
  let mark ← stringPrefix? letters
  let quoted := token.drop letters.length
  let width := match quoted with
    | a :: b :: c :: _ :: _ :: _ => if a == b && b == c then 3 else 1
    | _ => 1
  return ⟨mark, letters.length + width, (quoted.drop width).take (quoted.length - 2 * width)⟩

/-- The number that a fixed count of hexadecimal digits writes, and what follows them. -/
def hexRun? : Nat → List Char → Option (Nat × List Char)
  | 0, cs => some (0, cs)
  | n + 1, c :: cs => do
    let d ← Json.hexValue? c
    let (rest, after) ← hexRun? n cs
    return (d * Nat.pow 16 n + rest, after)
  | _ + 1, [] => none

/-- The number that up to so many octal digits write, after those read before. -/
def octalRun : Nat → Nat → List Char → Nat × List Char
  | n + 1, read, c :: cs =>
    if isOctalDigit c then octalRun n (8 * read + (c.toNat - 0x30)) cs else (read, c :: cs)
  | _, read, cs => (read, cs)

/-- The character for a letter after a backslash. -/
def letterEscape? : Char → Option Char
  | 'a' => some '\x07'
  | 'b' => some '\x08'
  | 'f' => some '\x0c'
  | 'n' => some '\n'
  | 'r' => some '\r'
  | 't' => some '\t'
  | 'v' => some '\x0b'
  | '\\' => some '\\'
  | '\'' => some '\''
  | '"' => some '"'
  | _ => none

def isNameChar (c : Char) : Bool := c.isAlphanum || c == ' ' || c == '-'

/-- The text of a string without letters before it, or nothing where an escape is malformed. A
character that is written by its name is read as the name: whether there is a character of that name
is not checked. The readers go by an amount of fuel that the length of the body bounds. -/
def unescape? : Nat → List Char → Option (List Char)
  | 0, _ => some []
  | _, [] => some []
  | n + 1, '\\' :: rest => match rest with
    | [] => some ['\\']
    | '\r' :: '\n' :: rest => unescape? n rest
    | '\n' :: rest => unescape? n rest
    | '\r' :: rest => unescape? n rest
    | 'x' :: rest => do
      let (code, after) ← hexRun? 2 rest
      return Char.ofNat code :: (← unescape? n after)
    | 'u' :: rest => do
      let (code, after) ← hexRun? 4 rest
      return Char.ofNat code :: (← unescape? n after)
    | 'U' :: rest => do
      let (code, after) ← hexRun? 8 rest
      if 0x10FFFF < code then none else return Char.ofNat code :: (← unescape? n after)
    | 'N' :: '\x7b' :: rest => do
      let name := rest.takeWhile isNameChar
      match rest.drop name.length with
      | '\x7d' :: after =>
        if name.isEmpty then none else return name ++ (← unescape? n after)
      | _ => none
    | 'N' :: _ => none
    | c :: rest =>
      if isOctalDigit c then do
        let (code, after) := octalRun 3 0 (c :: rest)
        return Char.ofNat code :: (← unescape? n after)
      else match letterEscape? c with
        | some plain => do return plain :: (← unescape? n rest)
        | none => do return '\\' :: c :: (← unescape? n rest)
  | n + 1, c :: rest => do return c :: (← unescape? n rest)

/-- Whether a byte string's escapes are well formed. -/
def hasGoodByteEscapes : List Char → Bool
  | '\\' :: 'x' :: rest => (hexRun? 2 rest).isSome && hasGoodByteEscapes rest
  | '\\' :: _ :: rest => hasGoodByteEscapes rest
  | _ :: rest => hasGoodByteEscapes rest
  | [] => true

/-- The text of a plain or a byte string, or nothing where it is malformed. -/
def StringLiteral.text? (s : StringLiteral) : Option (List Char) :=
  if s.mark.isBytes && !s.body.all (·.toNat < 0x80) then none
  else if s.mark.isRaw then some s.body
  else if s.mark.isBytes && !hasGoodByteEscapes s.body then none
  else if s.mark.isBytes then some s.body
  else unescape? s.body.length s.body

/-! ### Formatted strings -/

/-- A piece of a formatted string. -/
inductive Piece where
  | literal (text : List Char)
  /-- a field with the text of its expression, where that starts, and a format of its own -/
  | field (start : Nat) (expression : List Char) (format : List Piece)
  deriving Repr

/-- How far into a field's expression a scanner has come. -/
structure FieldScan where
  /-- open brackets, innermost first -/
  opened : List Char := []
  /-- the quote of the string that is open, and whether it is a triple one -/
  quote : Option (Char × Bool) := none

def closes (opening closing : Char) : Bool :=
  (opening == '(' && closing == ')') || (opening == '[' && closing == ']') ||
    (opening == '\x7b' && closing == '\x7d')

/-- The number of characters of a field's expression. -/
def expressionLength? : FieldScan → Nat → List Char → Option Nat
  | _, _, [] => none
  | scan, n, c :: rest =>
    if c == '\\' then none
    else match scan.quote with
      | some (q, false) =>
        if c == q then expressionLength? { scan with quote := none } (n + 1) rest
        else expressionLength? scan (n + 1) rest
      | some (q, true) => match rest with
        | d :: e :: more =>
          if c == q && d == q && e == q then
            expressionLength? { scan with quote := none } (n + 3) more
          else expressionLength? scan (n + 1) (d :: e :: more)
        | rest => expressionLength? scan (n + 1) rest
      | none =>
        if c == '\'' || c == '"' then match rest with
          | d :: e :: more =>
            if d == c && e == c then
              expressionLength? { scan with quote := some (c, true) } (n + 3) more
            else expressionLength? { scan with quote := some (c, false) } (n + 1) (d :: e :: more)
          | rest => expressionLength? { scan with quote := some (c, false) } (n + 1) rest
        else if c == '(' || c == '[' || c == '\x7b' then
          expressionLength? { scan with opened := c :: scan.opened } (n + 1) rest
        else if c == '#' then none
        else match scan.opened with
          | [] =>
            if c == '!' || c == '=' || c == '<' || c == '>' then match rest with
              | '=' :: more => expressionLength? scan (n + 2) more
              | rest =>
                if c == '<' || c == '>' then expressionLength? scan (n + 1) rest else some n
            else if c == ':' || c == '\x7d' then some n
            else if c == ')' || c == ']' then none
            else expressionLength? scan (n + 1) rest
          | opening :: opened =>
            if c == ')' || c == ']' || c == '\x7d' then
              if closes opening c then expressionLength? { scan with opened } (n + 1) rest else none
            else expressionLength? scan (n + 1) rest

/-- White space that a field's expression may be surrounded with. -/
def isFieldSpace (c : Char) : Bool :=
  c == ' ' || c == '\t' || c == '\n' || c == '\r' || c == '\x0c' || c == '\x0b'

/-- The characters of a literal piece up to a brace, and what follows it. At the outermost level a
brace that is doubled belongs to the literal; a closing brace may not stand alone. -/
def literalPiece? (isRaw isOutermost : Bool) : Nat → List Char → Option (List Char × List Char)
  | 0, cs => some ([], cs)
  | _, [] => some ([], [])
  | n + 1, '\\' :: c :: rest =>
    if isRaw then do
      let (text, after) ← literalPiece? isRaw isOutermost n (c :: rest)
      return ('\\' :: text, after)
    else if c == 'N' && rest.headD ' ' == '\x7b' then
      let name := rest.takeWhile (· != '\x7d')
      do
        let (text, after) ← literalPiece? isRaw isOutermost n (rest.drop (name.length + 1))
        return ('\\' :: c :: name ++ rest.extract name.length (name.length + 1) ++ text, after)
    else if c == '\x7b' || c == '\x7d' then do
      let (text, after) ← literalPiece? isRaw isOutermost n (c :: rest)
      return ('\\' :: text, after)
    else do
      let (text, after) ← literalPiece? isRaw isOutermost n rest
      return ('\\' :: c :: text, after)
  | n + 1, c :: rest =>
    if c == '\x7b' || c == '\x7d' then
      if isOutermost && rest.headD ' ' == c then do
        let (text, after) ← literalPiece? isRaw isOutermost n (rest.drop 1)
        return (c :: text, after)
      else if isOutermost && c == '\x7d' then none
      else some ([], c :: rest)
    else do
      let (text, after) ← literalPiece? isRaw isOutermost n rest
      return (c :: text, after)

def afterConversion? : List Char → Option (List Char)
  | '!' :: c :: d :: rest =>
    if (c == 's' || c == 'r' || c == 'a') && (d == ':' || d == '\x7d') then some (d :: rest)
    else none
  | '!' :: _ => none
  | cs => some cs

/-- The pieces of a formatted string from some place on, and what follows them: at a level below the
outermost they end before a closing brace. A format inside a format may hold no fields. -/
def pieces? (isRaw : Bool) (size : Nat) :
    (level : Nat) → Nat → List Char → Option (List Piece × List Char)
  | _, 0, _ => none
  | level, n + 1, cs => do
    let (text, rest) ← literalPiece? isRaw (level == 0) cs.length cs
    if !isRaw then
      let _ ← unescape? text.length text
    let literal := if text.isEmpty then [] else [Piece.literal text]
    match rest with
    | '\x7b' :: rest =>
      if 2 ≤ level then none
      else
        let length ← expressionLength? {} 0 rest
        let expression := rest.take length
        if expression.all fun c => isFieldSpace c && c != '\x0b' then none
        else
          let after := rest.drop length
          let after := match after with
            | '=' :: after => after.dropWhile isFieldSpace
            | after => after
          match ← afterConversion? after with
          | ':' :: format =>
            let (format, after) ← pieces? isRaw size (level + 1) n format
            match after with
            | '\x7d' :: after =>
              let (others, after) ← pieces? isRaw size level n after
              return (literal ++ .field (size - rest.length) expression format :: others, after)
            | _ => none
          | '\x7d' :: after =>
            let (others, after) ← pieces? isRaw size level n after
            return (literal ++ .field (size - rest.length) expression [] :: others, after)
          | _ => none
    | rest => return (literal, rest)

/-- The pieces of a formatted string, or nothing where it is malformed. -/
def StringLiteral.pieces? (s : StringLiteral) : Option (List Piece) := do
  let (pieces, rest) ← Predicate.pieces? s.mark.isRaw s.body.length 0 (s.body.length + 1) s.body
  if rest.isEmpty then return pieces else none

end EntityModel.Predicate
