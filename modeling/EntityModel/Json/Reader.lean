import EntityModel.Value.Basic
import EntityModel.Number.Reading

/-!
# Reading JSON

A JSON text as a value. Whole numbers stay whole, whatever their size; a number with a point or an
exponent is a binary64 number, and `NaN`, `Infinity` and `-Infinity` are read too. Of entries with
one key the last value counts, at the place of the first. Control characters inside strings are
refused.

The readers go by an amount of fuel that the length of the text bounds: every value takes at least
one character.
-/

namespace EntityModel.Json

/-- White space between the tokens. -/
def isSpace (c : Char) : Bool := c == ' ' || c == '\t' || c == '\n' || c == '\r'

def skipSpace (cs : List Char) : List Char := cs.dropWhile isSpace

def hexValue? (c : Char) : Option Nat :=
  if c.isDigit then some (c.toNat - 0x30)
  else if 'a' ≤ c && c ≤ 'f' then some (c.toNat - 0x57)
  else if 'A' ≤ c && c ≤ 'F' then some (c.toNat - 0x37)
  else none

/-- The number that four hexadecimal digits write. -/
def hex4? (a b c d : Char) : Option Nat := do
  return (((← hexValue? a) * 16 + (← hexValue? b)) * 16 + (← hexValue? c)) * 16 + (← hexValue? d)

/-- The code point of a surrogate pair, if the two units are one. -/
def joinSurrogates? (high low : Nat) : Option Nat :=
  if 0xD800 ≤ high && high < 0xDC00 && 0xDC00 ≤ low && low < 0xE000 then
    some (0x10000 + (high - 0xD800) * 0x400 + (low - 0xDC00))
  else none

/-- The character after a backslash that stands for one character. -/
def shortEscape? : Char → Option Char
  | '"' => some '"'
  | '\\' => some '\\'
  | '/' => some '/'
  | 'b' => some '\x08'
  | 'f' => some '\x0c'
  | 'n' => some '\n'
  | 'r' => some '\r'
  | 't' => some '\t'
  | _ => none

/-- The characters of a string up to its closing quote, and what follows it. -/
def readString? : List Char → Option (List Char × List Char)
  | [] => none
  | '"' :: rest => some ([], rest)
  | '\\' :: 'u' :: a :: b :: c :: d :: '\\' :: 'u' :: e :: f :: g :: h :: rest => do
    let first ← hex4? a b c d
    match hex4? e f g h >>= joinSurrogates? first with
    | some code =>
      let (s, after) ← readString? rest
      return (Char.ofNat code :: s, after)
    | none =>
      let (s, after) ← readString? ('\\' :: 'u' :: e :: f :: g :: h :: rest)
      return (Char.ofNat first :: s, after)
  | '\\' :: 'u' :: a :: b :: c :: d :: rest => do
    let code ← hex4? a b c d
    let (s, after) ← readString? rest
    return (Char.ofNat code :: s, after)
  | '\\' :: c :: rest => do
    let plain ← shortEscape? c
    let (s, after) ← readString? rest
    return (plain :: s, after)
  | c :: rest => do
    if c.val < 0x20 then none
    else
      let (s, after) ← readString? rest
      return (c :: s, after)

def spanDigits (cs : List Char) : List Char × List Char :=
  (cs.takeWhile Char.isDigit, cs.dropWhile Char.isDigit)

def digitsValue (digits : List Char) : Nat :=
  digits.foldl (fun n d => 10 * n + (d.toNat - 0x30)) 0

/-- A point with digits after it, if there is one. -/
def readFraction (cs : List Char) : List Char × List Char :=
  match cs with
  | '.' :: rest =>
    let (digits, after) := spanDigits rest
    if digits.isEmpty then ([], cs) else (digits, after)
  | _ => ([], cs)

def readExponent (cs : List Char) : Option Int × List Char :=
  match cs with
  | [] => (none, cs)
  | e :: rest =>
    if e == 'e' || e == 'E' then
      let (negative, body) := Number.signed rest
      let (digits, after) := spanDigits body
      if digits.isEmpty then (none, cs)
      else
        let n : Int := digitsValue digits
        (some (if negative then -n else n), after)
    else (none, cs)

/-- A number without its sign, and what follows it. -/
def readMagnitude? (negative : Bool) (cs : List Char) : Option (Value × List Char) :=
  let (run, _) := spanDigits cs
  -- a leading zero stands alone
  let whole := if run.headD '1' == '0' then run.take 1 else run
  if whole.isEmpty then none
  else
    let (part, rest) := readFraction (cs.drop whole.length)
    let (exponent, rest) := readExponent rest
    let n := digitsValue (whole ++ part)
    if part.isEmpty && exponent.isNone then
      some (.int (if negative then -(n : Int) else n), rest)
    else
      some (.real (.ofDecimal negative n (exponent.getD 0 - part.length)), rest)

/-- A literal word, a number or the words for numbers that are not finite. -/
def readAtom? (cs : List Char) : Option (Value × List Char) :=
  let word? (word : String) (v : Value) : Option (Value × List Char) :=
    if word.toList.isPrefixOf cs then some (v, cs.drop word.length) else none
  word? "null" .null <|> word? "true" (.bool true) <|> word? "false" (.bool false) <|>
    word? "NaN" (.real .nan) <|> word? "Infinity" (.real (.infinite false)) <|>
    word? "-Infinity" (.real (.infinite true)) <|>
    match cs with
    | '-' :: rest => readMagnitude? true rest
    | cs => readMagnitude? false cs

mutual

def readValue? : Nat → List Char → Option (Value × List Char)
  | 0, _ => none
  | fuel + 1, cs => match cs with
    | '"' :: rest => do
      let (s, after) ← readString? rest
      return (.text (String.ofList s), after)
    | '[' :: rest => match skipSpace rest with
      | ']' :: after => some (.list [], after)
      | rest => do
        let (items, after) ← readItems? fuel rest
        return (.list items, after)
    | '{' :: rest => match skipSpace rest with
      | '}' :: after => some (.map [], after)
      | rest => do
        let (pairs, after) ← readPairs? fuel rest
        return (.map (Entries.ofPairs pairs), after)
    | cs => readAtom? cs

/-- The items of a list up to its bracket, and what follows it. -/
def readItems? : Nat → List Char → Option (List Value × List Char)
  | 0, _ => none
  | fuel + 1, cs => do
    let (v, rest) ← readValue? fuel (skipSpace cs)
    match skipSpace rest with
    | ',' :: rest =>
      let (vs, after) ← readItems? fuel rest
      return (v :: vs, after)
    | ']' :: after => return ([v], after)
    | _ => none

/-- The entries of a mapping up to its brace, and what follows it. -/
def readPairs? : Nat → List Char → Option (List (Scalar × Value) × List Char)
  | 0, _ => none
  | fuel + 1, cs => match skipSpace cs with
    | '"' :: rest => do
      let (key, rest) ← readString? rest
      match skipSpace rest with
      | ':' :: rest =>
        let (v, rest) ← readValue? fuel (skipSpace rest)
        match skipSpace rest with
        | ',' :: rest =>
          let (pairs, after) ← readPairs? fuel rest
          return ((.text (String.ofList key), v) :: pairs, after)
        | '}' :: after => return ([(.text (String.ofList key), v)], after)
        | _ => none
      | _ => none
    | _ => none

end

/-- The value that a JSON text writes. -/
def read? (text : String) : Option Value :=
  let cs := skipSpace text.toList
  match readValue? (2 * cs.length + 2) cs with
  | some (v, rest) => if (skipSpace rest).isEmpty then some v else none
  | none => none

end EntityModel.Json
