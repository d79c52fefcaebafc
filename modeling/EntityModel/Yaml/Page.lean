import EntityModel.Text.Quoted
import EntityModel.Yaml.Cursor

/-!
# Pages

A page is a text that is being written, with what the next sign has to know: the column, whether a
blank stands before it, and whether nothing but indentation and signs of structure stand on the
line. Lines are folded at a blank once they are wider than eighty columns.
-/

namespace EntityModel.Yaml

/-- A text that is being written. -/
structure Page where
  text : String := ""
  column : Nat := 0
  afterBlank : Bool := true
  atIndent : Bool := true
  deriving Repr

namespace Page

/-- The width beyond which a line is folded. -/
def width : Nat := 80

/-- Some text more on the line. -/
def put (p : Page) (s : String) : Page :=
  { p with text := p.text ++ s, column := p.column + s.length }

def newLine (p : Page) : Page := ⟨p.text ++ "\n", 0, true, true⟩

/-- The place at a column of a line on which nothing is written yet. -/
def toIndent (p : Page) (indent : Nat) : Page :=
  let p :=
    if !p.atIndent || indent < p.column || (p.column == indent && !p.afterBlank) then p.newLine
    else p
  if p.column < indent then
    { p.put (String.ofList (List.replicate (indent - p.column) ' ')) with afterBlank := true }
  else p

/-- A sign, with a blank before it where one is needed. -/
def sign (p : Page) (s : String) (spaced : Bool) : Page :=
  { p.put (if spaced && !p.afterBlank then " " ++ s else s) with
    afterBlank := false, atIndent := false }

/-- A sign of structure, which leaves the line as empty as it was. -/
def structureSign (p : Page) (s : String) : Page :=
  { p.sign s true with atIndent := p.atIndent }

/-! ### Scalars -/

/-- Whether a line may be folded at a blank: it stands alone between two characters. -/
def isFoldable (before after : Option Char) : Bool :=
  (match before with | none => false | some c => c != ' ') &&
    (match after with | none => false | some c => c != ' ')

/-- Characters that stand for themselves, a quote being doubled where it is one of the text. A blank
may become a new line, and a line feed becomes an empty line. -/
def putFolded (indent : Nat) (fold doubled : Bool) :
    (before : Option Char) → List Char → Page → Page
  | _, [], p => p
  | before, c :: rest, p =>
    let p :=
      if c == '\n' then
        let p := (if before == some '\n' then p else p.newLine).newLine
        if rest.head? == some '\n' then p else p.toIndent indent
      else if c == ' ' && fold && width < p.column && isFoldable before rest.head? then
        if doubled then p.toIndent indent
        else { p.toIndent indent with afterBlank := false, atIndent := false }
      else if c == '\'' && doubled then p.put "''"
      else p.put (String.singleton c)
    putFolded indent fold doubled (some c) rest p

def plain (p : Page) (indent : Nat) (fold : Bool) (s : String) : Page :=
  let p := if p.afterBlank then p else p.put " "
  putFolded indent fold false none s.toList { p with afterBlank := false, atIndent := false }

/-- A scalar between single quotes. -/
def single (p : Page) (indent : Nat) (fold : Bool) (s : String) : Page :=
  (putFolded indent fold true none s.toList (p.sign "'" true)).sign "'" false

/-- The letter for a character after the backslash. -/
def shortEscape? : Char → Option Char
  | '\x00' => some '0'
  | '\x07' => some 'a'
  | '\x08' => some 'b'
  | '\t' => some 't'
  | '\n' => some 'n'
  | '\x0b' => some 'v'
  | '\x0c' => some 'f'
  | '\r' => some 'r'
  | '\x1b' => some 'e'
  | '"' => some '"'
  | '\\' => some '\\'
  | '\x85' => some 'N'
  | '\xa0' => some '_'
  | '\u2028' => some 'L'
  | '\u2029' => some 'P'
  | _ => none

/-- The last hexadecimal digits of a number, in capitals. -/
def capitalDigits (width n : Nat) : List Char := (Text.hexDigits width n).map Char.toUpper

/-- The escape of a character that does not stand for itself between double quotes. -/
def escape? (c : Char) : Option String :=
  let n := c.toNat
  match shortEscape? c with
  | some letter => some (String.ofList ['\\', letter])
  | none =>
    if 0x20 ≤ n && n ≤ 0x7E then none
    else if n ≤ 0xFF then some (String.ofList ('\\' :: 'x' :: capitalDigits 2 n))
    else if n ≤ 0xFFFF then some (String.ofList ('\\' :: 'u' :: capitalDigits 4 n))
    else some (String.ofList ('\\' :: 'U' :: capitalDigits 8 n))

/-- A line end inside double quotes; a blank that follows it is kept. -/
def foldEscaped (p : Page) (indent : Nat) (blankFollows : Bool) : Page :=
  let p := { (p.put "\\").toIndent indent with afterBlank := false, atIndent := false }
  if blankFollows then p.put "\\" else p

/-- Characters between double quotes. A line may be folded before a blank and around an escape, but
not at the ends. -/
def putEscaped (indent : Nat) (fold : Bool) :
    (isFirst afterEscape : Bool) → List Char → Page → Page
  | _, _, [], p => p
  | isFirst, afterEscape, c :: rest, p =>
    let foldable := fold && !isFirst && !rest.isEmpty
    match escape? c with
    | some escape =>
      let p := p.put escape
      let p := if foldable && width + 1 < p.column then
        p.foldEscaped indent (rest.head? == some ' ') else p
      putEscaped indent fold false true rest p
    | none =>
      let p := if foldable && (c == ' ' || afterEscape) && width < p.column then
        p.foldEscaped indent (c == ' ') else p
      putEscaped indent fold false false rest (p.put (String.singleton c))

/-- A scalar between double quotes. -/
def double (p : Page) (indent : Nat) (fold : Bool) (s : String) : Page :=
  (putEscaped indent fold true false s.toList (p.sign "\"" true)).sign "\"" false

end Page

end EntityModel.Yaml
