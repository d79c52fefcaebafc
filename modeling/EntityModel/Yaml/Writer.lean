import EntityModel.Number.Shortest
import EntityModel.Yaml.Page
import EntityModel.Yaml.Scalar

/-!
# Writing YAML

A value as a YAML text. Every item of a list and every entry of a mapping has a line of its own; the
items of a list under a key are not indented. A text is written plain where it reads back as the
same text, else between single quotes, and between double quotes where it holds a character that has
to be escaped.
-/

namespace EntityModel.Yaml

/-! ### Texts -/

/-- How a scalar is written. -/
inductive Style where
  | plain | single | double
  deriving DecidableEq, Repr

/-- Whether a text holds more than one line. -/
def isMultiline (cs : List Char) : Bool :=
  cs.any fun c => isBreak c && c != '\r'

/-- Whether a text holds a character that has to be escaped. -/
def hasSpecial (cs : List Char) : Bool :=
  cs.any fun c => !(c == '\n' || (0x20 ≤ c.toNat && c.toNat ≤ 0x7E))

/-- Whether a blank stands beside a line end. -/
def hasBlankAtBreak : List Char → Bool
  | c :: d :: rest =>
    (c == ' ' && d == '\n') || (c == '\n' && d == ' ') || hasBlankAtBreak (d :: rest)
  | _ => false

/-- Whether a colon or a comment follows, given whether a gap stands before. -/
def hasInnerMark : (afterGap : Bool) → List Char → Bool
  | _, [] => false
  | afterGap, c :: rest =>
    (c == ':' && isGap (rest.headD endMark)) || (c == '#' && afterGap) ||
    hasInnerMark (isGap c) rest

/-- Whether a text starts like something that is no plain scalar. -/
def hasLeadingMark (cs : List Char) : Bool :=
  let c := cs.headD endMark
  cs.take 3 == ['-', '-', '-'] || cs.take 3 == ['.', '.', '.'] ||
    "#,[]\x7b\x7d&*!|>'\"%@".toList.contains c || c == Char.ofNat 0x60 ||
    ((c == '?' || c == ':' || c == '-') && isGap (cs.tail.headD endMark))

/-- Whether a text can stand without quotes. -/
def canBePlain (cs : List Char) : Bool :=
  !cs.isEmpty && !hasSpecial cs && !cs.contains '\n' && cs.head? != some ' ' &&
    cs.getLast? != some ' ' && !hasLeadingMark cs &&
    !hasInnerMark (isGap (cs.headD endMark)) cs.tail

/-- How a text is written, as a key on one line or elsewhere. -/
def Style.ofText (isKey : Bool) (s : String) : Style :=
  let cs := s.toList
  if canBePlain cs && NodeType.ofPlain s = .text then .plain
  else if !hasSpecial cs && !hasBlankAtBreak cs && !(isKey && isMultiline cs) then .single
  else .double

/-! ### Scalars -/

/-- A number with a fraction: one in scientific form gets a point. -/
def realText : Binary64 → String
  | .nan => ".nan"
  | .infinite negative => if negative then "-.inf" else ".inf"
  | x =>
    let cs := x.shown.toList
    if cs.contains '.' then x.shown
    else String.ofList (cs.flatMap fun c => if c == 'e' then ['.', '0', 'e'] else [c])

def scalarText : Scalar → String
  | .null => "null"
  | .bool b => if b then "true" else "false"
  | .int i => toString i
  | .real x => realText x
  | .text s => s
  | .moment m => m.shown

/-- The number of characters of the tag that a scalar would have. -/
def tagLength : Scalar → Nat
  | .null | .bool _ => 6
  | .int _ | .text _ => 5
  | .real _ => 7
  | .moment _ => 11

/-- Whether a key stands on one line with its value. -/
def isShortKey (s : Scalar) : Bool :=
  let cs := (scalarText s).toList
  tagLength s + cs.length < 128 && !cs.isEmpty && !isMultiline cs

namespace Page

/-- A scalar; the lines that continue it are indented. -/
def scalar (p : Page) (indent : Nat) (isKey : Bool) (s : Scalar) : Page :=
  match s with
  | .text t => match Style.ofText isKey t with
    | .plain => p.plain indent (!isKey) t
    | .single => p.single indent (!isKey) t
    | .double => p.double indent (!isKey) t
  | s => p.plain indent (!isKey) (scalarText s)

def keyed (p : Page) (indent : Nat) (key : Scalar) : Page :=
  let p := p.toIndent indent
  if isShortKey key then (p.scalar (indent + 2) true key).sign ":" false
  else (((p.structureSign "?").scalar (indent + 2) false key).toIndent indent).structureSign ":"

/-! ### Values -/

mutual

/-- A value inside of a block at some indentation. -/
def value (indent : Nat) (underKey : Bool) : Value → Page → Page
  | .scalar s, p => p.scalar (indent + 2) false s
  | .list [], p => p.sign "[]" true
  | .map [], p => p.sign "\x7b\x7d" true
  | .list items, p =>
    p.items (if underKey && !p.atIndent then indent else indent + 2) items
  | .map entries, p => p.entries (indent + 2) entries

def items (indent : Nat) : List Value → Page → Page
  | [], p => p
  | v :: vs, p => items indent vs (value indent false v ((p.toIndent indent).structureSign "-"))

def entries (indent : Nat) : List (Scalar × Value) → Page → Page
  | [], p => p
  | (k, v) :: rest, p => entries indent rest (value indent true v (p.keyed indent k))

end

end Page

/-- A mapping as a YAML text. -/
def write (entries : Entries) : String :=
  ((Page.entries 0 entries {}).toIndent 0).text

end EntityModel.Yaml
