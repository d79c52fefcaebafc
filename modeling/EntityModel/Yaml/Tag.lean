import EntityModel.Yaml.Cursor
import EntityModel.Json.Reader

/-!
# Tags

A tag names the type of a node. It is written out between angle brackets, or as a handle and a
suffix, where a directive before the document may say what the handle stands for.
-/

namespace EntityModel.Yaml

/-- A tag as it is written. -/
structure WrittenTag where
  handle : Option String
  suffix : String
  deriving Repr, DecidableEq

/-- What a line before a document says. -/
inductive Directive where
  | version (major : Nat)
  | handle (handle expansion : String)
  | unknown
  deriving Repr, DecidableEq

/-- What a handle stands for. -/
abbrev Handles := List (String × String)

def Handles.standard : Handles := [("!", "!"), ("!!", "tag:yaml.org,2002:")]

/-- Whether a character may stand in a name. -/
def isNameChar (c : Char) : Bool := c.isAlphanum || c == '-' || c == '_'

/-- Whether a character may stand in the suffix of a tag. -/
def isTagChar (c : Char) : Bool := c.isAlphanum || "-;/?:@&=+$,_.!~*'()[]%".toList.contains c

/-! ### Reading of tags -/

/-- A name and the place after it; it is not empty. -/
def readName? (p : Cursor) : Option (String × Cursor) :=
  let (name, q) := p.span isNameChar
  if name.isEmpty then none else some (String.ofList name, q)

/-- The bytes that escapes of two hexadecimal digits write, and the place after them. -/
def readEscapedBytes : Nat → Cursor → Option (List UInt8 × Cursor)
  | 0, p => some ([], p)
  | fuel + 1, p => do
    if p.peek == '%' then
      let high ← Json.hexValue? (p.peekAt 1)
      let low ← Json.hexValue? (p.peekAt 2)
      let (more, q) ← readEscapedBytes fuel (p.advance 3)
      return (UInt8.ofNat (16 * high + low) :: more, q)
    else return ([], p)

/-- The characters of a suffix, and the place after them. -/
def readSuffix : Nat → Cursor → Option (List Char × Cursor)
  | 0, p => some ([], p)
  | fuel + 1, p => do
    if p.peek == '%' then
      let (bytes, q) ← readEscapedBytes (fuel + 1) p
      let text ← String.fromUTF8? ⟨bytes.toArray⟩
      let (more, q) ← readSuffix fuel q
      return (text.toList ++ more, q)
    else if isTagChar p.peek then
      let (more, q) ← readSuffix fuel p.next
      return (p.peek :: more, q)
    else return ([], p)

/-- A suffix and the place after it; something stands there. -/
def readSuffix? (p : Cursor) : Option (String × Cursor) := do
  let (text, q) ← readSuffix (p.rest.length + 1) p
  if q.index = p.index then none else return (String.ofList text, q)

/-- A handle and the place after it: an exclamation mark, or two with a name between them. -/
def readHandle? (p : Cursor) : Option (String × Cursor) :=
  if p.peek != '!' then none
  else if p.peekAt 1 == ' ' then some ("!", p.next)
  else
    let (name, q) := p.next.span isNameChar
    if q.peek == '!' then some ("!" ++ String.ofList name ++ "!", q.next) else none

/-- A tag and the place after it; the place is at its exclamation mark. -/
def readTag? (p : Cursor) : Option (WrittenTag × Cursor) := do
  let c := p.peekAt 1
  let (tag, q) ←
    if c == '<' then do
      let (suffix, q) ← readSuffix? (p.advance 2)
      if q.peek == '>' then some (⟨none, suffix⟩, q.next) else none
    else if isGap c then some (⟨none, "!"⟩, p.next)
    else do
      let hasHandle := (p.rest.drop 1).takeWhile (!isWordEnd ·) |>.contains '!'
      let (handle, q) ← if hasHandle then readHandle? p else some ("!", p.next)
      let (suffix, q) ← readSuffix? q
      some (⟨some handle, suffix⟩, q)
  if isWordEnd q.peek then return (tag, q) else none

/-- The tag that a written one stands for, where its handle is known. -/
def WrittenTag.expand? (handles : Handles) (t : WrittenTag) : Option String :=
  match t.handle with
  | none => some t.suffix
  | some handle => (handles.lookup handle).map (· ++ t.suffix)

/-! ### Reading of directives -/

def readNumber? (p : Cursor) : Option (Nat × Cursor) :=
  let (digits, q) := p.span Char.isDigit
  if digits.isEmpty then none else some (Json.digitsValue digits, q)

def readVersion? (p : Cursor) : Option (Directive × Cursor) := do
  let (major, q) ← readNumber? (p.skip (· == ' '))
  if q.peek != '.' then none
  else
    let (_, q) ← readNumber? q.next
    if isWordEnd q.peek then some (.version major, q) else none

/-- The handle that a directive introduces, and what it stands for. -/
def readExpansion? (p : Cursor) : Option (Directive × Cursor) := do
  let (handle, q) ← readHandle? (p.skip (· == ' '))
  if q.peek != ' ' then none
  else
    let (expansion, q) ← readSuffix? (q.skip (· == ' '))
    if isWordEnd q.peek then some (.handle handle expansion, q) else none

/-- A directive and the place after its line; the place is at its percent sign. -/
def readDirective? (p : Cursor) : Option (Directive × Cursor) := do
  let (name, q) ← readName? p.next
  if !isWordEnd q.peek then none
  else
    let (directive, q) ← match name with
      | "YAML" => readVersion? q
      | "TAG" => readExpansion? q
      | _ => some (.unknown, q.skip (!isLineEnd ·))
    return (directive, ← q.endOfLine?)

end EntityModel.Yaml
