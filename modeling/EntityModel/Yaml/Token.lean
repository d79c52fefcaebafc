import EntityModel.Yaml.Block
import EntityModel.Yaml.Plain
import EntityModel.Yaml.Quoted
import EntityModel.Yaml.Tag

/-!
# Tokens of a YAML text

The structure of a text as a list of tokens. Outside of brackets a block collection starts where a
token stands further to the right than the blocks around it, and ends where a line goes back. A key
is known only by the colon after it: a token that may be a key is remembered with the number of
tokens before it, and the tokens that open a mapping and a key are put there when the colon comes.
-/

namespace EntityModel.Yaml

/-- The parts of a text. -/
inductive Token where
  | directive (d : Directive)
  | documentStart
  | documentEnd
  | blockSequenceStart
  | blockMappingStart
  | blockEnd
  | sequenceStart
  | sequenceEnd
  | mappingStart
  | mappingEnd
  | separator
  | item
  | key
  | value
  | alias (name : String)
  | anchor (name : String)
  | tag (t : WrittenTag)
  | scalar (text : String) (plain : Bool)
  deriving Repr, DecidableEq

/-- A place where a key may have started. -/
structure Candidate where
  /-- the number of tokens before it -/
  position : Nat
  /-- whether nothing but a key can stand there -/
  required : Bool
  place : Cursor
  deriving Repr

/-- How far a text has been taken apart. -/
structure Scan where
  place : Cursor
  /-- the columns of the open blocks, the innermost first -/
  blocks : List Nat := []
  /-- whether a key may start here -/
  keyAllowed : Bool := true
  /-- the candidate inside the innermost bracket -/
  candidate : Option Candidate := none
  /-- the candidates outside of each open bracket, the innermost first -/
  outer : List (Option Candidate) := []
  /-- the tokens so far, the last one first -/
  tokens : List Token := []
  deriving Repr

namespace Scan

/-- Whether the place is inside of brackets. -/
def inBrackets (s : Scan) : Bool := !s.outer.isEmpty

/-- The least column of a line that belongs to the innermost block. -/
def contentColumn (s : Scan) : Nat := match s.blocks with
  | [] => 0
  | column :: _ => column + 1

def emit (s : Scan) (t : Token) : Scan := { s with tokens := t :: s.tokens }

/-- A token more, put after the given number of tokens. -/
def insert (s : Scan) (position : Nat) (t : Token) : Scan :=
  let (after, before) := s.tokens.splitAt (s.tokens.length - position)
  { s with tokens := after ++ t :: before }

/-! ### Blocks and candidates -/

/-- The blocks that start to the right of a column end. -/
def closeBlocks (s : Scan) (isOpen : Nat → Bool) : Scan :=
  if s.inBrackets then s
  else
    let closed := (s.blocks.takeWhile (!isOpen ·)).length
    { s with
      blocks := s.blocks.drop closed
      tokens := List.replicate closed .blockEnd ++ s.tokens }

/-- A block opens at a column to the right of the blocks around it, its token being put after the
given number of tokens. -/
def openBlock (s : Scan) (column position : Nat) (t : Token) : Scan :=
  if s.contentColumn ≤ column then { s.insert position t with blocks := column :: s.blocks } else s

/-- The candidate is given up, unless it is required. -/
def dropCandidate (s : Scan) : Reading Scan :=
  match s.candidate with
  | some c => if c.required then malformed else .ok { s with candidate := none }
  | none => .ok s

/-- Whether a candidate can no longer be a key: keys stay on one line and within a length. -/
def isStale (p : Cursor) (c : Candidate) : Bool :=
  c.place.line != p.line || 1024 < p.index - c.place.index

/-- The candidate unless it is stale; a required one may not be. -/
def freshCandidate (p : Cursor) : Option Candidate → Reading (Option Candidate)
  | none => .ok none
  | some c => if !isStale p c then .ok (some c) else if c.required then malformed else .ok none

/-- Candidates that can no longer be keys are given up. -/
def dropStale (s : Scan) : Reading Scan := do
  return { s with
    candidate := ← freshCandidate s.place s.candidate
    outer := ← s.outer.mapM (freshCandidate s.place) }

/-- The token that comes next may be a key. -/
def saveCandidate (s : Scan) : Reading Scan := do
  if s.keyAllowed then
    let required := !s.inBrackets && s.blocks.head? == some s.place.column
    let s ← s.dropCandidate
    return { s with candidate := some ⟨s.tokens.length, required, s.place⟩ }
  else return s

/-! ### Tokens -/

/-- A token of the given length, after which the next one starts. -/
def take (s : Scan) (length : Nat) (t : Token) : Scan :=
  { s.emit t with place := s.place.advance length }

/-- Everything is closed at the edge of a document. -/
def closeAll (s : Scan) : Reading Scan := do
  return { ← (s.closeBlocks fun _ => false).dropCandidate with keyAllowed := false }

def takeDirective (s : Scan) : Reading Scan := do
  let s ← s.closeAll
  match readDirective? s.place with
  | some (d, p) => return { s.emit (.directive d) with place := p }
  | none => malformed

def takeDocumentMark (s : Scan) (t : Token) : Reading Scan := do
  return (← s.closeAll).take 3 t

def takeOpening (s : Scan) (t : Token) : Reading Scan := do
  let s ← s.saveCandidate
  return { s.take 1 t with keyAllowed := true, candidate := none, outer := s.candidate :: s.outer }

def takeClosing (s : Scan) (t : Token) : Reading Scan := do
  let s ← s.dropCandidate
  match s.outer with
  | [] => malformed
  | candidate :: outer => return { s.take 1 t with keyAllowed := false, candidate, outer }

/-- The comma between the parts of a bracketed collection. -/
def takeSeparator (s : Scan) : Reading Scan := do
  return { (← s.dropCandidate).take 1 .separator with keyAllowed := true }

/-- A sign that opens a block outside of brackets, where a key may start. -/
def opening (s : Scan) (t : Token) : Reading Scan :=
  if s.inBrackets then .ok s
  else if s.keyAllowed then .ok (s.openBlock s.place.column s.tokens.length t)
  else malformed

def takeItem (s : Scan) : Reading Scan := do
  let s ← (← s.opening .blockSequenceStart).dropCandidate
  return { s.take 1 .item with keyAllowed := true }

/-- The question mark before a key. -/
def takeKey (s : Scan) : Reading Scan := do
  let s ← (← s.opening .blockMappingStart).dropCandidate
  return { s.take 1 .key with keyAllowed := !s.inBrackets }

/-- The colon before a value; it makes the candidate a key. -/
def takeValue (s : Scan) : Reading Scan := do
  match s.candidate with
  | some c =>
    let s := { s with candidate := none }.insert c.position .key
    let s := if s.inBrackets then s
      else s.openBlock c.place.column c.position .blockMappingStart
    return { s.take 1 .value with keyAllowed := false }
  | none =>
    let s ← s.opening .blockMappingStart
    return { s.take 1 .value with keyAllowed := !s.inBrackets }

def takeReference (s : Scan) (t : String → Token) : Reading Scan := do
  let s ← s.saveCandidate
  match readName? s.place.next with
  | some (name, p) =>
    if isGap p.peek || "?:,]\x7d%@".toList.contains p.peek || p.peek == Char.ofNat 0x60 then
      return { s.emit (t name) with place := p, keyAllowed := false }
    else malformed
  | none => malformed

def takeTag (s : Scan) : Reading Scan := do
  let s ← s.saveCandidate
  match readTag? s.place with
  | some (t, p) => return { s.emit (.tag t) with place := p, keyAllowed := false }
  | none => malformed

def takeBlock (s : Scan) : Reading Scan := do
  let s ← s.dropCandidate
  let (text, p) ← blockScalar s.contentColumn s.place
  return { s.emit (.scalar text false) with place := p, keyAllowed := true }

def takeQuoted (s : Scan) : Reading Scan := do
  let s ← s.saveCandidate
  let (text, p) ← quotedScalar s.place
  return { s.emit (.scalar text false) with place := p, keyAllowed := false }

def takePlain (s : Scan) : Reading Scan := do
  let s ← s.saveCandidate
  let (text, p, lineEnded) := plainScalar s.inBrackets s.contentColumn s.place
  return { s.emit (.scalar text true) with place := p, keyAllowed := lineEnded }

/-- Whether a plain scalar may start at the place. -/
def startsPlain (s : Scan) : Bool :=
  let c := s.place.peek
  let isMark := isGap c || "-?:,[]\x7b\x7d#&*!|>'\"%@".toList.contains c || c == Char.ofNat 0x60
  !isMark || (!isGap (s.place.peekAt 1) && (c == '-' || (!s.inBrackets && (c == '?' || c == ':'))))

/-- The token at the place, which is not at the end of the text. -/
def takeToken (s : Scan) : Reading Scan :=
  let p := s.place
  let alone := isGap (p.peekAt 1)
  let atStart := p.column == 0
  match p.peek with
  | '%' => if atStart then s.takeDirective else malformed
  | '[' => s.takeOpening .sequenceStart
  | '\x7b' => s.takeOpening .mappingStart
  | ']' => s.takeClosing .sequenceEnd
  | '\x7d' => s.takeClosing .mappingEnd
  | ',' => s.takeSeparator
  | '*' => s.takeReference .alias
  | '&' => s.takeReference .anchor
  | '!' => s.takeTag
  | '\'' | '"' => s.takeQuoted
  | c =>
    if atStart && p.atMark '-' then s.takeDocumentMark .documentStart
    else if atStart && p.atMark '.' then s.takeDocumentMark .documentEnd
    else if c == '-' && alone then s.takeItem
    else if c == '?' && (s.inBrackets || alone) then s.takeKey
    else if c == ':' && (s.inBrackets || alone) then s.takeValue
    else if (c == '|' || c == '>') && !s.inBrackets then s.takeBlock
    else if s.startsPlain then s.takePlain
    else malformed

/-! ### The whole text -/

/-- The place of the next token, and whether a line ended before it. -/
def skipGap : Nat → Cursor → Cursor × Bool
  | 0, p => (p, false)
  | fuel + 1, p =>
    let p := p.skip (· == ' ')
    let p := if p.peek == '#' then p.skip (!isLineEnd ·) else p
    match p.lineBreak? with
    | some (_, p) => ((skipGap fuel p).1, true)
    | none => (p, false)

/-- The place of the next token; blocks end there that start to the right of it, and candidates on
earlier lines are given up. -/
def toNextToken (s : Scan) : Reading Scan := do
  let (p, lineEnded) := skipGap (s.place.rest.length + 1) s.place
  let s ← { s with
    place := p
    keyAllowed := s.keyAllowed || (lineEnded && !s.inBrackets) }.dropStale
  return s.closeBlocks (· ≤ p.column)

def takeAll : Nat → Scan → Reading (List Token)
  | 0, _ => malformed
  | fuel + 1, s => do
    let s ← s.toNextToken
    if s.place.peek == endMark then return (← s.closeAll).tokens.reverse
    else takeAll fuel (← s.takeToken)

end Scan

def Token.ofText (text : String) : Reading (List Token) := do
  let cs := text.toList
  if cs.all isReadable then
    let start : Cursor := ⟨cs, 0, 0, 0⟩
    let start := if start.peek == '\ufeff' then start.next else start
    ({ place := start : Scan }).takeAll (cs.length + 2)
  else malformed

end EntityModel.Yaml
