import EntityModel.Value.Reading
import EntityModel.Text.Quoted

/-!
# Writing JSON

A value as a JSON text. Every character outside printable ASCII is escaped. There are three
layouts: one line, indented lines, and the canonical text from which a fingerprint is taken, which
has sorted keys and no blanks. A mapping's keys may be any scalars but moments; the canonical text
also needs keys that compare with each other.
-/

namespace EntityModel.Json

/-- How the parts of a text are set. -/
inductive Layout where
  /-- one line, with a blank after each comma and colon -/
  | line
  /-- each item on a line of its own, indented by so many blanks a level -/
  | indented (width : Nat)
  /-- sorted keys and no blanks -/
  | canonical
  deriving DecidableEq, Repr

/-! ### Strings -/

def unitEscape (n : Nat) : List Char := '\\' :: 'u' :: Text.hexDigits 4 n

def stringChar (c : Char) : List Char :=
  if c == '"' then ['\\', '"']
  else if c == '\\' then ['\\', '\\']
  else if c == '\n' then ['\\', 'n']
  else if c == '\r' then ['\\', 'r']
  else if c == '\t' then ['\\', 't']
  else if c == '\x0c' then ['\\', 'f']
  else if c == '\x08' then ['\\', 'b']
  else if 0x20 ≤ c.val && c.val ≤ 0x7E then [c]
  else if c.toNat ≤ 0xFFFF then unitEscape c.toNat
  else
    let n := c.toNat - 0x10000
    unitEscape (0xD800 + n / 0x400) ++ unitEscape (0xDC00 + n % 0x400)

def stringChars (cs : List Char) : List Char := '"' :: cs.flatMap stringChar ++ ['"']

def string (s : String) : String := String.ofList (stringChars s.toList)

/-! ### Scalars -/

def realText : Binary64 → String
  | .nan => "NaN"
  | .infinite negative => if negative then "-Infinity" else "Infinity"
  | x => x.shown

def scalarText : Scalar → String
  | .null => "null"
  | .bool b => if b then "true" else "false"
  | .int i => toString i
  | .real x => realText x
  | .text s => string s
  | .moment m => string m.shown

/-- A key: every scalar but a moment has a text. -/
def keyText? : Scalar → Option String
  | .text s => some (string s)
  | .moment _ => none
  | s => some (string (scalarText s))

/-! ### Values -/

def newLine (width level : Nat) : String :=
  "\n" ++ String.ofList (List.replicate (width * level) ' ')

/-- Parts between brackets, which are one level deeper. -/
def bracketed (layout : Layout) (level : Nat) (opening closing : String)
    (parts : List String) : String :=
  if parts.isEmpty then opening ++ closing
  else match layout with
    | .line => opening ++ ", ".intercalate parts ++ closing
    | .canonical => opening ++ ",".intercalate parts ++ closing
    | .indented width =>
      opening ++ newLine width (level + 1) ++
        ("," ++ newLine width (level + 1)).intercalate parts ++ newLine width level ++ closing

/-- What stands between a key and its value. -/
def colon : Layout → String
  | .canonical => ":"
  | _ => ": "

/-- An entry's key before its value. -/
def entryText (layout : Layout) (entry : Scalar × String) : Outcome String :=
  match keyText? entry.1 with
  | some key => .ok (key ++ colon layout ++ entry.2)
  | none => wrongKind

mutual

def write (layout : Layout) (level : Nat) : Value → Outcome String
  | .scalar s => .ok (scalarText s)
  | .list items => do
    return bracketed layout level "[" "]" (← writeItems layout (level + 1) items)
  | .map entries => do
    let written ← writeEntries layout (level + 1) entries
    let ordered ← if layout = .canonical then Value.sortedBy (·.1) written else .ok written
    return bracketed layout level "\x7b" "\x7d" (← ordered.mapM (entryText layout))

def writeItems (layout : Layout) (level : Nat) : List Value → Outcome (List String)
  | [] => .ok []
  | v :: vs => do return (← write layout level v) :: (← writeItems layout level vs)

/-- The values of a mapping beside their keys. -/
def writeEntries (layout : Layout) (level : Nat) :
    List (Scalar × Value) → Outcome (List (Scalar × String))
  | [] => .ok []
  | (k, v) :: rest => do
    return (k, ← write layout level v) :: (← writeEntries layout level rest)

end

def text (layout : Layout) (v : Value) : Outcome String := write layout 0 v

end EntityModel.Json
