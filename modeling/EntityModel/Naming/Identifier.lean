import EntityModel.Naming.Case

/-!
# Safe identifiers

An identifier of the generated code for an arbitrary key.
-/

namespace EntityModel.Naming

open Text

/-- Words of the generated language that cannot be identifiers. -/
def reservedWords : List String :=
  ["False", "None", "True", "and", "as", "assert", "async", "await", "break", "class", "continue",
    "def", "del", "elif", "else", "except", "finally", "for", "from", "global", "if", "import",
    "in", "is", "lambda", "nonlocal", "not", "or", "pass", "raise", "return", "try", "while",
    "with", "yield"]

def isReserved (cs : List Char) : Bool := reservedWords.contains (String.ofList cs)

/-- An ASCII letter or an underscore. -/
def isHeadChar (c : Char) : Bool := c.isAlpha || c == '_'

/-- An ASCII letter, a digit or an underscore. -/
def isTailChar (c : Char) : Bool := c.isAlphanum || c == '_'

/-- Whether characters have the shape of an identifier; a line end after it is let through. -/
def isIdentifierShaped (cs : List Char) : Bool :=
  let body := if cs.getLast? == some '\n' then cs.dropLast else cs
  match body with
  | [] => false
  | c :: rest => isHeadChar c && rest.all isTailChar

/-- The camel case name made of the letters and digits of a key. -/
def camelIdentifier (cs : List Char) : List Char :=
  (camelOf (cs.map fun c => if c.isAlphanum then c else ' ')).filter isTailChar

/-- An identifier for a key: the key itself if it can be one, else its camel case name, marked by
an underscore where it would be empty, reserved or start with a digit. -/
def toSafeIdentifier (key : String) : String :=
  let cs := key.toList
  if isIdentifierShaped cs && !isReserved cs then key
  else
    let camel := camelIdentifier cs
    if camel.isEmpty || (camel.headD '_').isDigit || isReserved camel then
      String.ofList ('_' :: camel)
    else String.ofList camel

end EntityModel.Naming
