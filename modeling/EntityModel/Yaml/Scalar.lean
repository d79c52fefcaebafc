import EntityModel.Number.Reading
import EntityModel.Yaml.Moment

/-!
# Types of nodes and what scalars mean

A node has the type that its tag names. A plain scalar without a tag has the type of the value that
it looks like: a word for a truth value, a number, a date, or else a text. Whole numbers are written
in decimal, in octal after a zero, in hexadecimal or in binary, or in parts of sixty with colons
between them; a number with a fraction needs a point.

Bytes and sets are no values here: the tags `!!binary` and `!!set` name no known type, and a node
with one of them is refused, as it is with any other unknown tag.
-/

namespace EntityModel.Yaml

/-- The types of nodes. -/
inductive NodeType where
  | null | bool | whole | real | moment | text
  /-- the key under which other mappings are merged -/
  | merge
  /-- the key of the value that a mapping amounts to -/
  | default
  | list | pairs | map
  | unknown
  deriving DecidableEq, Repr

/-! ### Recognition -/

/-- The parts of a text between the occurrences of a character. -/
def splitAtChar (c : Char) : List Char → List (List Char)
  | [] => [[]]
  | d :: rest =>
    if d == c then [] :: splitAtChar c rest
    else match splitAtChar c rest with
      | [] => [[d]]
      | part :: parts => (d :: part) :: parts

/-- Whether a character is a digit or an underscore. -/
def isDigitOrLine (c : Char) : Bool := c.isDigit || c == '_'

/-- A digit, and digits or underscores. -/
def isNumeral : List Char → Bool
  | [] => false
  | c :: rest => c.isDigit && rest.all isDigitOrLine

def isSixtieth : List Char → Bool
  | [c] => c.isDigit
  | [c, d] => c.isDigit && c.toNat < 0x36 && d.isDigit
  | _ => false

/-- The text without a sign. -/
def unsigned (cs : List Char) : List Char := (Number.signed cs).2

/-- Whether a text writes a whole number. -/
def isWholeText (cs : List Char) : Bool :=
  match unsigned cs with
  | ['0'] => true
  | '0' :: 'b' :: digits => !digits.isEmpty && digits.all fun c => c == '0' || c == '1' || c == '_'
  | '0' :: 'x' :: digits =>
    !digits.isEmpty && digits.all fun c => (Number.digitIn? 16 c).isSome || c == '_'
  | '0' :: digits => digits.all fun c => (Number.digitIn? 8 c).isSome || c == '_'
  | body => match splitAtChar ':' body with
    | first :: parts => isNumeral first && parts.all isSixtieth
    | [] => false

def isExponent : List Char → Bool
  | e :: sign :: digits =>
    (e == 'e' || e == 'E') && (sign == '+' || sign == '-') && !digits.isEmpty &&
      digits.all Char.isDigit
  | _ => false

/-- What follows the point: digits or underscores, and an exponent. -/
def isFraction (cs : List Char) : Bool :=
  let rest := cs.dropWhile isDigitOrLine
  rest.isEmpty || isExponent rest

/-- A number in parts of sixty, the last with a point. -/
def isSixtyReal (cs : List Char) : Bool :=
  let whole := cs.takeWhile (· != '.')
  let fraction := cs.drop whole.length
  match splitAtChar ':' whole with
  | first :: part :: parts =>
    isNumeral first && (part :: parts).all isSixtieth && fraction.take 1 == ['.'] &&
      (fraction.drop 1).all isDigitOrLine
  | _ => false

/-- Whether a text writes a number with a fraction. -/
def isRealText (cs : List Char) : Bool :=
  let body := unsigned cs
  let whole := body.takeWhile (· != '.')
  let fraction := body.drop whole.length
  (isNumeral whole && fraction.take 1 == ['.'] && isFraction (fraction.drop 1)) ||
    (match cs with
      | '.' :: c :: rest => c.isDigit && isFraction rest
      | _ => false) ||
    isSixtyReal body ||
    [".inf", ".Inf", ".INF"].contains (String.ofList body) ||
    [".nan", ".NaN", ".NAN"].contains (String.ofList cs)

def truthWords : List String :=
  ["yes", "Yes", "YES", "no", "No", "NO", "true", "True", "TRUE", "false", "False", "FALSE",
    "on", "On", "ON", "off", "Off", "OFF"]

/-- The type of a plain scalar without a tag. -/
def NodeType.ofPlain (s : String) : NodeType :=
  let cs := s.toList
  if truthWords.contains s then .bool
  else if isRealText cs then .real
  else if isWholeText cs then .whole
  else if s == "<<" then .merge
  else if ["~", "null", "Null", "NULL", ""].contains s then .null
  else if isMoment cs then .moment
  else if s == "=" then .default
  else if ["!", "&", "*"].contains s then .unknown
  else .text

def NodeType.ofTag : String → NodeType
  | "tag:yaml.org,2002:null" => .null
  | "tag:yaml.org,2002:bool" => .bool
  | "tag:yaml.org,2002:int" => .whole
  | "tag:yaml.org,2002:float" => .real
  | "tag:yaml.org,2002:timestamp" => .moment
  | "tag:yaml.org,2002:str" => .text
  | "tag:yaml.org,2002:merge" => .merge
  | "tag:yaml.org,2002:value" => .default
  | "tag:yaml.org,2002:seq" => .list
  | "tag:yaml.org,2002:omap" => .pairs
  | "tag:yaml.org,2002:pairs" => .pairs
  | "tag:yaml.org,2002:map" => .map
  | _ => .unknown

/-! ### Values -/

def truthValue (s : String) : Reading Bool :=
  let word := Text.lowercase s
  if ["yes", "true", "on"].contains word then .ok true
  else if ["no", "false", "off"].contains word then .ok false
  else noValue (.missingKey word)

/-- The number that digits in a base write. -/
def wholeIn (base : Nat) (digits : List Char) : Reading Int :=
  match Number.readDigitsIn? base digits with
  | some n => .ok n
  | none => noValue (.refused (.notWholeNumber (String.ofList digits) base))

/-- The number that a text writes in decimal. -/
def wholeInTen (digits : List Char) : Reading Int :=
  match Number.readWhole? (String.ofList digits) with
  | some i => .ok i
  | none => noValue (.refused (.notWholeNumber (String.ofList digits) 10))

/-- The whole number that a text writes. -/
def wholeValue (s : String) : Reading Int := do
  let cs := s.toList.filter (· != '_')
  if cs.isEmpty then noValue .emptyNumber
  else
    let (negative, body) := Number.signed cs
    let magnitude ← match body with
      | [] => noValue .emptyNumber
      | ['0'] => pure 0
      | '0' :: 'b' :: digits => wholeIn 2 digits
      | '0' :: 'x' :: digits => wholeIn 16 digits
      | '0' :: _ => wholeIn 8 body
      | _ => do
        let parts ← (splitAtChar ':' body).mapM wholeInTen
        pure (parts.foldl (fun n part => 60 * n + part) 0)
    return if negative then -magnitude else magnitude

/-- The number that a text writes in decimal, with or without a fraction. -/
def realInTen (cs : List Char) : Reading Binary64 :=
  match Number.readReal? (String.ofList cs) with
  | some x => .ok x
  | none => noValue (.refused (.notNumber (String.ofList cs)))

/-- The sum of parts, each counted sixty times as often as the one before it. -/
def sumOfParts : (unit : Nat) → List Binary64 → Binary64 → Binary64
  | _, [], sum => sum
  | unit, x :: rest, sum => sumOfParts (60 * unit) rest (sum.add (x.times unit))

/-- The number with a fraction that a text writes. -/
def realValue (s : String) : Reading Binary64 := do
  let cs := Text.lowerChars (s.toList.filter (· != '_'))
  if cs.isEmpty then noValue .emptyNumber
  else
    let (negative, body) := Number.signed cs
    if String.ofList body == ".nan" then return .nan
    else
      let magnitude ←
        if String.ofList body == ".inf" then pure (.infinite false)
        else if body.contains ':' then do
          let parts ← (splitAtChar ':' body).mapM realInTen
          pure (sumOfParts 1 parts.reverse (.zero false))
        else realInTen body
      return if negative then magnitude.neg else magnitude

def momentValue (s : String) : Reading Moment :=
  match readMoment? s.toList with
  | none => noValue .wrongKind
  | some m => match m.problem? with
    | none => .ok m
    | some problem => noValue (.refused (.calendar problem))

def NodeType.scalar (type : NodeType) (s : String) : Reading Scalar :=
  match type with
  | .null => .ok .null
  | .bool => .bool <$> truthValue s
  | .whole => .int <$> wholeValue s
  | .real => .real <$> realValue s
  | .moment => .moment <$> momentValue s
  | .text => .ok (.text s)
  | _ => malformed

end EntityModel.Yaml
