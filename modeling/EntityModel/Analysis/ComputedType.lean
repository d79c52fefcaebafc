import EntityModel.Declaration.Computed
import EntityModel.Naming.Case
import EntityModel.Text.Affix

/-!
# Types of computed properties

The type of a computed property, declared or inferred from its name. The rules on names are tried
in order and the first that fits counts: dates before numbers, then truth values, texts, lists and
objects. A name that no rule fits and that starts with a verb is tried once more without it.
-/

namespace EntityModel

/-- A type that can be inferred. -/
inductive InferredType where
  | number | boolean | string | date | array | object | unknown
  deriving DecidableEq, Repr

namespace InferredType

def tag : InferredType → String
  | number => "number"
  | boolean => "boolean"
  | string => "string"
  | date => "date"
  | array => "array"
  | object => "object"
  | unknown => "unknown"

def codeType : InferredType → String
  | number => "float"
  | boolean => "bool"
  | string => "str"
  | date => "datetime"
  | array => "list[Any]"
  | object => "dict[str, Any]"
  | unknown => "Any"

def declared : List (String × InferredType) := [
  ("number", number), ("int", number), ("integer", number), ("float", number),
  ("boolean", boolean), ("bool", boolean), ("string", string), ("text", string), ("str", string),
  ("date", date), ("datetime", date), ("array", array), ("list", array), ("object", object),
  ("json", object)]

/-- The type that a declared tag names, in any case and with blanks around it. -/
def ofDeclared? (written : String) : Option InferredType :=
  declared.lookup (Text.lowercase (Text.stripped written))

end InferredType

/-! ### Names -/

/-- A property's name, whole and in words, in lowercase. -/
structure PropertyName where
  lower : List Char
  words : List String

namespace PropertyName

def ofText (name : String) : PropertyName where
  lower := Text.lowerChars name.toList
  words := (Naming.splitWords name).map Text.lowercase

def first (n : PropertyName) : String := n.words.headD ""

def last (n : PropertyName) : String := n.words.getLastD ""

/-- Whether the name has several words. -/
def isCompound (n : PropertyName) : Bool := 1 < n.words.length

end PropertyName

/-! ### Word lists -/

namespace ComputedType

def dateWords : List String :=
  ["at", "date", "time", "timestamp", "datetime", "since", "until", "deadline"]

def datePrefixes : List String := ["date", "time"]

def dateSuffixes : List String := ["timestamp", "datetime", "deadline"]

def numericPrefixes : List String :=
  ["total", "sum", "avg", "average", "count", "num", "number", "min", "max", "mean"]

def numericSuffixes : List String :=
  ["count", "total", "sum", "avg", "average", "min", "max", "length", "size", "index"]

def measureWords : List String :=
  ["amount", "price", "cost", "fee", "balance", "score", "rating", "rank", "level", "age", "weight",
    "height", "width", "depth", "quantity", "percent", "percentage", "ratio", "progress",
    "position", "order", "duration", "offset", "limit", "revenue", "income", "profit"]

/-- Measures that count wherever they stand in a name. -/
def measureParts : List String :=
  ["amount", "price", "balance", "quantity", "percent", "revenue", "income", "profit", "weight",
    "height", "width", "duration", "progress"]

def booleanPrefixes : List String :=
  ["is", "has", "can", "should", "will", "was", "did", "does", "allow", "enable", "disable"]

def booleanSuffixes : List String :=
  ["enabled", "disabled", "active", "visible", "hidden", "valid", "invalid", "complete", "empty",
    "loading", "loaded", "ready", "available", "exists", "selected", "checked", "required",
    "optional"]

def stringSuffixes : List String :=
  ["name", "title", "label", "description", "text", "content", "message", "str", "string", "slug",
    "path", "url", "uri", "email", "phone", "address", "display", "format", "html", "json", "type",
    "status", "key", "id", "code", "token", "hash", "signature"]

/-- Endings of texts that count without a word boundary before them. -/
def longStringSuffixes : List String := stringSuffixes.filter (4 ≤ ·.length)

def stringGetterWords : List String := ["name", "title", "label", "display", "format", "string"]

def arraySuffixes : List String :=
  ["list", "array", "items", "collection", "all", "entries", "values", "keys", "ids", "names"]

def arrayPrefixes : List String := ["all", "list"]

def getterWords : List String := ["get", "fetch", "load", "find"]

def objectSuffixes : List String :=
  ["config", "options", "settings", "props", "properties", "data", "info", "meta", "metadata",
    "attrs", "attributes", "context", "state", "result", "response", "payload"]

/-- Endings of objects that count without a word boundary before them. -/
def longObjectSuffixes : List String := objectSuffixes.filter (6 ≤ ·.length)

/-- Verbs before the name of what is computed. -/
def verbs : List String := ["get", "compute", "calculate", "derive"]

/-! ### Rules -/

/-- A test on names. -/
abbrev Rule := PropertyName → Bool

def isDate : Rule := fun n =>
  dateWords.contains n.last || (n.isCompound && datePrefixes.contains n.first) ||
    Text.endsInAny n.lower dateSuffixes

def hasNumericPrefix : Rule := fun n => n.isCompound && numericPrefixes.contains n.first

def hasNumericSuffix : Rule := fun n => numericSuffixes.contains n.last

def hasMeasure : Rule := fun n =>
  n.words.any measureWords.contains || measureParts.any fun part => Text.hasPart part n.lower

def hasBooleanPrefix : Rule := fun n => n.isCompound && booleanPrefixes.contains n.first

def hasBooleanSuffix : Rule := fun n => booleanSuffixes.contains n.last

def hasStringSuffix : Rule := fun n =>
  stringSuffixes.contains n.last || Text.endsInAny n.lower longStringSuffixes

def isStringGetter : Rule := fun n =>
  n.first == "get" && (n.words.drop 1).any stringGetterWords.contains

def hasArrayMark : Rule := fun n =>
  arraySuffixes.contains n.last || (n.isCompound && arrayPrefixes.contains n.first)

def isPluralGetter : Rule := fun n =>
  n.isCompound && getterWords.contains n.first && Text.endsIn n.lower "s" &&
    !Text.endsIn n.lower "ss"

def hasObjectSuffix : Rule := fun n =>
  objectSuffixes.contains n.last || Text.endsInAny n.lower longObjectSuffixes

/-- The rules in order, with the types that they infer. -/
def rules : List (Rule × InferredType) := [
  (isDate, .date), (hasNumericPrefix, .number), (hasNumericSuffix, .number), (hasMeasure, .number),
  (hasBooleanPrefix, .boolean), (hasBooleanSuffix, .boolean), (hasStringSuffix, .string),
  (isStringGetter, .string), (hasArrayMark, .array), (isPluralGetter, .array),
  (hasObjectSuffix, .object)]

/-- The type by the first rule that fits a name. -/
def byRule? (n : PropertyName) : Option InferredType := (rules.find? fun rule => rule.1 n).map (·.2)

def withoutVerb (n : PropertyName) : PropertyName :=
  .ofText (Naming.toCamelCase ("_".intercalate (n.words.drop 1)))

def infer (name : String) : InferredType :=
  let n := PropertyName.ofText name
  match byRule? n with
  | some type => type
  | none =>
    if n.isCompound && verbs.contains n.first then (byRule? (withoutVerb n)).getD .unknown
    else .unknown

end ComputedType

/-! ### Computed properties -/

/-- A computed property with its type. -/
structure TypedComputed where
  name : Value
  type : InferredType
  /-- whether the type comes from the name -/
  inferred : Bool
  deriving Repr

namespace TypedComputed

/-- The document form of a typed computed property. -/
def encode (c : TypedComputed) : Value :=
  .record [("name", c.name), ("type", .text c.type.tag), ("python_type", .text c.type.codeType),
    ("inferred", .bool c.inferred)]

/-- A property with its declared type, or else the one that its name suggests. -/
def make (name declared : Value) : Outcome TypedComputed := do
  let known ← if declared.isGiven then InferredType.ofDeclared? <$> declared.asText else pure none
  match known with
  | some type => return ⟨name, type, false⟩
  | none => return ⟨name, ComputedType.infer (← name.asText), true⟩

/-- A declared computed property with its type. -/
def ofComputed (c : Computed) : Outcome TypedComputed := make c.name c.type

end TypedComputed

end EntityModel
