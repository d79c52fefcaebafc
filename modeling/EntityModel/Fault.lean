import EntityModel.Value.Display

/-!
# Faults

Why a declaration, a document or a request is refused. Every constructor is a cause; the wording
stands in `Refusal.message` and `Failure.message?`. Authoring problems that only make a result worse
are not faults but diagnostics.
-/

namespace EntityModel

/-! ### Refusals -/

/-- The parts of a declaration that carry a name. -/
inductive NamedPart where
  | entity | field | relation | procedure
  deriving DecidableEq, Repr

namespace NamedPart

/-- The part's name at the start of a sentence. -/
def title : NamedPart → String
  | entity => "Entity"
  | field => "Field"
  | relation => "Relation"
  | procedure => "Procedure"

/-- The part's name inside a sentence. -/
def label : NamedPart → String
  | entity => "entity"
  | field => "field"
  | relation => "relation"
  | procedure => "procedure"

end NamedPart

/-- What is wrong with a value that is of the right kind. -/
inductive Refusal where
  | emptyName (part : NamedPart)
  | repeatedName (part : NamedPart) (name entity : Value)
  | repeatedSubField (field : Value)
  | noValues (field : Value)
  | noTarget (field : Value)
  | noItems (field : Value)
  | noRelationTarget (relation : Value)
  | noReturns (procedure : Value)
  | noIndexFields
  | crossedBounds (low high : Value)
  | fieldKind (tag : String) (valid : List String)
  | relationKind (tag : String) (valid : List String)
  | direction (column : Scalar) (written : String)
  | negativeLimit (limit : Value)
  | volatility (procedure written : Value)
  | security (procedure written : Value)
  | notMember (written : Value) (family : String)
  | sqlOperations (unknown : List Value)
  | operation (name : String)
  | notNumber (text : String)
  | notWholeNumber (text : String) (base : Nat)
  | notWhole
  | tooFewParts (expected got : Nat)
  | tooManyParts (expected : Nat)
  | pairSize (position size : Nat)
  | calendar (problem : String)
  | codePoint
  | apiPrefix (written : String)
  | logLevel (written : String) (valid : List String)
  | logFormat (written : String)
  | emptyTable (entity : String)
  deriving Repr

def Refusal.message : Refusal → String
  | emptyName part => s!"{part.title} name cannot be empty"
  | repeatedName part name entity =>
    s!"Duplicate {part.label} '" ++ name.shown ++ "' in entity '" ++ entity.shown ++ "'"
  | repeatedSubField field => "Duplicate sub-field name in object field '" ++ field.shown ++ "'"
  | noValues field => "values required for enum field '" ++ field.shown ++ "'"
  | noTarget field => "target required for ref field '" ++ field.shown ++ "'"
  | noItems field => "items required for array field '" ++ field.shown ++ "'"
  | noRelationTarget relation => "target required for relation '" ++ relation.shown ++ "'"
  | noReturns procedure => "returns required for procedure '" ++ procedure.shown ++ "'"
  | noIndexFields => "Index must cover at least one field"
  | crossedBounds low high => "min (" ++ low.shown ++ ") must be <= max (" ++ high.shown ++ ")"
  | fieldKind tag valid =>
    "Invalid field kind '" ++ tag ++ "'. Valid kinds: " ++ (Value.texts valid).quoted
  | relationKind tag valid =>
    "Invalid relation kind '" ++ tag ++ "'. Valid kinds: " ++ (Value.texts valid).quoted
  | direction column written =>
    "order_by direction for '" ++ column.shown ++ "' must be 'asc' or 'desc', got '" ++
    written ++ "'"
  | negativeLimit limit => "limit must be non-negative, got " ++ limit.shown
  | volatility procedure written =>
    "volatility for '" ++ procedure.shown ++ "' must be volatile, stable or immutable, got '" ++
      written.shown ++ "'"
  | security procedure written =>
    "security for '" ++ procedure.shown ++ "' must be invoker or definer, got '" ++
      written.shown ++ "'"
  | notMember written family => written.quoted ++ " is not a valid " ++ family
  | sqlOperations unknown => "Unknown RLS sql operations: " ++ (Value.list unknown).quoted
  | operation name => "Unknown RLS operation '" ++ name ++ "'"
  | notNumber text => "could not convert string to float: " ++ Text.quoted text
  | notWholeNumber text base =>
    s!"invalid literal for int() with base {base}: " ++ Text.quoted text
  | notWhole => "cannot convert float NaN to integer"
  | tooFewParts expected got =>
    s!"not enough values to unpack (expected {expected}, got {got})"
  | tooManyParts expected => s!"too many values to unpack (expected {expected})"
  | pairSize position size =>
    s!"dictionary update sequence element #{position} has length {size}; 2 is required"
  | calendar problem => problem
  | codePoint => "chr() arg not in range(0x110000)"
  | apiPrefix written => "SCHEMAC_API_PREFIX must start with '/', got '" ++ written ++ "'"
  | logLevel written valid =>
    "Invalid SCHEMAC_LOG_LEVEL '" ++ written ++ "'. Must be one of: " ++ ", ".intercalate valid
  | logFormat written =>
    "Invalid SCHEMAC_LOG_FORMAT '" ++ written ++ "'. Must be one of: text, json"
  | emptyTable entity => "Empty table name for entity '" ++ entity ++ "' in SCHEMAC_TABLE_MAP"

/-! ### Failures -/

/-- The failures that name the entity they concern. -/
inductive Failure where
  /-- a failure without a kind of its own; an absent code or detail has a stand-in -/
  | general (text code details : Value)
  /-- a declaration that could not be read; no text when a part of it is of the wrong kind -/
  | definition (text : Option Value) (entity path : Value)
  /-- two entities of one name -/
  | duplicateEntity (name : Value)
  /-- a result that contradicts itself -/
  | invariant (text entity rule : Value)
  deriving Repr

namespace Failure

def message? : Failure → Option Value
  | general text _ _ => some text
  | definition text _ _ => text
  | duplicateEntity name =>
    some (.text ("Entity '" ++ name.shown ++ "' is defined more than once"))
  | invariant text _ _ => some text

/-- The code by which programs tell failures apart. -/
def code : Failure → Value
  | general _ code _ => if code.isGiven then code else .text "SCHEMAC_ERROR"
  | definition .. => .text "DEFINITION_ERROR"
  | duplicateEntity _ => .text "DUPLICATE_ENTITY"
  | invariant .. => .text "INVARIANT_VIOLATION"

def details : Failure → Value
  | general _ _ details => if details.isGiven then details else .map []
  | definition _ entity path => .record [("entity", entity), ("path", path)]
  | duplicateEntity name => .record [("entity", name)]
  | invariant _ entity rule => .record [("entity", entity), ("invariant", rule)]

end Failure

/-! ### Faults -/

/-- Why an operation has no result. -/
inductive Fault where
  /-- a value of a kind that the operation does not take, or a call whose arguments do not fit -/
  | wrongKind
  /-- a mapping without an entry that is needed -/
  | missingKey (key : String)
  /-- a value of the right kind that is refused -/
  | refused (refusal : Refusal)
  /-- a number beyond the range of the type that it is converted to -/
  | outOfRange (problem : String)
  /-- a number that is written without any character -/
  | emptyNumber
  | failed (failure : Failure)
  /-- settings of the wrong type, or unknown ones -/
  | invalidSettings
  /-- an environment variable that is no JSON text -/
  | unreadableSettings
  deriving Repr

namespace Fault

/-- The wording of a fault, where it has one of its own. -/
def message? : Fault → Option String
  | wrongKind | invalidSettings | unreadableSettings => none
  | missingKey key => some (Text.quoted key)
  | refused refusal => some refusal.message
  | outOfRange problem => some problem
  | emptyNumber => some "string index out of range"
  | failed failure => failure.message?.map Value.shown

end Fault

/-- A result or the reason why there is none. -/
abbrev Outcome := Except Fault

def refuse {α : Type} (refusal : Refusal) : Outcome α := .error (.refused refusal)

def wrongKind {α : Type} : Outcome α := .error .wrongKind

end EntityModel
