import EntityModel.Fault
import EntityModel.Text.Blank
import EntityModel.Text.Casing

/-!
# Kinds

The closed families of words that a declaration may use: kinds of fields and relations, access
methods of indexes, operations under a policy, and the classes of stored procedures.
-/

namespace EntityModel

/-! ### Fields -/

/-- What a field holds. -/
inductive FieldKind where
  | uuid | string | text | email | url | integer | number | boolean | date | enumeration | reference
  | array | object
  deriving DecidableEq, Repr

namespace FieldKind

/-- Every kind of field, in the order in which messages list them. -/
def all : List FieldKind :=
  [uuid, string, text, email, url, integer, number, boolean, date, enumeration, reference, array,
    object]

def tag : FieldKind → String
  | uuid => "uuid"
  | string => "string"
  | text => "text"
  | email => "email"
  | url => "url"
  | integer => "int"
  | number => "number"
  | boolean => "boolean"
  | date => "date"
  | enumeration => "enum"
  | reference => "ref"
  | array => "array"
  | object => "object"

/-- The constant by which declaration scripts name a kind. -/
def constant : FieldKind → String
  | uuid => "UUID"
  | string => "STRING"
  | text => "TEXT"
  | email => "EMAIL"
  | url => "URL"
  | integer => "INTEGER"
  | number => "NUMBER"
  | boolean => "BOOLEAN"
  | date => "DATE"
  | enumeration => "ENUM"
  | reference => "REFERENCE"
  | array => "ARRAY"
  | object => "OBJECT"

/-- Other tags in common use. -/
def aliases : List (String × FieldKind) := [
  ("id", uuid), ("str", string), ("integer", integer), ("float", number), ("double", number),
  ("decimal", number), ("bool", boolean), ("datetime", date), ("timestamp", date),
  ("reference", reference), ("list", array), ("json", object)]

def ofTag? (written : String) : Option FieldKind := all.find? (·.tag == written)

/-- The kind that a tag or an alias names, in any case and with blanks around it. -/
def lookup (written : String) : Option FieldKind :=
  let normalized := Text.lowercase (Text.stripped written)
  (ofTag? normalized).or (aliases.lookup normalized)

/-- The kind that a tag or an alias names; an unknown one is refused. -/
def parse (written : String) : Outcome FieldKind :=
  match lookup written with
  | some kind => .ok kind
  | none => refuse (.fieldKind written (all.map tag))

/-- The kind with exactly this tag; another value is refused. -/
def member (written : Value) : Outcome FieldKind :=
  match written.text? >>= ofTag? with
  | some kind => .ok kind
  | none => refuse (.notMember written "FieldKind")

end FieldKind

/-! ### Relations -/

/-- How two entities are associated. -/
inductive RelationKind where
  | belongsTo | hasMany | hasOne | manyToMany
  deriving DecidableEq, Repr

namespace RelationKind

/-- Every kind of relation, in the order in which messages list them. -/
def all : List RelationKind := [belongsTo, hasMany, hasOne, manyToMany]

def tag : RelationKind → String
  | belongsTo => "belongsTo"
  | hasMany => "hasMany"
  | hasOne => "hasOne"
  | manyToMany => "manyToMany"

/-- The constant by which declaration scripts name a kind. -/
def constant : RelationKind → String
  | belongsTo => "BELONGS_TO"
  | hasMany => "HAS_MANY"
  | hasOne => "HAS_ONE"
  | manyToMany => "MANY_TO_MANY"

/-- A tag without hyphens, underscores and blanks, in lowercase. -/
def normalized (written : String) : String :=
  String.ofList (Text.lowerChars (written.toList.filter fun c =>
    !(c == '-' || c == '_' || Text.isBlank c)))

/-- The kind that a tag names, however its words are joined. -/
def lookup (written : String) : Option RelationKind :=
  all.find? fun kind => Text.lowercase kind.tag == normalized written

/-- The kind that a tag names; an unknown one is refused. -/
def parse (written : String) : Outcome RelationKind :=
  match lookup written with
  | some kind => .ok kind
  | none => refuse (.relationKind written (all.map tag))

end RelationKind

/-! ### Indexes -/

/-- How an index finds its rows. -/
inductive IndexMethod where
  | btree | hash | gin | gist | brin
  deriving DecidableEq, Repr

namespace IndexMethod

def all : List IndexMethod := [btree, hash, gin, gist, brin]

/-- The tag by which declarations name a method. -/
def tag : IndexMethod → String
  | btree => "btree"
  | hash => "hash"
  | gin => "gin"
  | gist => "gist"
  | brin => "brin"

/-- The method with exactly this tag; another value is refused. -/
def member (written : Value) : Outcome IndexMethod :=
  match written.text? >>= fun tag => all.find? (·.tag == tag) with
  | some method => .ok method
  | none => refuse (.notMember written "IndexType")

end IndexMethod

/-! ### Policies -/

/-- What a policy controls access for. -/
inductive Operation where
  | select | insert | update | delete
  deriving DecidableEq, Repr

namespace Operation

/-- Every operation, in the order in which policies list them. -/
def all : List Operation := [select, insert, update, delete]

def name : Operation → String
  | select => "select"
  | insert => "insert"
  | update => "update"
  | delete => "delete"

def ofName? (written : String) : Option Operation := all.find? (·.name == written)

end Operation

/-! ### Stored procedures -/

/-- What a stored procedure may change. -/
inductive Volatility where
  | volatile | stable | immutable
  deriving DecidableEq, Repr

namespace Volatility

def word : Volatility → String
  | volatile => "volatile"
  | stable => "stable"
  | immutable => "immutable"

def ofWord? (written : Value) : Option Volatility :=
  written.text? >>= fun w => [volatile, stable, immutable].find? (·.word == w)

end Volatility

/-- With whose rights a stored procedure runs. -/
inductive Security where
  | invoker | definer
  deriving DecidableEq, Repr

namespace Security

def word : Security → String
  | invoker => "invoker"
  | definer => "definer"

def ofWord? (written : Value) : Option Security :=
  written.text? >>= fun w => [invoker, definer].find? (·.word == w)

end Security

end EntityModel
