import EntityModel.Declaration.Entity

/-!
# Declarations built directly

Declarations that are built from their parts instead of read from a document, under the same rules.
What is not given stays at its default.
-/

namespace EntityModel

/-! ### Fields -/

/-- What may be given for a plain field besides its name and type. -/
structure PlainOptions where
  nullable : Value := .bool false
  unique : Value := .bool false
  readonly : Value := .bool false
  default : Option Value := none
  min : Value := .null
  max : Value := .null
  pattern : Value := .null
  message : Value := .null
  hint : Value := .null
  description : Value := .text ""
  deriving Repr

namespace Field

/-- The field itself under a name and a type, if these and the rest make sense together. -/
def named (name type : Value) (make : String → Field) : Outcome Field := do
  if !name.isGiven then refuse (.emptyName .field)
  checked (make (← type.asText))

def constraintsOf (min max pattern message : Value) : Outcome (Option Constraints) :=
  if min.isNull && max.isNull && pattern.isNull && message.isNull then .ok none
  else some <$> Constraints.make min max pattern message

def plain (name type : Value) (o : PlainOptions) : Outcome Field := do
  let constraints ← constraintsOf o.min o.max o.pattern o.message
  named name type fun type => {
    name, type, nullable := o.nullable, unique := o.unique, readonly := o.readonly,
    default := o.default, constraints, hint := o.hint, description := o.description }

def reference (name target nullable unique : Value) : Outcome Field :=
  named name (.text FieldKind.reference.tag) fun type => { name, type, target, nullable, unique }

/-- A field that takes one of a list of values. -/
def enumeration (name values : Value) (default : Option Value) (nullable : Value) :
    Outcome Field := do
  let values ← values.elements
  named name (.text FieldKind.enumeration.tag) fun type => {
    name, type, values := some values, default, nullable }

/-- A field that takes a list of elements. -/
def array (name : Value) (items : Option Field) (min max nullable : Value) : Outcome Field := do
  let constraints ← constraintsOf min max .null .null
  named name (.text FieldKind.array.tag) fun type => { name, type, items, constraints, nullable }

/-- The elements of an array that are given by their type alone. -/
def element (type : Value) : Outcome Field :=
  named (.text "item") type fun type => { name := .text "item", type }

def object (name : Value) (shape : List Field) (nullable : Value) : Outcome Field :=
  named name (.text FieldKind.object.tag) fun type => { name, type, shape := some shape, nullable }

end Field

/-! ### Relations -/

namespace Relation

/-- What may be given for a relation besides its name, kind and target. -/
structure Options where
  foreignKey : Value := .null
  eager : Value := .bool false
  orderBy : Value := .null
  limit : Value := .null
  through : Value := .null
  otherKey : Value := .null
  deriving Repr

/-- A relation, with an order out of a mapping. -/
def ofKind (kind : RelationKind) (name target : Value) (o : Options) : Outcome Relation := do
  let orderBy ← decodeOrder o.orderBy
  checked {
    name, kind, target, foreignKey := o.foreignKey, eager := o.eager, orderBy, limit := o.limit,
    through := o.through, otherKey := o.otherKey }

/-- A pair of a column and a direction. -/
def asSortKey (v : Value) : Outcome (Scalar × Value) := do
  match ← v.elements with
  | [column, direction] => return (← column.asScalar, direction)
  | parts =>
    if parts.length < 2 then refuse (.tooFewParts 2 parts.length) else refuse (.tooManyParts 2)

/-- Pairs of columns and directions up to the first one that is refused. -/
def sortKeys : List Value → Outcome (List (Scalar × Value))
  | [] => .ok []
  | v :: rest => do
    let key ← asSortKey v
    SortOrder.checkDirections [key]
    return key :: (← sortKeys rest)

/-- An order out of a mapping or a list of pairs; an empty one is kept. -/
def givenOrderOf : Value → Outcome (Option SortOrder)
  | .null => .ok none
  | .map entries => .ok (some { keys := entries })
  | v =>
    if v.isGiven then do return some { keys := ← sortKeys (← v.elements), listed := true }
    else .ok (some { keys := [], listed := true })

/-- A relation out of all its parts, with an order out of a mapping or a list of pairs. -/
def ofParts (name : Value) (kind : Outcome RelationKind) (target : Value) (o : Options) :
    Outcome Relation := do
  if !name.isGiven then refuse (.emptyName .relation)
  let kind ← kind
  if !target.isGiven then refuse (.noRelationTarget name)
  let orderBy ← givenOrderOf o.orderBy
  checked {
    name, kind, target, foreignKey := o.foreignKey, eager := o.eager, orderBy, limit := o.limit,
    through := o.through, otherKey := o.otherKey }

end Relation

/-! ### Policies -/

namespace Policy

/-- The predicates of a policy by operation. -/
structure Predicates where
  select : Predicate := .written .null
  insert : Predicate := .written .null
  update : Predicate := .written .null
  delete : Predicate := .written .null
  deriving Repr

def ofParts (scope : List Scope) (bypass : List Bypass) (p : Predicates) (sql : Value) :
    Outcome Policy :=
  Policy.withFragments
    { scope, bypass, select := p.select, insert := p.insert, update := p.update,
      delete := p.delete }
    sql

/-- Scope rules out of a mapping of fields to context keys. -/
def scopesOf (entries : Entries) : List Scope :=
  entries.map fun (field, key) => ⟨.scalar field, key⟩

/-- Bypass conditions out of a mapping of context keys to values. -/
def bypassesOf (entries : Entries) : Outcome (List Bypass) :=
  entries.mapM fun (key, values) => do return ⟨.scalar key, ← values.elements⟩

end Policy

/-! ### Procedures -/

namespace Procedure

/-- What may be given for a procedure besides its name, return expression and arguments. -/
structure Options where
  sql : Value := .text ""
  language : Value := .text "sql"
  volatility : Value := .text "volatile"
  security : Value := .text "invoker"
  description : Value := .text ""
  deriving Repr

def ofParts (name returns : Value) (args : List Argument) (o : Options) : Outcome Procedure :=
  make name returns args o.sql o.language o.volatility o.security o.description

/-- Arguments out of a mapping of names to types. -/
def argumentsOf (entries : Entries) : List Argument :=
  entries.map fun (name, type) => { name := .scalar name, type }

end Procedure

end EntityModel
