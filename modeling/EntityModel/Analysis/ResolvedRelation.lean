import EntityModel.Analysis.Diagnostic
import EntityModel.Analysis.Directory
import EntityModel.Naming.Case

/-!
# Resolved relations

Where the foreign key of each relation stands. For a belongs-to relation it is a field of the
declaring entity; for the others a field of the target, or of the join entity if there is one.

A key that is declared is taken as it is. Else the first reference field that points at the other
side counts, then the first field with a customary name; on the target's side a belongs-to relation
that points back is asked first. If nothing is found the key has a default name, and a diagnostic
says so.
-/

namespace EntityModel

/-- Where a foreign key comes from. -/
inductive KeySource where
  /-- it is declared -/
  | explicit
  /-- a field or a relation on the other side has it -/
  | inferred
  /-- nothing was found -/
  | default
  deriving DecidableEq, Repr

def KeySource.word : KeySource → String
  | explicit => "explicit"
  | inferred => "inferred"
  | default => "default"

/-- A relation with its target and its keys. -/
structure ResolvedRelation where
  name : Value
  kind : RelationKind
  /-- the name of the target, or the reference to it where no entity is meant -/
  target : String
  targetPascal : String := ""
  foreignKey : Value := .null
  keySource : KeySource := .default
  /-- the field of the declaring entity that has the key -/
  localField : Value := .null
  targetKnown : Bool := true
  eager : Value := .bool false
  orderBy : Option SortOrder := none
  limit : Value := .null
  /-- the join entity -/
  through : Option String := none
  /-- the key of the join entity that points at the target -/
  otherKey : Value := .null
  deriving Repr

namespace ResolvedRelation

/-- Whether the key was not declared. -/
def isInferred (r : ResolvedRelation) : Bool := r.keySource != .explicit

/-- The document form of a resolved relation. -/
def encode (r : ResolvedRelation) : Value :=
  .record ([("name", r.name), ("kind", .text r.kind.tag), ("target", .text r.target),
      ("target_pascal", .text r.targetPascal), ("foreign_key", r.foreignKey),
      ("fk_source", .text r.keySource.word), ("target_known", .bool r.targetKnown),
      ("eager", r.eager)] ++
    (if r.localField.isGiven then [("local_field", r.localField)] else []) ++
    (match r.orderBy.filter fun o => !o.keys.isEmpty with
      | some o => [("order_by", o.encode)]
      | none => []) ++
    (if r.limit.isNull then [] else [("limit", r.limit)]) ++
    (match r.through with
      | some through => if through.isEmpty then [] else [("through", .text through)]
      | none => []) ++
    (if r.otherKey.isGiven then [("other_key", r.otherKey)] else []))

end ResolvedRelation

/-! ### Finding a key among fields -/

namespace ForeignKey

/-- The names, in lowercase, of fields that by custom point at an entity. -/
def candidates (target : String) : List String :=
  let forms := [Naming.singularize target, Naming.pluralize target [],
    Naming.toSnakeCase (Naming.singularCamel target)]
  (forms.flatMap fun form => [form ++ "id", form ++ "_id"]).eraseDups

/-- The default name of a key that points at an entity. -/
def defaultName (target : String) : String := Naming.singularCamel target ++ "Id"

/-- The first reference field that points at an entity. -/
def findReference (d : Directory) (target : String) : List Field → Outcome (Option Value)
  | [] => .ok none
  | f :: rest => do
    if f.kind = some .reference && f.target.isGiven then
      if d.isMeant (← f.target.asText) target then return some f.name
      else findReference d target rest
    else findReference d target rest

/-- The first field with one of the given names, in whatever case. -/
def findNamed (names : List String) : List Field → Outcome (Option Value)
  | [] => .ok none
  | f :: rest => do
    if names.contains (Text.lowercase (← f.name.asText)) then return some f.name
    else findNamed names rest

/-- The field that points at an entity: a reference field, or else one with a customary name. -/
def find (d : Directory) (fields : List Field) (target : String) : Outcome (Option Value) := do
  match ← findReference d target fields with
  | some name => return some name
  | none => findNamed (candidates target) fields

/-- The key of the first belongs-to relation that points back at an entity, if any of them has one:
its declared key, or the field that points at the entity. -/
def findBack (d : Directory) (fields : List Field) (source : String) :
    List Relation → Outcome (Option Value)
  | [] => .ok none
  | back :: rest => do
    if back.kind = .belongsTo then
      if d.isMeant (← back.target.asText) source then
        if back.foreignKey.isGiven then return some back.foreignKey
        else match ← find d fields source with
          | some name => return some name
          | none => findBack d fields source rest
      else findBack d fields source rest
    else findBack d fields source rest

end ForeignKey

/-! ### Resolving a relation -/

/-- A key and where it comes from. -/
structure ResolvedKey where
  key : Value
  source : KeySource
  diagnostics : List Diagnostic := []

namespace ResolvedKey

/-- A key that nothing suggests, with the diagnostic that says so. -/
def fallback (entity : String) (relation : Value) (kind : RelationKind)
    (target default reason : String) : ResolvedKey where
  key := .text default
  source := .default
  diagnostics := [{
    kind := .keyFallback
    entity := .text entity
    subject := relation
    message := .text ("Could not infer foreign key for " ++ kind.tag ++ " relation '" ++
      relation.shown ++ "' on '" ++ entity ++ "' targeting '" ++ target ++ "': " ++ reason ++
      ". Using '" ++ default ++ "'.")
    suggestion := .text ("Add 'foreign_key' option to the '" ++ relation.shown ++ "' relation.") }]

/-- The key of a belongs-to relation, a field of the declaring entity. -/
def ofBelongsTo (d : Directory) (entity : String) (fields : List Field) (r : Relation)
    (written target : String) : Outcome ResolvedKey := do
  if r.foreignKey.isGiven then return ⟨r.foreignKey, .explicit, []⟩
  else match ← ForeignKey.find d fields target with
    | some name => return ⟨name, .inferred, []⟩
    | none =>
      let default := ForeignKey.defaultName written
      return fallback entity r.name .belongsTo target default
        ("no ref field or '" ++ default ++ "'-style field on '" ++ entity ++ "'")

/-- The key of a relation that another entity holds: the target, or the join entity. -/
def ofInverse (d : Directory) (entity : String) (r : Relation) (kind : RelationKind)
    (target : String) (holder : Option (String × Entity)) : Outcome ResolvedKey := do
  let default := ForeignKey.defaultName entity
  if r.foreignKey.isGiven then return ⟨r.foreignKey, .explicit, []⟩
  else match holder with
    | none =>
      return fallback entity r.name kind target default ("'" ++ target ++ "' is not a known entity")
    | some (name, e) => match ← ForeignKey.findBack d e.fields entity e.relations with
      | some key => return ⟨key, .inferred, []⟩
      | none => match ← ForeignKey.find d e.fields entity with
        | some key => return ⟨key, .inferred, []⟩
        | none =>
          return fallback entity r.name kind target default
            ("'" ++ name ++ "' has no belongs-to or ref field pointing at '" ++ entity ++ "'")

end ResolvedKey

/-- The join entity of a many-to-many relation and the key in it that points at the target. -/
structure JoinSide where
  through : Option String := none
  /-- the entity that holds the keys: the join entity, or else the target -/
  holder : Option (String × Entity)
  otherKey : Option Value := none
  diagnostics : List Diagnostic := []

namespace JoinSide

/-- The join side of a many-to-many relation on an entity. -/
def ofRelation (d : Directory) (entity : String) (r : Relation) (written target : String) :
    Outcome JoinSide := do
  let plain : JoinSide := { holder := d.get? written }
  if r.through.isGiven then
    let through ← r.through.asText
    match d.get? through with
    | none => return { plain with
        through := some through
        diagnostics := [{
          kind := .missingJoinEntity
          entity := .text entity
          subject := r.name
          message := .text ("Join entity '" ++ through ++ "' of many-to-many relation '" ++
            r.name.shown ++ "' is not defined.")
          suggestion := .text ("Define an entity named '" ++ through ++
            "' with keys to both sides.") }] }
    | some (name, join) =>
      let found ← if r.otherKey.isGiven then pure (some r.otherKey)
        else ForeignKey.find d join.fields target
      return { through := some name, holder := some (name, join), otherKey := found }
  else return plain

/-- The key that points at the target: found, declared, or by its default name. -/
def key (s : JoinSide) (r : Relation) (written : String) : Value :=
  match s.otherKey with
  | some key => key
  | none => r.otherKey.orElse (.text (ForeignKey.defaultName written))

end JoinSide

namespace ResolvedRelation

def unknownTarget (entity : String) (relation : Value) (written : String) : Diagnostic where
  kind := .unknownTarget
  entity := .text entity
  subject := relation
  message :=
    .text ("Relation '" ++ relation.shown ++ "' targets unknown entity '" ++ written ++ "'.")
  suggestion := .text ("Define an entity named '" ++ written ++ "' or fix the target name.")

/-- A declared relation of an entity, resolved, with the diagnostics on it. -/
def ofRelation (d : Directory) (entity : String) (fields : List Field) (r : Relation) :
    Outcome (ResolvedRelation × List Diagnostic) := do
  let written ← r.target.asText
  let canonical := d.resolve written
  let target := canonical.getD written
  let unknown := if canonical.isNone then [unknownTarget entity r.name written] else []
  let base (kind : RelationKind) (key : ResolvedKey) : ResolvedRelation := {
    name := r.name, kind, target, targetPascal := Naming.singularPascal target,
    foreignKey := key.key, keySource := key.source, targetKnown := canonical.isSome,
    eager := r.eager, orderBy := r.orderBy, limit := r.limit }
  if r.kind = .belongsTo then
    let key ← ResolvedKey.ofBelongsTo d entity fields r written target
    return ({ base .belongsTo key with localField := key.key }, unknown ++ key.diagnostics)
  else if r.isManyToMany then
    let join ← JoinSide.ofRelation d entity r written target
    let key ← ResolvedKey.ofInverse d entity r .manyToMany target join.holder
    return ({ base .manyToMany key with through := join.through, otherKey := join.key r written },
      unknown ++ join.diagnostics ++ key.diagnostics)
  else
    let key ← ResolvedKey.ofInverse d entity r r.kind target (d.get? written)
    return (base r.kind key, unknown ++ key.diagnostics)

/-- Declared relations of an entity, resolved in order, with the diagnostics on them. -/
def ofRelations (d : Directory) (entity : String) (fields : List Field) :
    List Relation → Outcome (List ResolvedRelation × List Diagnostic)
  | [] => .ok ([], [])
  | r :: rest => do
    let (resolved, diagnostics) ← ofRelation d entity fields r
    let (others, more) ← ofRelations d entity fields rest
    return (resolved :: others, diagnostics ++ more)

end ResolvedRelation

end EntityModel
