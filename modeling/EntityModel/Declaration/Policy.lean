import EntityModel.Declaration.Kind
import EntityModel.Value.Reading

/-!
# Access policy declarations

Which rows of an entity a request may reach: scope rules, bypass conditions, and for each operation
a predicate and a query fragment. Predicates are never run; only their text is used.
-/

namespace EntityModel

/-- A row is in scope when its field equals the request's context value. -/
structure Scope where
  field : Value
  contextKey : Value
  deriving Repr

/-- A request whose context value is one of these skips the scope rules. -/
structure Bypass where
  contextKey : Value
  values : List Value
  deriving Repr

/-- A predicate on rows. -/
inductive Predicate where
  /-- as it was written; null where none is declared -/
  | written (v : Value)
  /-- a function, with the text of its body where that can be recovered -/
  | function (body : Option String)
  deriving Repr

/-- The declaration of an access policy. -/
structure Policy where
  scope : List Scope := []
  bypass : List Bypass := []
  select : Predicate := .written .null
  insert : Predicate := .written .null
  update : Predicate := .written .null
  delete : Predicate := .written .null
  sql : Entries := []
  deriving Repr

namespace Scope

/-- The document form of a scope rule. -/
def encode (s : Scope) : Value := .record [("field", s.field), ("context_key", s.contextKey)]

/-- A scope rule out of a document. -/
def decode (data : Value) : Outcome Scope := do
  return ⟨← data.entry "field", ← data.entry "context_key"⟩

/-- Whether two scope rules are equal. -/
def same (s t : Scope) : Bool := s.field.same t.field && s.contextKey.same t.contextKey

end Scope

namespace Bypass

/-- The document form of a bypass condition. -/
def encode (b : Bypass) : Value :=
  .record [("context_key", b.contextKey), ("values", .list b.values)]

/-- A bypass condition out of a document. -/
def decode (data : Value) : Outcome Bypass := do
  let contextKey ← data.entry "context_key"
  return ⟨contextKey, ← (← data.entryOr "values" (.list [])).elements⟩

/-- Whether two bypass conditions are equal. -/
def same (b c : Bypass) :
    Bool := b.contextKey.same c.contextKey && Value.sameItems b.values c.values

end Bypass

namespace Predicate

def isDeclared : Predicate → Bool
  | written v => !v.isNull
  | function _ => true

/-- Whether two predicates are equal; a function equals nothing that was read back. -/
def same : Predicate → Predicate → Bool
  | written v, written w => v.same w
  | _, _ => false

end Predicate

namespace Policy

def predicate (p : Policy) : Operation → Predicate
  | .select => p.select
  | .insert => p.insert
  | .update => p.update
  | .delete => p.delete

/-- The predicate of a named operation; other names are refused. -/
def predicateOf (p : Policy) (operation : String) : Outcome Predicate :=
  match Operation.ofName? operation with
  | some op => .ok (p.predicate op)
  | none => refuse (.operation operation)

/-- The query fragment of an operation, or null. -/
def fragment (p : Policy) (op : Operation) : Value :=
  (Entries.find? (.text op.name) p.sql).getD .null

/-- Whether a scalar is the name of an operation. -/
def namesOperation (s : Scalar) : Bool := Operation.all.any fun op => s.same (.text op.name)

def distinct (scalars : List Scalar) : List Scalar :=
  scalars.foldl (fun kept s => if kept.any s.same then kept else kept ++ [s]) []

/-- Query fragments by operation; keys that name no operation are refused. -/
def readFragments (sql : Value) : Outcome Entries := do
  let keys ← (← sql.elements).mapM Value.asScalar
  let unknown := distinct (keys.filter fun key => !namesOperation key)
  if unknown.isEmpty then sql.toEntries
  else refuse (.sqlOperations ((← Value.sortedBy id unknown).map .scalar))

def withFragments (p : Policy) (sql : Value) : Outcome Policy := do
  return { p with sql := ← readFragments sql }

/-- The document form of a policy; predicates that are not text are left out. -/
def encode (p : Policy) : Value :=
  .record (
    (if p.scope.isEmpty then [] else [("scope", .list (p.scope.map Scope.encode))]) ++
    (if p.bypass.isEmpty then [] else [("bypass", .list (p.bypass.map Bypass.encode))]) ++
    (Operation.all.filterMap fun op => match p.predicate op with
      | .written (.text s) => some (op.name, .text s)
      | _ => none) ++
    (if p.sql.isEmpty then [] else [("sql", .map p.sql)]))

def decode (data : Value) : Outcome Policy := do
  let scope ← (← (← data.entryOr "scope" (.list [])).elements).mapM Scope.decode
  let bypass ← (← (← data.entryOr "bypass" (.list [])).elements).mapM Bypass.decode
  let written (op : Operation) : Outcome Predicate := .written <$> data.optional op.name
  let policy : Policy := {
    scope, bypass, select := ← written .select, insert := ← written .insert,
    update := ← written .update, delete := ← written .delete }
  policy.withFragments ((← data.optional "sql").orElse (.map []))

/-- Whether two lists are equal item by item. -/
def sameBy {α : Type} (eq : α → α → Bool) : List α → List α → Bool
  | [], [] => true
  | x :: xs, y :: ys => eq x y && sameBy eq xs ys
  | _, _ => false

/-- Whether two policies are equal. -/
def same (p q : Policy) : Bool :=
  sameBy Scope.same p.scope q.scope && sameBy Bypass.same p.bypass q.bypass &&
    (Operation.all.all fun op => (p.predicate op).same (q.predicate op)) &&
    Value.same (.map p.sql) (.map q.sql)

end Policy

end EntityModel
