import EntityModel.Declaration.Kind
import EntityModel.Declaration.Policy

/-!
# Stored procedure declarations

The signature of a stored procedure and its body. The return expression is a type, a type followed
by `[]`, or nothing at all (`void`).
-/

namespace EntityModel

/-- An argument of a procedure. -/
structure Argument where
  name : Value
  type : Value
  default : Value := .null
  deriving Repr

/-- The declaration of a stored procedure. -/
structure Procedure where
  name : Value
  returns : String
  args : List Argument := []
  sql : Value := .text ""
  language : Value := .text "sql"
  volatility : Volatility := .volatile
  security : Security := .invoker
  description : Value := .text ""
  deriving Repr

namespace Argument

def encode (a : Argument) : Value :=
  .record ([("name", a.name), ("type", a.type)] ++
    (if a.default.isNull then [] else [("default", a.default)]))

def decode (data : Value) : Outcome Argument := do
  return ⟨← data.entry "name", ← data.entry "type", ← data.optional "default"⟩

/-- An argument out of an entry of a mapping: a type, or a document that may lack the name. -/
def decodeEntry : Scalar × Value → Outcome Argument
  | (key, .map entries) =>
    decode (.map
      (entries.foldl (fun data e => Entries.put e.1 e.2 data) [(.text "name", .scalar key)]))
  | (key, type) => .ok { name := .scalar key, type }

/-- Whether two arguments are equal. -/
def same (a b : Argument) : Bool :=
  a.name.same b.name && a.type.same b.type && a.default.same b.default

end Argument

namespace Procedure

/-- A procedure with a name, a return expression and known classes. -/
def make (name returns : Value) (args : List Argument) (sql language volatility security
    description : Value) : Outcome Procedure := do
  if !name.isGiven then refuse (.emptyName .procedure)
  if !returns.isGiven then refuse (.noReturns name)
  let returns ← returns.asText
  if (Text.trim returns.toList).isEmpty then refuse (.noReturns name)
  let some volatility := Volatility.ofWord? volatility | refuse (.volatility name volatility)
  let some security := Security.ofWord? security | refuse (.security name security)
  return { name, returns, args, sql, language, volatility, security, description }

def encode (p : Procedure) : Value :=
  .record ([("name", p.name), ("returns", .text p.returns),
      ("args", .list (p.args.map Argument.encode)), ("language", p.language),
      ("volatility", .text p.volatility.word), ("security", .text p.security.word)] ++
    (if p.sql.isGiven then [("sql", p.sql)] else []) ++
    (if p.description.isGiven then [("description", p.description)] else []))

/-- The arguments out of a list of documents, or a mapping of names to types or documents. -/
def decodeArgs (data : Value) : Outcome (List Argument) := do
  match (← data.optional "args").orElse (.list []) with
  | .map entries => entries.mapM Argument.decodeEntry
  | written => (← written.elements).mapM Argument.decode

/-- A procedure out of a document; a name that counts as given replaces the one in the document. -/
def decode (name : Value) (data : Value) : Outcome Procedure := do
  let args ← decodeArgs data
  let name ← if name.isGiven then .ok name else data.entry "name"
  let returns ← data.entry "returns"
  make name returns args (← data.entryOr "sql" (.text "")) (← data.entryOr "language" (.text "sql"))
    (← data.entryOr "volatility" (.text "volatile")) (← data.entryOr "security" (.text "invoker"))
    (← data.entryOr "description" (.text ""))

/-- Whether two procedures are equal. -/
def same (p q : Procedure) : Bool :=
  p.name.same q.name && p.returns == q.returns && Policy.sameBy Argument.same p.args q.args &&
    p.sql.same q.sql && p.language.same q.language && p.volatility == q.volatility &&
    p.security == q.security && p.description.same q.description

end Procedure

end EntityModel
