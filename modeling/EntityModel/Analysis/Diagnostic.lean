import EntityModel.Value.Display

/-!
# Diagnostics

Advice on declarations that can be analysed but look like mistakes. A diagnostic names the entity
that it concerns, and the relation, procedure or dependency within it.
-/

namespace EntityModel

/-- What a diagnostic is about. -/
inductive DiagnosticKind where
  /-- no field was found for a foreign key, and a default name is used -/
  | keyFallback
  /-- a dependency was dropped from the creation order -/
  | circularDependency
  /-- a type in a procedure's signature is not known -/
  | unknownProcedureType
  /-- the target of a relation or of a reference field is not known -/
  | unknownTarget
  /-- the join entity of a relation is not known -/
  | missingJoinEntity
  deriving DecidableEq, Repr

namespace DiagnosticKind

def all : List DiagnosticKind :=
  [keyFallback, circularDependency, unknownProcedureType, unknownTarget, missingJoinEntity]

def name : DiagnosticKind → String
  | keyFallback => "FK_FALLBACK"
  | circularDependency => "CIRCULAR_DEPENDENCY"
  | unknownProcedureType => "UNKNOWN_RPC_TYPE"
  | unknownTarget => "UNKNOWN_RELATION_TARGET"
  | missingJoinEntity => "MISSING_JOIN_ENTITY"

def ofName? (written : String) : Option DiagnosticKind := all.find? (·.name == written)

end DiagnosticKind

/-- How serious a diagnostic is. -/
inductive Severity where
  | info | warning
  deriving DecidableEq, Repr

namespace Severity

def word : Severity → String
  | info => "info"
  | warning => "warning"

def name : Severity → String
  | info => "INFO"
  | warning => "WARNING"

def ofWord? (written : String) : Option Severity := [info, warning].find? (·.word == written)

end Severity

/-- One piece of advice; null where there is no subject or no suggestion. -/
structure Diagnostic where
  kind : DiagnosticKind
  entity : Value
  message : Value
  subject : Value := .null
  suggestion : Value := .null
  severity : Severity := .warning
  deriving Repr

namespace Diagnostic

/-- Where the diagnostic applies: the entity, and the subject within it. -/
def path (d : Diagnostic) : Value :=
  if d.subject.isGiven then .text (d.entity.shown ++ "." ++ d.subject.shown) else d.entity

def text (d : Diagnostic) : String :=
  "[" ++ d.severity.name ++ "] " ++ d.kind.name ++ ": " ++ d.path.shown ++ " - " ++
  d.message.shown ++
    (if d.suggestion.isGiven then " Fix: " ++ d.suggestion.shown else "")

def encode (d : Diagnostic) : Value :=
  .record ([("kind", .text d.kind.name), ("severity", .text d.severity.word), ("entity", d.entity),
      ("message", d.message)] ++
    (if d.subject.isGiven then [("subject", d.subject)] else []) ++
    (if d.suggestion.isGiven then [("suggestion", d.suggestion)] else []))

end Diagnostic

/-- The edges of the dependency graph that diagnostics report as dropped. -/
def cycleEdges (diagnostics : List Diagnostic) : List (Value × Value) :=
  diagnostics.filterMap fun d =>
    if d.kind = .circularDependency && d.subject.isGiven then some (d.entity, d.subject) else none

end EntityModel
