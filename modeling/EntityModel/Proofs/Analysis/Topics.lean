import EntityModel.Analysis.Schema
import Mathlib.Tactic.Common

/-!
# What diagnostics are about

The topics of the diagnostics that the declarations of an entity call for, read off the declarations
themselves: targets, join entities and types that are not known, and keys that nothing suggests. A
declaration with several mistakes calls for several diagnostics, and one without for none.
-/

namespace EntityModel

variable {d : Directory} {entity procedure : Value}

/-- What a diagnostic is about: its kind, the entity and the subject within the entity. -/
abbrev Topic := DiagnosticKind × Value × Value

namespace Topic

def on (called : Bool) (kind : DiagnosticKind) (entity subject : Value) : List Topic :=
  if called then [(kind, entity, subject)] else []

@[simp] lemma on_true (kind : DiagnosticKind) (entity subject : Value) :
    on true kind entity subject = [(kind, entity, subject)] := rfl

@[simp] lemma on_false (kind : DiagnosticKind) (entity subject : Value) :
    on false kind entity subject = [] := rfl

lemma mem_on {called : Bool} {kind : DiagnosticKind} {entity subject : Value} {topic : Topic} :
    topic ∈ on called kind entity subject ↔ called = true ∧ topic = (kind, entity, subject) := by
  simp [on]

variable {own key others keys all fields procedures : List Topic}

/-- The topics of one declaration and of its key stand among those of all others. -/
lemma perm_append (h : all.Perm (others ++ keys)) :
    (own ++ key ++ all).Perm (own ++ others ++ (key ++ keys)) := by
  rw [List.append_assoc, List.append_assoc]
  exact ((h.append_left key).trans (List.perm_append_comm_assoc ..)).append_left own

lemma perm_keys_last :
    (own ++ keys ++ fields ++ procedures).Perm (own ++ fields ++ procedures ++ keys) := by
  rw [List.append_assoc (own ++ keys), List.append_assoc own keys, List.append_assoc own fields,
    List.append_assoc own]
  exact List.perm_append_comm.append_left own

end Topic

def Diagnostic.topic (x : Diagnostic) : Topic := (x.kind, x.entity, x.subject)

lemma map_topic_ite (c : Bool) (x : Diagnostic) :
    (if c then [x] else []).map Diagnostic.topic = Topic.on c x.kind x.entity x.subject := by
  cases c <;> rfl

lemma map_topic_ite_not (c : Bool) (x : Diagnostic) :
    (if c then [] else [x]).map Diagnostic.topic = Topic.on (!c) x.kind x.entity x.subject := by
  cases c <;> rfl

@[simp] lemma cycleEdges_append (xs ys : List Diagnostic) :
    cycleEdges (xs ++ ys) = cycleEdges xs ++ cycleEdges ys := List.filterMap_append

/-- Diagnostics of other kinds report no dropped dependency. -/
lemma cycleEdges_eq_nil {diagnostics : List Diagnostic}
    (h : ∀ topic ∈ diagnostics.map Diagnostic.topic, topic.1 ≠ .circularDependency) :
    cycleEdges diagnostics = [] := by
  refine List.filterMap_eq_nil_iff.2 fun x mem => ?_
  have kind : x.kind ≠ .circularDependency := h _ (List.mem_map_of_mem mem)
  simp [kind]

def Directory.misses (d : Directory) (reference : Value) : Bool :=
  (reference.text?.bind d.resolve).isNone

@[simp] lemma Directory.misses_text (d : Directory) (reference : String) :
    d.misses (.text reference) = (d.resolve reference).isNone := rfl

/-! ### Declarations -/

/-- A join entity that is written calls for a diagnostic if it is not known. -/
def Relation.joinTopics (d : Directory) (entity : Value) (r : Relation) : List Topic :=
  Topic.on (r.through.isGiven && d.misses r.through) .missingJoinEntity entity r.name

/-- A relation calls for a diagnostic if its target is not known, and for one if it goes through a
join entity that is not known. -/
def Relation.topics (d : Directory) (entity : Value) (r : Relation) : List Topic :=
  Topic.on (d.misses r.target) .unknownTarget entity r.name ++
    if r.isManyToMany then r.joinTopics d entity else []

/-- A reference field calls for a diagnostic if its target is not known. -/
def Field.topics (d : Directory) (entity : Value) (f : Field) : List Topic :=
  Topic.on (f.kind = some .reference && d.misses f.target) .unknownTarget entity f.name

/-- The elements of the type that is written for an argument are known scalars. -/
def Argument.hasKnownType (a : Argument) : Bool :=
  a.type.text?.any fun written => (TypeExpression.ofText written).isKnownScalar

/-- An argument of a procedure calls for a diagnostic if its type is not known. -/
def Argument.topics (entity procedure : Value) (a : Argument) : List Topic :=
  Topic.on (!a.hasKnownType) .unknownProcedureType entity
    (.text (procedure.shown ++ "." ++ a.name.shown))

/-- The procedure returns nothing, an entity under exactly its name, or a known scalar. -/
def Procedure.hasKnownReturn (d : Directory) (p : Procedure) : Bool :=
  let type := TypeExpression.ofText p.returns
  type.isVoid || d.contains type.element || type.isKnownScalar

/-- A procedure calls for the diagnostics on its arguments, and for one if the type that it returns
is not known. -/
def Procedure.topics (d : Directory) (entity : Value) (p : Procedure) : List Topic :=
  p.args.flatMap (Argument.topics entity p.name) ++
    Topic.on (!p.hasKnownReturn d) .unknownProcedureType entity p.name

def Entity.topics (d : Directory) (e : Entity) : List Topic :=
  e.relations.flatMap (Relation.topics d e.name) ++ e.fields.flatMap (Field.topics d e.name) ++
    e.procedures.flatMap (Procedure.topics d e.name)

/-! ### Keys -/

/-- A key that nothing suggests calls for a diagnostic. -/
def KeySource.topics (entity relation : Value) (source : KeySource) : List Topic :=
  Topic.on (source = .default) .keyFallback entity relation

def ResolvedRelation.topics (entity : Value) (r : ResolvedRelation) : List Topic :=
  r.keySource.topics entity r.name

def Schema.keyTopics (s : Schema) : List Topic :=
  s.relations.flatMap (ResolvedRelation.topics (.text s.name))

/-! ### Dropped dependencies are found later -/

lemma Entity.kind_ne_of_mem_topics {e : Entity} {topic : Topic} (mem : topic ∈ e.topics d) :
    topic.1 ≠ .circularDependency := by
  simp only [topics, Relation.topics, Relation.joinTopics, Field.topics, Procedure.topics,
    Argument.topics, List.mem_append, List.mem_flatMap, List.mem_ite_nil_right, Topic.mem_on] at mem
  rcases mem with
      (⟨_, _, ⟨_, rfl⟩ | ⟨_, _, rfl⟩⟩ | ⟨_, _, _, rfl⟩) | ⟨_, _, ⟨_, _, _, rfl⟩ | ⟨_, rfl⟩⟩
  all_goals nofun

lemma Schema.kind_ne_of_mem_keyTopics {s : Schema} {topic : Topic} (mem : topic ∈ s.keyTopics) :
    topic.1 ≠ .circularDependency := by
  simp only [keyTopics, ResolvedRelation.topics, KeySource.topics, List.mem_flatMap,
    Topic.mem_on] at mem
  obtain ⟨_, _, _, rfl⟩ := mem
  nofun

end EntityModel
