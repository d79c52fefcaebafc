import EntityModel.Proofs.Analysis.KeptRelations
import EntityModel.Proofs.Analysis.Schemas

/-!
# What schemas refer to

The schema of an entity refers to nothing outside the directory that it was made from, whatever the
entity declares: targets that are said to be known, dependencies and entities that procedures return
are names of the directory, and what is derived from such a name, the table or the name of a type,
is derived as it is for the entity of that name itself. The diagnostics that arise with the schema
are all on its entity.
-/

namespace EntityModel

open Outcome

variable {d : Directory} {entity : String}

/-! ### Fields -/

namespace ResolvedField

/-- A resolved field keeps its name and its target, whether or not its declaration is well-typed. -/
lemma ofKind_resolves (f : Field) (name : Value) {kind : FieldKind}
    (isKind : resolvedKind f = kind) :
    Ensures anyFault (Resolves name f) (ofKind f name kind) := by
  obtain ⟨a, items, shape⟩ := f
  have iff : Field.kind ⟨a, items, shape⟩ = some .reference ↔ kind = .reference := by
    rw [← isKind, resolvedKind, getD_eq_reference]
  have assembled : ∀ elements parts, Ensures anyFault (Resolves name ⟨a, items, shape⟩)
      (assemble name ⟨a, items, shape⟩ kind elements parts) := by
    intro elements parts
    unfold assemble
    refine name.asText_ensures.bind fun s isName => .step fun columnType => .step fun hint => ?_
    rw [ensures_pure]
    exact ⟨isName, fun reference => if_pos (iff.1 reference),
      fun other => if_neg fun is => other (iff.2 is)⟩
  rw [ofKind.eq_def]
  dsimp only
  split
  · exact .step fun elements => assembled elements _
  · split
    · exact .step fun elements => .step fun first => .step fun rest => assembled elements _
    · exact assembled _ _

lemma ofFields_resolves (fs : List Field) :
    Ensures anyFault (List.Forall₂ (fun f => Resolves f.name f) fs) (ofFields fs) :=
  ofFields_ensures fun f _ => ofKind_resolves f f.name rfl

end ResolvedField

/-! ### Relations -/

/-- The diagnostic is on an entity, and not on the order of schemas. -/
structure Diagnostic.Concerns (entity : String) (x : Diagnostic) : Prop where
  entity : x.entity = .text entity
  kind : x.kind ≠ .circularDependency

lemma Diagnostic.On.concerns {subject : Value} {x : Diagnostic} (on : x.On entity subject) :
    x.Concerns entity := ⟨on.entity, on.kind⟩

/-- The target is said to be known exactly if it is an entity of the directory, and the name of the
target's type is that of the entity's type. -/
structure ResolvedRelation.Closed (d : Directory) (r : ResolvedRelation) : Prop where
  known : r.targetKnown = true ↔ r.target ∈ d.names
  pascal : r.targetPascal = Naming.singularPascal r.target

namespace ResolvedRelation

variable {entities : List Entity} (lists : d.Lists entities)

include lists

/-- A resolved relation refers to known entities only, and its diagnostics name its entity. -/
lemma ofRelation_closed (fields : List Field) (r : Relation) :
    Ensures anyFault
      (fun out => Resolves d r out.1 ∧ out.1.Closed d ∧ ∀ x ∈ out.2, x.Concerns entity)
      (ofRelation d entity fields r) := by
  refine (ofRelation_keeps_any entity fields r).mono ?_
  rintro out ⟨kept, on⟩
  obtain ⟨written, -, isTarget, known⟩ := kept.target
  refine ⟨kept.toResolves, ⟨?_, kept.pascal⟩, fun x mem => (on x mem).concerns⟩
  rw [known, isTarget]
  cases meant : d.resolve written with
  | some name => simpa using lists.resolve_mem meant
  | none =>
    have absent : written ∉ d.names := fun mem => by
      simp [Directory.resolve, Directory.contains_iff.2 mem] at meant
    simpa using absent

/-- The resolved relations of an entity refer to known entities only, one by one. -/
lemma ofRelations_closed (fields : List Field) (relations : List Relation) :
    Ensures anyFault (fun out => (∀ r ∈ out.1, r.Closed d) ∧ ∀ x ∈ out.2, x.Concerns entity)
      (ofRelations d entity fields relations) := by
  induction relations with
  | nil => simp [ofRelations, Ensures]
  | cons r rest ih =>
    unfold ofRelations
    refine (ofRelation_closed lists fields r).bind ?_
    rintro out ⟨_, closed, own⟩
    refine ih.bind ?_
    rintro outs ⟨all, more⟩
    rw [ensures_pure]
    exact ⟨List.forall_mem_cons.2 ⟨closed, all⟩, List.forall_mem_append.2 ⟨own, more⟩⟩

end ResolvedRelation

/-! ### Dependencies -/

namespace Schema

/-- The dependencies of an entity are other entities of the directory, each listed once. -/
structure Depends (d : Directory) (entity : String) (found : List String) : Prop where
  single : found.Nodup
  other : entity ∉ found
  known : found ⊆ d.names

variable {found : List String}

/-- A known name may be added to the dependencies. -/
lemma Depends.add (h : Depends d entity found) {name : String} (known : name ∈ d.names) :
    Depends d entity (addDependency entity name found) := by
  unfold addDependency
  split_ifs with listed
  · exact h
  · simp only [Bool.or_eq_true, beq_iff_eq, List.contains_iff_mem, not_or] at listed
    refine ⟨?_, ?_, List.append_subset.2 ⟨h.known, List.cons_subset.2 ⟨known, List.nil_subset _⟩⟩⟩
    · rw [List.nodup_append_comm]
      exact List.nodup_cons.2 ⟨listed.2, h.single⟩
    · rw [List.mem_append, List.mem_singleton, not_or]
      exact ⟨h.other, Ne.symm listed.1⟩

/-- The dependencies of fields are known entities other than the entity itself. -/
lemma fieldDependencies_depends {entities : List Entity} (lists : d.Lists entities)
    (fields : List ResolvedField) (h : Depends d entity found) :
    Ensures anyFault (fun out => Depends d entity out.1 ∧ ∀ x ∈ out.2, x.Concerns entity)
      (fieldDependencies d entity fields found) := by
  induction fields generalizing found with
  | nil => exact ⟨h, fun x mem => absurd mem List.not_mem_nil⟩
  | cons f rest ih =>
    rw [fieldDependencies.eq_def]
    dsimp only
    split
    · refine .step fun written => ?_
      cases meant : d.resolve written with
      | some name => exact ih (h.add (lists.resolve_mem meant))
      | none =>
        refine (ih h).bind ?_
        rintro out ⟨depends, more⟩
        rw [ensures_pure]
        exact ⟨depends, List.forall_mem_cons.2 ⟨⟨rfl, by simp [unknownReference]⟩, more⟩⟩
    · exact ih h

/-- The dependencies of relations are known entities other than the entity itself. -/
lemma relationDependencies_depends {relations : List ResolvedRelation}
    (closed : ∀ r ∈ relations, r.Closed d) (h : Depends d entity found) :
    Depends d entity (relationDependencies entity relations found) := by
  induction relations generalizing found with
  | nil => exact h
  | cons r rest ih =>
    obtain ⟨first, others⟩ := List.forall_mem_cons.1 closed
    rw [relationDependencies, List.foldl_cons]
    refine ih others ?_
    split_ifs with points
    · rw [Bool.and_eq_true] at points
      exact h.add (first.known.1 points.2)
    · exact h

end Schema

/-! ### Procedures and indexes -/

namespace TypedProcedure

/-- What a procedure says when it returns an entity or a list of it: the entity is one of the
directory, the table is that entity's table, and the types are made of the table and of the name of
the entity's type. -/
structure ReturnsEntity (d : Directory) (p : TypedProcedure) (entity : String) (table : Value) :
    Prop where
  known : entity ∈ d.names
  isTable : table = d.tableFor entity
  columnType : p.columnType = if p.returnType.isArray then "SETOF " ++ table.shown else table.shown
  codeType : p.codeType = if p.returnType.isArray then
    "list[" ++ Naming.singularPascal entity ++ "]"
    else Naming.singularPascal entity

/-- What a procedure says of the entity that it returns, if it returns one, is true. -/
def Closed (d : Directory) (p : TypedProcedure) : Prop :=
  ∀ entity table, p.entity = some (entity, table) → p.ReturnsEntity d entity table

/-- A return type with an entity is that of a known entity, its table and its class. -/
lemma returnTypeOf_of_entity {t : TypeExpression} {name : String} {table : Value}
    (returned : (returnTypeOf d t).entity = some (name, table)) :
    d.contains t.element = true ∧ name = t.element ∧ table = d.tableFor name ∧
      (returnTypeOf d t).columnType = (if t.isArray then "SETOF " ++ table.shown else table.shown) ∧
      (returnTypeOf d t).codeType = if t.isArray then "list[" ++ Naming.singularPascal name ++ "]"
        else Naming.singularPascal name := by
  unfold returnTypeOf at returned ⊢
  by_cases void : t.isVoid = true
  · rw [if_pos void] at returned
    cases returned
  rw [if_neg void] at returned ⊢
  by_cases known : d.contains t.element = true
  · rw [if_pos known] at returned ⊢
    obtain ⟨rfl, rfl⟩ := Prod.mk.inj (Option.some.inj returned)
    exact ⟨known, rfl, rfl, rfl, rfl⟩
  · rw [if_neg known] at returned
    cases returned

lemma typeArguments_concerns (procedure : Value) (args : List Argument) :
    Ensures anyFault (fun out => ∀ x ∈ out.2, x.Concerns entity)
      (typeArguments (.text entity) procedure args) := by
  induction args with
  | nil => exact fun x mem => absurd mem List.not_mem_nil
  | cons a rest ih =>
    unfold typeArguments
    refine Ensures.bind (P := fun out => ∀ x ∈ out.2, x.Concerns entity) ?_ fun out own =>
      ih.bind fun outs more => List.forall_mem_append.2 ⟨own, more⟩
    unfold typeArgument
    refine .step fun written x mem => ?_
    split at mem
    · exact absurd mem List.not_mem_nil
    · obtain rfl := List.mem_singleton.1 mem
      exact ⟨rfl, by simp [unknownType]⟩

/-- A typed procedure returns a known entity if any, and its diagnostics name the owner. -/
lemma ofProcedure_closed (p : Procedure) :
    Ensures anyFault (fun out => out.1.Closed d ∧ ∀ x ∈ out.2, x.Concerns entity)
      (ofProcedure d (some (.text entity)) p) := by
  unfold ofProcedure
  refine (typeArguments_concerns p.name p.args).bind fun args own => ?_
  dsimp only
  rw [ensures_pure]
  constructor
  · intro name table returned
    obtain ⟨known, rfl, isTable, columnType, codeType⟩ := returnTypeOf_of_entity returned
    exact ⟨Directory.contains_iff.1 known, isTable, columnType, codeType⟩
  · refine List.forall_mem_append.2 ⟨own, fun x mem => ?_⟩
    split at mem
    · exact absurd mem List.not_mem_nil
    · obtain rfl := List.mem_singleton.1 mem
      exact ⟨rfl, by simp [unknownType]⟩

/-- The typed procedures of an entity return known entities only, one by one. -/
lemma ofProcedures_closed (procedures : List Procedure) :
    Ensures anyFault (fun out => (∀ p ∈ out.1, p.Closed d) ∧ ∀ x ∈ out.2, x.Concerns entity)
      (ofProcedures d (some (.text entity)) procedures) := by
  induction procedures with
  | nil => simp [ofProcedures, Ensures]
  | cons p rest ih =>
    unfold ofProcedures
    refine (ofProcedure_closed p).bind ?_
    rintro out ⟨closed, own⟩
    refine ih.bind ?_
    rintro outs ⟨all, more⟩
    rw [ensures_pure]
    exact ⟨List.forall_mem_cons.2 ⟨closed, all⟩, List.forall_mem_append.2 ⟨own, more⟩⟩

end TypedProcedure

namespace IndexPlan

variable {table : Value}

/-- Indexes that are added for fields are on the table of the plan. -/
lemma table_of_mem_cover {index : String → PlannedIndex} {wanted : ResolvedField → Bool}
    {plan : List PlannedIndex} (onTable : ∀ field, (index field).table = table)
    (h : ∀ i ∈ plan, i.table = table) (fields : List ResolvedField) :
    ∀ i ∈ cover index wanted fields plan, i.table = table := by
  induction fields generalizing plan with
  | nil => exact h
  | cons f rest ih =>
    rw [cover, List.foldl_cons]
    refine ih ?_
    split_ifs
    · exact List.forall_mem_append.2 ⟨h, List.forall_mem_singleton.2 (onTable f.name)⟩
    · exact h

/-- Every index of a plan is one of the table that is planned for. -/
lemma make_table (table : Value) (fields : List ResolvedField) (declared : List Index) :
    Ensures anyFault (fun plan => ∀ i ∈ plan, i.table = table) (make table fields declared) := by
  unfold make
  refine Ensures.bind (P := fun plan => ∀ i ∈ plan, i.table = table) ?_ fun explicit own => ?_
  · refine Ensures.forall_mapM fun i _ => ?_
    refine Ensures.bind (P := fun planned => planned.table = table) ?_ fun planned onTable =>
      .step fun _ => ensures_pure.2 onTable
    unfold PlannedIndex.ofIndex
    dsimp only
    exact Ensures.ite_bind (P := fun _ => True) (fun _ => trivial) (fun _ => within_any _)
      fun _ _ => rfl
  · rw [ensures_pure]
    refine table_of_mem_cover (fun _ => ?_) (table_of_mem_cover (fun _ => ?_) own fields) fields
    · rfl
    · rfl

end IndexPlan

/-! ### Schemas -/

namespace Schema

/-- What a schema says of the directory is true of it: of its own name, type and table, of targets,
dependencies, returned entities and tables of indexes. -/
structure Closed (d : Directory) (entity : String) (s : Schema) : Prop where
  name : s.name = entity
  pascalName : s.pascalName = Naming.singularPascal entity
  tableName : s.tableName = d.tableFor entity
  relations : ∀ r ∈ s.relations, r.Closed d
  dependsOn : Depends d entity s.dependsOn
  procedures : ∀ p ∈ s.procedures, p.Closed d
  indexes : ∀ i ∈ s.indexes, i.table = s.tableName

/-- Whatever an entity declares, what its schema says of the directory is true, and the diagnostics
that arise with the schema are on the entity. -/
theorem ofEntity_closed {entities : List Entity} (lists : d.Lists entities) (name : String)
    (e : Entity) :
    Ensures anyFault (fun out => Closed d name out.1 ∧ ∀ x ∈ out.2, x.Concerns name)
      (ofEntity d name e) := by
  unfold ofEntity
  refine .step fun fields => ?_
  refine (ResolvedRelation.ofRelations_closed lists e.fields e.relations).bind ?_
  rintro relations ⟨closed, onRelations⟩
  have depends : Ensures anyFault
      (fun out => Depends d name out.1 ∧ ∀ x ∈ out.2, x.Concerns name)
      (dependencies d name fields relations.1) := by
    unfold dependencies
    have none : Depends d name [] := ⟨List.nodup_nil, List.not_mem_nil, List.nil_subset _⟩
    refine (fieldDependencies_depends lists fields none).bind ?_
    rintro out ⟨byFields, onFields⟩
    rw [ensures_pure]
    exact ⟨relationDependencies_depends closed byFields, onFields⟩
  refine depends.bind ?_
  rintro dependsOn ⟨dependsOnly, onFields⟩
  refine (TypedProcedure.ofProcedures_closed e.procedures).bind ?_
  rintro procedures ⟨returned, onProcedures⟩
  refine .step fun computed => ?_
  refine (IndexPlan.make_table _ fields e.indexes).bind fun indexes onTable => ?_
  rw [ensures_pure]
  refine ⟨⟨rfl, rfl, rfl, closed, dependsOnly, returned, onTable⟩, ?_⟩
  exact List.forall_mem_append.2 ⟨List.forall_mem_append.2 ⟨onRelations, onFields⟩, onProcedures⟩

end Schema

end EntityModel
