import EntityModel.Proofs.Analysis.Runs

/-!
# Referential closure

A result can be read without its declarations: whatever a schema says of another one is true of that
schema. The names of tables and of types are derived in several places, from the name of an entity
where it is analysed and from references where it is referred to; they coincide for all options and
whatever way the references are spelt.
-/

namespace EntityModel

open Outcome

namespace AnalysisResult

/-! ### Closed results -/

/-- A target that is said to be known is a schema of the result, with the type that the relation
gives it; any other target is none. -/
structure ClosedRelation (result : AnalysisResult) (r : ResolvedRelation) : Prop where
  known : r.targetKnown = true →
    ∃ s ∈ result.schemas, s.name = r.target ∧ s.pascalName = r.targetPascal
  unknown : r.targetKnown = false → r.target ∉ result.names

/-- The dependencies of a schema are other schemas of the result, each listed once. -/
structure ClosedDependencies (result : AnalysisResult) (s : Schema) : Prop where
  single : s.dependsOn.Nodup
  other : s.name ∉ s.dependsOn
  known : s.dependsOn ⊆ result.names

/-- The entity that a procedure returns is a schema, whose table and type the procedure has: as they
are, or, where it returns a list, as a set of rows and a list. -/
structure ClosedProcedure (p : TypedProcedure) (entity : String) (table : Value) (s : Schema) :
    Prop where
  name : s.name = entity
  isTable : table = s.tableName
  columnType : p.columnType =
    if p.returnType.isArray then "SETOF " ++ s.tableName.shown else s.tableName.shown
  codeType : p.codeType =
    if p.returnType.isArray then "list[" ++ s.pascalName ++ "]" else s.pascalName

/-- All that the schemas of a result say of each other is true. -/
structure Closed (result : AnalysisResult) : Prop where
  relations : ∀ s ∈ result.schemas, ∀ r ∈ s.relations, result.ClosedRelation r
  dependencies : ∀ s ∈ result.schemas, result.ClosedDependencies s
  procedures : ∀ s ∈ result.schemas, ∀ p ∈ s.procedures, ∀ entity table,
    p.entity = some (entity, table) →
    ∃ returned ∈ result.schemas, ClosedProcedure p entity table returned
  indexes : ∀ s ∈ result.schemas, ∀ i ∈ s.indexes, i.table = s.tableName

namespace Assembles

variable {d : Directory} {entities : List Entity} {outs : List (Schema × List Diagnostic)}
  {result : AnalysisResult} (h : Assembles d outs result) (lists : d.Lists entities)

include h lists

lemma exists_closed {s : Schema} (mem : s ∈ result.schemas) : ∃ name ∈ d.names, s.Closed d name :=
  h.analyzed.exists_closed lists (h.perm.subset mem)

lemma exists_schema {name : String} (isName : name ∈ d.names) :
    ∃ s ∈ result.schemas, s.Closed d name := by
  have named := (h.names_perm lists).symm.subset isName
  obtain ⟨s, mem, rfl⟩ := List.mem_map.1 named
  obtain ⟨name, _, closed⟩ := h.exists_closed lists mem
  exact ⟨s, mem, closed.name ▸ closed⟩

lemma mem_names_iff {name : String} : name ∈ result.names ↔ name ∈ d.names :=
  (h.names_perm lists).mem_iff

/-- A result that is put together from the entities of a directory is closed. -/
theorem closed : result.Closed := by
  refine ⟨?_, ?_, ?_, ?_⟩
  · intro s mem r isRelation
    obtain ⟨_, _, closed⟩ := h.exists_closed lists mem
    have target := closed.relations r isRelation
    constructor
    · intro known
      obtain ⟨s', mem', closed'⟩ := h.exists_schema lists (target.known.1 known)
      exact ⟨s', mem', closed'.name, closed'.pascalName.trans target.pascal.symm⟩
    · intro unknown isName
      rw [h.mem_names_iff lists, ← target.known, unknown] at isName
      cases isName
  · intro s mem
    obtain ⟨name, _, closed⟩ := h.exists_closed lists mem
    obtain ⟨single, other, known⟩ := closed.dependsOn
    refine ⟨single, closed.name ▸ other, fun t isDependency => ?_⟩
    exact (h.mem_names_iff lists).2 (known isDependency)
  · intro s mem p isProcedure entity table isReturned
    obtain ⟨_, _, closed⟩ := h.exists_closed lists mem
    have returned := closed.procedures p isProcedure entity table isReturned
    obtain ⟨s', mem', closed'⟩ := h.exists_schema lists returned.known
    have same : table = s'.tableName := returned.isTable.trans closed'.tableName.symm
    refine ⟨s', mem', closed'.name, same, ?_, ?_⟩
    · rw [← same]
      exact returned.columnType
    · rw [closed'.pascalName]
      exact returned.codeType
  · intro s mem i isIndex
    obtain ⟨_, _, closed⟩ := h.exists_closed lists mem
    exact closed.indexes i isIndex

end Assembles

/-- Whatever the entities and the options are, a result is closed; and there is one for well-typed
entities of distinct names whose bounds are all finite numbers. -/
theorem closed_of_analyze (entities : List Entity) (options : Options) :
    (∀ result, analyze entities options = .ok result → result.Closed) ∧
    ((∀ e ∈ entities, e.WellTyped Value.IsFinite) → (entities.map (·.name)).Nodup →
      ∃ result, analyze entities options = .ok result) := by
  refine ⟨fun result ok => ?_, fun finite distinct => exists_analyze finite distinct options⟩
  obtain ⟨d, outs, _, built, assembles⟩ := assembles_of_analyze ok
  exact assembles.closed built.lists

/-! ### An example -/

/-- A reader with a table of its own, and books that refer to readers in other spellings and to
something that is not there, and whose procedures return readers. -/
def library : List Entity := [
  { name := .text "Reader" },
  { name := .text "Book"
    relations := [
      { name := .text "lender", kind := .belongsTo, target := .text "readers" },
      { name := .text "shelf", kind := .belongsTo, target := .text "shelf" }]
    indexes := [{ fields := [.text "title"] }]
    procedures := [
      { name := .text "lenders", returns := "Reader[]" },
      { name := .text "owner", returns := "Reader" }] }]

/-- The options that give readers their table. -/
def libraryOptions : Options where
  tables := [(.text "Reader", .text "people")]

lemma library_wellTyped : ∀ e ∈ library, e.WellTyped Value.IsFinite := by
  simp only [library, List.forall_mem_cons, List.not_mem_nil, false_imp_iff, implies_true, and_true]
  refine ⟨⟨⟨_, rfl⟩, rfl, ?_, ?_, ?_, ?_, ?_⟩, ⟨_, rfl⟩, rfl, ?_, ?_, ?_, ?_, ?_⟩
  all_goals simp [Value.IsText]
  exact ⟨⟨⟨_, rfl⟩, .inl rfl⟩, ⟨_, rfl⟩, .inl rfl⟩

lemma library_types : (analyze library libraryOptions).toOption.map (fun result =>
      result.schemas.map fun s => s.procedures.map fun p => (p.columnType, p.codeType)) =
    some [[], [("SETOF people", "list[Reader]"), ("people", "Reader")]] := by
  decide +kernel

/-- The result for the library is closed, and its procedures return people by their table. -/
theorem closed_library : ∃ result, analyze library libraryOptions = .ok result ∧ result.Closed ∧
    (result.schemas.map fun s => s.procedures.map fun p => (p.columnType, p.codeType)) =
      [[], [("SETOF people", "list[Reader]"), ("people", "Reader")]] := by
  obtain ⟨closed, answer⟩ := closed_of_analyze library libraryOptions
  obtain ⟨result, ok⟩ := answer library_wellTyped (by simp [library])
  have types := library_types
  rw [ok] at types
  exact ⟨result, ok, closed result ok, Option.some.inj types⟩

end AnalysisResult

end EntityModel
