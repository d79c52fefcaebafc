import EntityModel.Proofs.Analysis.Runs
import EntityModel.Proofs.Naming.Plurals
import EntityModel.Proofs.Resolution

/-!
# Entities that share a table

With default options the table of an entity and the path under which it is reached are told by the
plural of its name. So two entities have one table exactly if they have one path, and this is so
exactly if the singulars of their names share a plural: only names that are equal letter by letter
are refused.
-/

namespace EntityModel

open Outcome Naming

/-- The singulars of two names have one plural. -/
def SharePluralForm (a b : String) : Prop :=
  SharePlural (singularize a).toList (singularize b).toList

lemma sharePluralForm_comm {a b : String} : SharePluralForm a b ↔ SharePluralForm b a :=
  sharePlural_comm

namespace Schema

/-- The plural of its name tells the path of a schema. -/
lemma ofEntity_endpoint (d : Directory) (name : String) (e : Entity) :
    Ensures anyFault (fun out => out.1.endpoint = d.options.apiPrefix ++ "/" ++ d.plural name)
      (ofEntity d name e) := by
  unfold ofEntity
  refine .step fun fields => .step fun relations => .step fun dependsOn => .step fun procedures =>
    .step fun computed => .step fun indexes => ?_
  rfl

/-- The schema of an entity has the table and the path that the default options give it. -/
structure PlacedByPlural (s : Schema) : Prop where
  tableName : s.tableName = .text (pluralize s.name [])
  endpoint : s.endpoint = "/api/" ++ pluralize s.name []

namespace PlacedByPlural

variable {s t : Schema} (h : s.PlacedByPlural) (h' : t.PlacedByPlural)

include h h'

lemma tableName_eq_iff : s.tableName = t.tableName ↔ SharePluralForm s.name t.name := by
  rw [h.tableName, h'.tableName, SharePluralForm, ← pluralize_eq_iff, Value.scalar.injEq,
    Scalar.text.injEq]

lemma endpoint_eq_iff : s.endpoint = t.endpoint ↔ SharePluralForm s.name t.name := by
  rw [h.endpoint, h'.endpoint, SharePluralForm, ← pluralize_eq_iff, String.append_right_inj]

end PlacedByPlural

end Schema

namespace AnalysisResult

variable {entities : List Entity} {result : AnalysisResult}

/-- The tables of a result without overrides are the plurals of its names. -/
lemma placedByPlural_of_analyze (ok : analyze entities {} = .ok result) :
    ∀ s ∈ result.schemas, s.PlacedByPlural := by
  obtain ⟨d, outs, -, known, assembles⟩ := assembles_of_analyze ok
  intro s mem
  obtain ⟨out, isOut, rfl⟩ := List.mem_map.1 (assembles.perm.subset mem)
  obtain ⟨entry, isEntry, analyzed⟩ := exists_of_mem_right assembles.analyzed isOut
  have closed := ((Schema.ofEntity_closed known.lists entry.1 entry.2).of_eq_ok analyzed).1
  have endpoint := (Schema.ofEntity_endpoint d entry.1 entry.2).of_eq_ok analyzed
  have plural : d.plural entry.1 = pluralize entry.1 [] := by rw [Directory.plural, known.options]
  constructor
  · have isName : entry.1 ∈ d.names := List.mem_map_of_mem isEntry
    rw [closed.tableName, closed.name, known.tabled.tableFor, if_pos isName, Directory.ownTable,
      plural, known.options]
    rfl
  · rw [endpoint, closed.name, plural, known.options]
    rfl

/-- Two schemas of a run with default options have one table exactly if they have one path, and this
is so exactly if the singulars of their names have one plural. So all tables are different, and all
paths are, just if no two names of entities are such. -/
theorem nodup_tables_iff (ok : analyze entities {} = .ok result) :
    (∀ s ∈ result.schemas, ∀ t ∈ result.schemas,
      (s.tableName = t.tableName ↔ SharePluralForm s.name t.name) ∧
      (s.endpoint = t.endpoint ↔ SharePluralForm s.name t.name)) ∧
    ((result.schemas.map (·.tableName)).Nodup ↔
      (entityNames entities).Pairwise fun a b => ¬ SharePluralForm a b) ∧
    ((result.schemas.map (·.endpoint)).Nodup ↔
      (entityNames entities).Pairwise fun a b => ¬ SharePluralForm a b) := by
  have placed := placedByPlural_of_analyze ok
  obtain ⟨d, outs, -, known, assembles⟩ := assembles_of_analyze ok
  have names : result.names.Perm (entityNames entities) :=
    known.lists.entityNames_eq ▸ assembles.names_perm known.lists
  have byName : result.schemas.Pairwise (fun s t => ¬ SharePluralForm s.name t.name) ↔
      (entityNames entities).Pairwise fun a b => ¬ SharePluralForm a b := by
    have moved := names.pairwise_iff (R := fun a b => ¬ SharePluralForm a b)
      fun {_ _} => mt sharePluralForm_comm.1
    rw [← moved, AnalysisResult.names, List.pairwise_map]
  refine ⟨fun s mem t mem' => ?_, ?_, ?_⟩
  · exact ⟨(placed s mem).tableName_eq_iff (placed t mem'), (placed s mem).endpoint_eq_iff
      (placed t mem')⟩
  · rw [← byName, List.Nodup, List.pairwise_map]
    refine List.Pairwise.iff_of_mem fun mem mem' => ?_
    rw [ne_eq, (placed _ mem).tableName_eq_iff (placed _ mem')]
  · rw [← byName, List.Nodup, List.pairwise_map]
    refine List.Pairwise.iff_of_mem fun mem mem' => ?_
    rw [ne_eq, (placed _ mem).endpoint_eq_iff (placed _ mem')]

/-- Entities of these names, without any parts. -/
def bareEntities (names : List String) : List Entity := names.map fun name => { name := .text name }

/-- Entities that share a table are accepted as any others are. -/
lemma names_bareEntities :
    (analyze (bareEntities ["user", "post"]) {}).toOption.map (·.names) = some ["user", "post"] ∧
    (analyze (bareEntities ["user", "users"]) {}).toOption.map (·.names) =
      some ["user", "users"] := by
  decide +kernel

/-- Users and posts have tables of their own. -/
theorem exists_nodup_tables : ∃ result, analyze (bareEntities ["user", "post"]) {} = .ok result ∧
    (result.schemas.map (·.tableName)).Nodup ∧ (result.schemas.map (·.endpoint)).Nodup := by
  obtain ⟨result, ok, -⟩ := exists_eq_ok_of_toOption names_bareEntities.1
  have apart : (entityNames (bareEntities ["user", "post"])).Pairwise fun a b =>
    ¬ SharePluralForm a b := by
    have other : ¬ SharePluralForm "user" "post" := by
      rw [SharePluralForm, ← pluralize_eq_iff]
      decide +kernel
    simpa [entityNames, bareEntities, Value.text?] using other
  obtain ⟨-, tables, endpoints⟩ := nodup_tables_iff ok
  exact ⟨result, ok, tables.2 apart, endpoints.2 apart⟩

/-- An entity in the singular and one in the plural share a table and a path. -/
theorem exists_shared_table : ∃ result, analyze (bareEntities ["user", "users"]) {} = .ok result ∧
    ¬ (result.schemas.map (·.tableName)).Nodup ∧ ¬ (result.schemas.map (·.endpoint)).Nodup := by
  obtain ⟨result, ok, names⟩ := exists_eq_ok_of_toOption names_bareEntities.2
  have placed := placedByPlural_of_analyze ok
  have same : pluralize "user" [] = pluralize "users" [] := by decide +kernel
  have tables : result.schemas.map (·.tableName) =
      ["user", "users"].map fun name => .text (pluralize name []) := by
    rw [← names, AnalysisResult.names, List.map_map]
    exact List.map_congr_left fun s mem => (placed s mem).tableName
  have endpoints : result.schemas.map (·.endpoint) =
      ["user", "users"].map fun name => "/api/" ++ pluralize name [] := by
    rw [← names, AnalysisResult.names, List.map_map]
    exact List.map_congr_left fun s mem => (placed s mem).endpoint
  refine ⟨result, ok, ?_, ?_⟩
  · rw [tables]
    simp [same]
  · rw [endpoints]
    simp [same]

end AnalysisResult

end EntityModel
