import EntityModel.Proofs.Analysis.Schemas
import EntityModel.Proofs.CreationOrder.Order

/-!
# The analysis of a run

A run over well-typed entities of distinct names has a result, unless a bound cannot be read: the
schemas of the entities, put in order, pass the checks of the result. What is proved of the order of
schemas thereby holds of the entities. The diagnostics are those that the entities call for, and
those on the order.
-/

namespace EntityModel

open Outcome

variable {bound : Value → Prop} {allowed : Fault → Prop} {d : Directory} {entities : List Entity}
  {analyzed schemas : List Schema}

/-! ### Schemas of a directory -/

namespace Schema

lemma map_name_of_describes {entries : List (String × Entity)}
    (h : List.Forall₂ (Describes d) entries analyzed) :
    analyzed.map (·.name) = entries.map (·.1) :=
  map_eq_map h fun _ _ describes => describes.name

end Schema

namespace AnalysisResult

/-! ### Checks -/

/-- No reference check of a schema fails whose known targets are among the names. -/
lemma checkRelations_ok {relations : List ResolvedRelation}
    (h : ∀ r ∈ relations, r.targetKnown = true → r.target ∈ d.names) (schema : String) :
    checkRelations d schema relations = .ok () := by
  induction relations with
  | nil => rfl
  | cons r rest ih =>
    obtain ⟨first, others⟩ := List.forall_mem_cons.1 h
    rw [checkRelations, if_neg, ih others]
    rw [Bool.and_eq_true, Bool.not_eq_true', Directory.contains_false_iff]
    exact fun ⟨known, absent⟩ => absent (first known)

lemma checkDependencies_ok {dependencies : List String} (h : dependencies ⊆ d.names)
    (schema : String) : checkDependencies d schema dependencies = .ok () := by
  induction dependencies with
  | nil => rfl
  | cons dependency rest ih =>
    obtain ⟨first, others⟩ := List.cons_subset.1 h
    rw [checkDependencies, if_pos (Directory.contains_iff.2 first), ih others]

/-- The check of references passes where dependencies and known targets are among the names. -/
lemma checkReferences_ok
    (h : ∀ schema ∈ schemas, schema.dependsOn ⊆ d.names ∧
      ∀ r ∈ schema.relations, r.targetKnown = true → r.target ∈ d.names) :
    checkReferences d schemas = .ok () := by
  induction schemas with
  | nil => rfl
  | cons schema rest ih =>
    obtain ⟨⟨dependencies, relations⟩, others⟩ := List.forall_mem_cons.1 h
    rw [checkReferences, checkRelations_ok relations, checkDependencies_ok dependencies, ih others]
    rfl

/-! ### Results -/

/-- What a result is: the schemas of the entities, in an order for which the cycles are dropped
that the diagnostics report; the other diagnostics are those that the entities call for. -/
structure Presents (d : Directory) (analyzed : List Schema) (cycles : List Diagnostic)
    (result : AnalysisResult) : Prop where
  described : List.Forall₂ (Schema.Describes d) d.entities analyzed
  sorted : CreationOrder.Sorted analyzed result.schemas cycles
  edges : cycleEdges result.diagnostics = cycleEdges cycles
  topics : (result.diagnostics.map Diagnostic.topic).Perm
    (d.entities.flatMap (fun entry => entry.2.topics d) ++ analyzed.flatMap Schema.keyTopics ++
      cycles.map Diagnostic.topic)

/-- The dependencies and the known targets of a schema are entities of the directory. -/
lemma references_mem (lists : d.Lists entities) {entry : String × Entity} {schema : Schema}
    (h : Schema.Describes d entry schema) :
    schema.dependsOn ⊆ d.names ∧
      ∀ r ∈ schema.relations, r.targetKnown = true → r.target ∈ d.names := by
  refine ⟨fun t mem => ?_, fun r mem known => ?_⟩
  · obtain ⟨_, written, _, meant⟩ := ((h.dependsOn.mem t).1 mem).resolve_left List.not_mem_nil
    exact lists.resolve_mem meant
  · obtain ⟨written, meant⟩ := h.known r mem known
    exact lists.resolve_mem meant

/-- The analysis of a directory presents the schemas of its entities in an order for their
creation. -/
theorem ofDirectory_ensures (lists : d.Lists entities)
    (readable : ∀ v, bound v → v.Readable allowed)
    (typed : ∀ e ∈ entities, e.WellTyped bound) :
    Ensures allowed (fun result => ∃ analyzed cycles, Presents d analyzed cycles result)
      (ofDirectory d) := by
  unfold ofDirectory
  refine (Schema.ofEntities_ensures lists readable (fun entry mem =>
    typed _ (lists.mem_entities mem))
    (List.Subset.refl _)).bind fun ⟨analyzed, diagnostics⟩ ⟨described, calls⟩ => ?_
  have clean : cycleEdges diagnostics = [] := cycleEdges_eq_nil fun topic mem => by
    rcases List.mem_append.1 (calls.subset mem) with mem | mem
    · obtain ⟨entry, _, mem⟩ := List.mem_flatMap.1 mem
      exact Entity.kind_ne_of_mem_topics mem
    · obtain ⟨schema, _, mem⟩ := List.mem_flatMap.1 mem
      exact Schema.kind_ne_of_mem_keyTopics mem
  have names : analyzed.map (·.name) = d.names := Schema.map_name_of_describes described
  have references : ∀ schema ∈ analyzed, schema.dependsOn ⊆ d.names ∧
      ∀ r ∈ schema.relations, r.targetKnown = true → r.target ∈ d.names := fun schema mem =>
    have ⟨_, _, describes⟩ := exists_of_mem_right described mem
    references_mem lists describes
  obtain ⟨order, cycles, ok, sorted⟩ := CreationOrder.sort_sorted (names ▸ lists.distinct)
    fun schema mem => names ▸ (references schema mem).1
  have length : order.length = d.entities.length := by
    rw [sorted.perm.length_eq, described.length_eq]
  have verified : verify d order = .ok () := by
    rw [verify, if_pos length]
    exact checkReferences_ok fun schema mem => references schema (sorted.perm.subset mem)
  dsimp only
  rw [ok]
  dsimp only [bind, Except.bind]
  rw [verified]
  refine ⟨analyzed, cycles, described, sorted, by simp [clean], ?_⟩
  rw [List.map_append]
  exact calls.append_right _

/-- A run over well-typed entities of distinct names presents them, unless a bound cannot be
read. -/
theorem analyze_ensures (readable : ∀ v, bound v → v.Readable allowed)
    (typed : ∀ e ∈ entities, e.WellTyped bound) (distinct : (entities.map (·.name)).Nodup)
    (options : Options) :
    ∃ d, Directory.build entities options = .ok d ∧ d.Lists entities ∧
      Ensures allowed (fun result => ∃ analyzed cycles, Presents d analyzed cycles result)
        (analyze entities options) := by
  obtain ⟨d, built, _, lists⟩ := Directory.exists_build (fun e mem => (typed e mem).name) distinct
    options
  refine ⟨d, built, lists, ?_⟩
  rw [analyze, built]
  exact ofDirectory_ensures lists readable typed

/-- A run whose bounds are all finite numbers has a result. -/
lemma exists_analyze (finite : ∀ e ∈ entities, e.WellTyped Value.IsFinite)
    (distinct : (entities.map (·.name)).Nodup) (options : Options) :
    ∃ result, analyze entities options = .ok result := by
  obtain ⟨_, _, _, ensures⟩ := analyze_ensures (fun _ => Value.IsFinite.readable) finite distinct
    options
  obtain ⟨result, ok, _⟩ := ensures.exists_ok
  exact ⟨result, ok⟩

end AnalysisResult

end EntityModel
