import EntityModel.Proofs.Consistency

/-!
# Diagnostics

No mistake is passed over and no warning is spurious: what the diagnostics of a result are about is,
each as often as it stands there, what the declarations of the entities call for, with a diagnostic
for each key that nothing suggests and one for each dependency that the order drops.
-/

namespace EntityModel

open Outcome CreationOrder

variable {entities : List Entity} {d : Directory}

/-- Each dependency that does not come before its schema calls for a diagnostic. -/
def Schema.droppedTopics (order : List Schema) (s : Schema) : List Topic :=
  (droppedOf order s).map fun edge => (.circularDependency, .text edge.1, .text edge.2)

namespace AnalysisResult

namespace Presents

variable {analyzed : List Schema} {cycles : List Diagnostic} {result : AnalysisResult}
  (h : Presents d analyzed cycles result)

include h

/-- The circular dependencies that are reported are those dropped from the order. -/
lemma cycles_topics_perm (lists : d.Lists entities) :
    (cycles.map Diagnostic.topic).Perm
      (result.schemas.flatMap (Schema.droppedTopics result.schemas)) := by
  have distinct : (analyzed.map (·.name)).Nodup := by
    rw [Schema.map_name_of_describes h.described]
    exact lists.distinct
  have single : ∀ schema ∈ analyzed, schema.dependsOn.Nodup := by
    intro schema mem
    obtain ⟨entry, _, describes⟩ := exists_of_mem_right h.described mem
    exact describes.dependsOn.single
  have reported : cycles.map Diagnostic.topic = (dropped cycles).map fun edge =>
      (.circularDependency, .text edge.1, .text edge.2) := by
    conv_lhs => rw [h.sorted.reported, List.map_map]
    rfl
  rw [reported]
  have perm := (h.sorted.dropped_perm distinct single).map fun edge =>
    ((.circularDependency, .text edge.1, .text edge.2) : Topic)
  rwa [List.map_flatMap] at perm

/-- The diagnostics of a result are on its entities, its keys and the dropped dependencies. -/
lemma topics_perm (lists : d.Lists entities) :
    (result.diagnostics.map Diagnostic.topic).Perm
      (entities.flatMap (Entity.topics d) ++ result.schemas.flatMap Schema.keyTopics ++
        result.schemas.flatMap (Schema.droppedTopics result.schemas)) := by
  have declared : d.entities.flatMap (fun entry => entry.2.topics d) =
      entities.flatMap (Entity.topics d) := by
    rw [← lists.listed, List.flatMap_map]
  have keys : (analyzed.flatMap Schema.keyTopics).Perm (result.schemas.flatMap Schema.keyTopics) :=
    h.sorted.perm.symm.flatMap_right _
  refine h.topics.trans ?_
  rw [declared]
  exact (keys.append_left _).append (h.cycles_topics_perm lists)

/-- Every relation of an entity is in the result. -/
lemma exists_schema (lists : d.Lists entities) {e : Entity} (mem : e ∈ entities) :
    ∃ s ∈ result.schemas, e.name = .text s.name ∧
      s.relations.map (·.name) = e.relations.map (·.name) := by
  obtain ⟨name, isEntry⟩ := lists.exists_entry mem
  obtain ⟨s, isSchema, describes⟩ := exists_of_mem_left h.described isEntry
  refine ⟨s, h.sorted.perm.mem_iff.2 isSchema, ?_, describes.relations⟩
  rw [describes.name]
  exact lists.named _ isEntry

end Presents

/-- The diagnostics of a result are, each counted, those that the declarations call for: one for
each relation and each reference field whose target is not known, for each join entity that is not
known, and for each type in the signature of a procedure that is not known; with one for each
relation whose key has its default name, and one for each dependency that does not come before the
schema that lists it. The relations are those that are declared, and there is a result as soon as
all bounds are finite numbers. -/
theorem analyze_topics_perm (typed : ∀ e ∈ entities, e.WellTyped Value.IsNumber)
    (distinct : (entities.map (·.name)).Nodup) (options : Options) :
    ∃ d, Directory.build entities options = .ok d ∧
      ((∀ e ∈ entities, e.WellTyped Value.IsFinite) →
        ∃ result, analyze entities options = .ok result) ∧
      ∀ result, analyze entities options = .ok result →
        (∀ e ∈ entities, ∃ s ∈ result.schemas, e.name = .text s.name ∧
          s.relations.map (·.name) = e.relations.map (·.name)) ∧
        (result.diagnostics.map Diagnostic.topic).Perm
          (entities.flatMap (Entity.topics d) ++ result.schemas.flatMap Schema.keyTopics ++
            result.schemas.flatMap (Schema.droppedTopics result.schemas)) := by
  obtain ⟨d, built, lists, ensures⟩ := analyze_ensures (fun _ => Value.IsNumber.readable) typed
    distinct options
  refine ⟨d, built, fun finite => exists_analyze finite distinct options, ?_⟩
  intro result ok
  obtain ⟨analyzed, cycles, presents⟩ := ensures.of_eq_ok ok
  exact ⟨fun e mem => presents.exists_schema lists mem, presents.topics_perm lists⟩

def legible (topic : Topic) : DiagnosticKind × Option String × Option String :=
  (topic.1, topic.2.1.text?, topic.2.2.text?)

/-- What the declarations of the tangled entities call for, written out. -/
lemma tangled_topics :
    (Directory.build tangled {}).toOption.bind (fun d =>
      (analyze tangled {}).toOption.map fun result =>
      (tangled.flatMap (Entity.topics d) ++ result.schemas.flatMap Schema.keyTopics ++
        result.schemas.flatMap (Schema.droppedTopics result.schemas)).map legible) =
    some [(.unknownTarget, some "post", some "tags"),
      (.missingJoinEntity, some "post", some "tags"), (.unknownTarget, some "post", some "place"),
      (.keyFallback, some "user", some "team"),
      (.keyFallback, some "post", some "tags"),
      (.circularDependency, some "team", some "user")] := by
  decide +kernel

/-- One relation of the example calls for three diagnostics, its reference to itself for none. -/
theorem analyze_tangled_topics :
    ∃ result, analyze tangled {} = .ok result ∧
      ((result.diagnostics.map Diagnostic.topic).map legible).Perm
        [(.unknownTarget, some "post", some "tags"), (.missingJoinEntity, some "post", some "tags"),
          (.unknownTarget, some "post", some "place"), (.keyFallback, some "user", some "team"),
          (.keyFallback, some "post", some "tags"),
          (.circularDependency, some "team", some "user")] := by
  obtain ⟨d, built, answer, account⟩ := analyze_topics_perm tangled_wellTyped tangled_distinct {}
  obtain ⟨result, ok⟩ := answer tangled_wellTyped
  have topics := tangled_topics
  rw [built, ok] at topics
  refine ⟨result, ok, ?_⟩
  rw [← Option.some.inj topics]
  exact (account result ok).2.map legible

end AnalysisResult

end EntityModel
