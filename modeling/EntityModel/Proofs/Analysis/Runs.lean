import EntityModel.Proofs.Analysis.Answers
import EntityModel.Proofs.Analysis.Results

/-!
# Runs, entity by entity

A run is the analysis of each of its entities on its own, put together. There is a result exactly if
every entity can be analysed against the directory of all, for the order of schemas and the checks
on the result cannot fail. A result has for each entity the schema and the diagnostics that its own
analysis gives, and besides these only diagnostics on the order.
-/

namespace EntityModel

open Outcome

variable {d : Directory} {entities : List Entity}

/-! ### Entities -/

namespace Schema

/-- The entities have these schemas, with these diagnostics, each by its own analysis. -/
abbrev Analyzed (d : Directory) (entries : List (String × Entity))
    (outs : List (Schema × List Diagnostic)) : Prop :=
  List.Forall₂ (fun entry out => ofEntity d entry.1 entry.2 = .ok out) entries outs

/-- Entities are analysed one by one, and their diagnostics joined. -/
lemma ofEntities_eq (entries : List (String × Entity)) :
    ofEntities d entries = (fun outs => (outs.map (·.1), outs.flatMap (·.2))) <$>
      entries.mapM fun entry => ofEntity d entry.1 entry.2 := by
  induction entries with
  | nil => rfl
  | cons entry rest ih =>
    rw [ofEntities, ih, List.mapM_cons]
    cases ofEntity d entry.1 entry.2 with
    | error fault => rfl
    | ok out => cases rest.mapM fun entry => ofEntity d entry.1 entry.2 <;> rfl

variable {entries : List (String × Entity)} {outs : List (Schema × List Diagnostic)}

/-- What the analysis of any entity ensures holds of all that are analysed. -/
lemma Analyzed.closed (h : Analyzed d entries outs) (lists : d.Lists entities) :
    List.Forall₂ (fun entry out => Closed d entry.1 out.1 ∧ ∀ x ∈ out.2, x.Concerns entry.1)
      entries outs :=
  h.imp fun entry _ ok => (ofEntity_closed lists entry.1 entry.2).of_eq_ok ok

lemma Analyzed.map_name (h : Analyzed d entries outs) (lists : d.Lists entities) :
    (outs.map (·.1)).map (·.name) = entries.map (·.1) := by
  rw [List.map_map]
  exact map_eq_map (h.closed lists) fun _ _ closed => closed.1.name

lemma Analyzed.exists_closed (h : Analyzed d d.entities outs) (lists : d.Lists entities)
    {schema : Schema} (mem : schema ∈ outs.map (·.1)) : ∃ name ∈ d.names, schema.Closed d name := by
  obtain ⟨out, isOut, rfl⟩ := List.mem_map.1 mem
  obtain ⟨entry, isEntry, closed, _⟩ := exists_of_mem_right (h.closed lists) isOut
  exact ⟨entry.1, List.mem_map_of_mem isEntry, closed⟩

/-- No diagnostic that arises with a schema is on the order. -/
lemma Analyzed.kind_ne (h : Analyzed d entries outs) (lists : d.Lists entities) {x : Diagnostic}
    (mem : x ∈ outs.flatMap (·.2)) : x.kind ≠ .circularDependency := by
  obtain ⟨out, isOut, isOwn⟩ := List.mem_flatMap.1 mem
  obtain ⟨entry, _, _, concerns⟩ := exists_of_mem_right (h.closed lists) isOut
  exact (concerns x isOwn).kind

/-- The diagnostics that arise with a schema are all on its entity. -/
lemma filter_of_ofEntity (lists : d.Lists entities) {entry : String × Entity}
    {out : Schema × List Diagnostic} (ok : ofEntity d entry.1 entry.2 = .ok out) (name : String) :
    out.2.filter (·.entity.text? == some name) = if entry.1 = name then out.2 else [] := by
  have own : ∀ x ∈ out.2, x.entity.text? = some entry.1 := by
    intro x mem
    rw [(((ofEntity_closed lists _ _).of_eq_ok ok).2 x mem).entity]
    rfl
  split_ifs with here
  · exact List.filter_eq_self.2 fun x mem => by rw [own x mem, here, beq_self_eq_true]
  · refine List.filter_eq_nil_iff.2 fun x mem => ?_
    rw [own x mem, beq_iff_eq, Option.some.injEq]
    exact here

/-- No diagnostic concerns an entity that has not been analysed. -/
lemma Analyzed.filter_flatMap_eq_nil (h : Analyzed d entries outs) (lists : d.Lists entities)
    {name : String} (absent : name ∉ entries.map (·.1)) :
    (outs.flatMap (·.2)).filter (·.entity.text? == some name) = [] := by
  induction h with
  | nil => rfl
  | cons isFirst others ih =>
    rw [List.map_cons, List.mem_cons, not_or] at absent
    rw [List.flatMap_cons, List.filter_append, filter_of_ofEntity lists isFirst,
      if_neg (Ne.symm absent.1), ih absent.2, List.append_nil]

/-- Among the diagnostics on several entities those on one of them are the ones that arose with its
schema. -/
lemma Analyzed.filter_flatMap (h : Analyzed d entries outs) (lists : d.Lists entities)
    (distinct : (entries.map (·.1)).Nodup) {entry : String × Entity} (mem : entry ∈ entries)
    {out : Schema × List Diagnostic} (ok : ofEntity d entry.1 entry.2 = .ok out) :
    (outs.flatMap (·.2)).filter (·.entity.text? == some entry.1) = out.2 := by
  induction h with
  | nil => exact absurd mem List.not_mem_nil
  | @cons first _ _ _ isFirst others ih =>
    rw [List.map_cons, List.nodup_cons] at distinct
    rw [List.flatMap_cons, List.filter_append, filter_of_ofEntity lists isFirst]
    rcases List.mem_cons.1 mem with rfl | mem
    · obtain rfl := Except.ok.inj (ok.symm.trans isFirst)
      rw [if_pos rfl, Analyzed.filter_flatMap_eq_nil others lists distinct.1, List.append_nil]
    · have other : first.1 ≠ entry.1 := fun same => distinct.1 (same ▸ List.mem_map_of_mem mem)
      rw [if_neg other, List.nil_append, ih distinct.2 mem]

end Schema

/-! ### Results -/

namespace AnalysisResult

/-- The diagnostics of a result but for those on the order of schemas. -/
def ordinary (r : AnalysisResult) : List Diagnostic :=
  r.diagnostics.filter (·.kind ≠ .circularDependency)

/-- The diagnostics of a result on the entity of a name, but for those on the order of schemas. -/
def diagnosticsOn (r : AnalysisResult) (name : String) : List Diagnostic :=
  r.ordinary.filter (·.entity.text? == some name)

/-- The result is put together from schemas and diagnostics of the entities of a directory. -/
structure Assembles (d : Directory) (outs : List (Schema × List Diagnostic))
    (result : AnalysisResult) : Prop where
  analyzed : Schema.Analyzed d d.entities outs
  perm : result.schemas.Perm (outs.map (·.1))
  ordinary : result.ordinary = outs.flatMap (·.2)
  dropped : ∀ x ∈ result.diagnostics, x ∈ outs.flatMap (·.2) ∨
    ∃ edge : String × String, x = CreationOrder.circular edge.1 edge.2

variable {outs : List (Schema × List Diagnostic)} {result : AnalysisResult}

/-- Entities that can be analysed have a result. -/
lemma exists_ofDirectory (lists : d.Lists entities) (analyzed : Schema.Analyzed d d.entities outs) :
    ∃ result, ofDirectory d = .ok result ∧ Assembles d outs result := by
  have names : (outs.map (·.1)).map (·.name) = d.names := analyzed.map_name lists
  have closed : ∀ schema ∈ outs.map (·.1), schema.dependsOn ⊆ d.names ∧
      ∀ r ∈ schema.relations, r.targetKnown = true → r.target ∈ d.names := by
    intro schema mem
    obtain ⟨name, _, closed⟩ := analyzed.exists_closed lists mem
    exact ⟨closed.dependsOn.known, fun r isRelation => (closed.relations r isRelation).known.1⟩
  obtain ⟨order, cycles, sorts, sorted⟩ := CreationOrder.sort_sorted (names ▸ lists.distinct)
    fun schema mem => names ▸ (closed schema mem).1
  have verified : verify d order = .ok () := by
    have length : order.length = d.entities.length := by
      rw [sorted.perm.length_eq, List.length_map, analyzed.length_eq]
    rw [verify, if_pos length]
    exact checkReferences_ok fun schema mem => closed schema (sorted.perm.subset mem)
  refine ⟨⟨order, outs.flatMap (·.2) ++ cycles⟩, ?_, analyzed, sorted.perm, ?_, ?_⟩
  · unfold ofDirectory
    rw [Schema.ofEntities_eq, mapM_eq_ok_iff.2 analyzed, ok_map, ok_bind]
    dsimp only
    rw [sorts, ok_bind]
    dsimp only
    rw [verified]
    rfl
  · have own : ∀ x ∈ outs.flatMap (·.2), x.kind ≠ .circularDependency := fun x mem =>
      analyzed.kind_ne lists mem
    have onOrder : ∀ x ∈ cycles, x.kind = .circularDependency := by
      intro x mem
      obtain ⟨edge, rfl⟩ := sorted.exists_circular mem
      rfl
    unfold AnalysisResult.ordinary
    rw [List.filter_append, List.filter_eq_self.2 (by simpa using own),
      List.filter_eq_nil_iff.2 (by simpa using onOrder), List.append_nil]
  · intro x mem
    exact (List.mem_append.1 mem).imp_right sorted.exists_circular

/-- A result is put together from the entities of its directory. -/
lemma assembles_of_ofDirectory (lists : d.Lists entities) (ok : ofDirectory d = .ok result) :
    ∃ outs, Assembles d outs result := by
  have ok' := ok
  unfold ofDirectory at ok'
  obtain ⟨_, analysis, _⟩ := bind_eq_ok_iff.1 ok'
  rw [Schema.ofEntities_eq] at analysis
  cases each : d.entities.mapM fun entry => Schema.ofEntity d entry.1 entry.2 with
  | error fault =>
    rw [each] at analysis
    cases analysis
  | ok outs =>
    obtain ⟨other, sameRun, assembles⟩ := exists_ofDirectory lists (mapM_eq_ok_iff.1 each)
    obtain rfl := Except.ok.inj (ok.symm.trans sameRun)
    exact ⟨outs, assembles⟩

namespace Assembles

variable (h : Assembles d outs result) (lists : d.Lists entities)

include h lists

/-- The names of the schemas are those of the entities of the directory. -/
lemma names_perm : result.names.Perm d.names := by
  have names : (outs.map (·.1)).map (·.name) = d.names := h.analyzed.map_name lists
  exact names ▸ h.perm.map _

lemma nodup_names : (result.schemas.map (·.name)).Nodup :=
  (h.names_perm lists).nodup_iff.2 lists.distinct

/-- The schema of a name is the one schema that has it. -/
lemma schema?_eq_some_iff {name : String} {schema : Schema} :
    result.schema? name = some schema ↔ schema ∈ result.schemas ∧ schema.name = name := by
  unfold schema?
  constructor
  · intro found
    exact ⟨List.mem_of_find?_eq_some found, by simpa using List.find?_some found⟩
  · rintro ⟨mem, rfl⟩
    cases found : result.schemas.find? (·.name == schema.name) with
    | none => exact absurd (List.find?_eq_none.1 found schema mem) (by simp)
    | some other =>
      have same : other.name = schema.name := by simpa using List.find?_some found
      rw [List.inj_on_of_nodup_map (h.nodup_names lists) (List.mem_of_find?_eq_some found) mem same]

/-- A result has for each entity the schema and the diagnostics that its own analysis gives. -/
theorem of_mem {entry : String × Entity} (mem : entry ∈ d.entities) :
    ∃ out, Schema.ofEntity d entry.1 entry.2 = .ok out ∧
      result.schema? entry.1 = some out.1 ∧ result.diagnosticsOn entry.1 = out.2 := by
  obtain ⟨out, isOut, ok⟩ := exists_of_mem_left h.analyzed mem
  refine ⟨out, ok, (h.schema?_eq_some_iff lists).2 ⟨?_, ?_⟩, ?_⟩
  · exact h.perm.symm.subset (List.mem_map_of_mem isOut)
  · exact ((Schema.ofEntity_closed lists entry.1 entry.2).of_eq_ok ok).1.name
  · unfold diagnosticsOn
    rw [h.ordinary]
    exact h.analyzed.filter_flatMap lists lists.distinct mem ok

end Assembles

/-- The result of a run is put together from the entities of the directory that the run builds. -/
theorem assembles_of_analyze {options : Options} (ok : analyze entities options = .ok result) :
    ∃ d outs, Directory.build entities options = .ok d ∧ d.Built entities options ∧
      Assembles d outs result := by
  obtain ⟨d, built, ok⟩ := bind_eq_ok_iff.1 ok
  have known := Directory.built_of_build built
  obtain ⟨outs, assembles⟩ := assembles_of_ofDirectory known.lists ok
  exact ⟨d, outs, built, known, assembles⟩

/-- Entities that each can be analysed against the directory of all have a result. -/
theorem exists_analyze_of_forall {options : Options}
    (built : Directory.build entities options = .ok d)
    (each : ∀ entry ∈ d.entities, ∃ out, Schema.ofEntity d entry.1 entry.2 = .ok out) :
    ∃ result, analyze entities options = .ok result := by
  obtain ⟨outs, analyzed⟩ := exists_forall₂_of_forall each
  obtain ⟨result, ok, _⟩ := exists_ofDirectory (Directory.built_of_build built).lists analyzed
  exact ⟨result, bind_eq_ok_iff.2 ⟨d, built, ok⟩⟩

end AnalysisResult

end EntityModel
