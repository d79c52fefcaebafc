import EntityModel.Proofs.Analysis.Runs
import EntityModel.Proofs.Consistency
import Mathlib.Data.List.Find

/-!
# The order of declarations

Where two entities have a form of their names in common, a reference means the first of them; this
is all that the order of declarations decides. Entities no two of which have a form in common have
the same schemas and the same diagnostics in whatever order they are declared. Only the order in
which they are created may differ, and with it the dependencies that are dropped from cycles.
-/

namespace EntityModel

open Outcome

variable {overrides : Naming.Overrides} {names names' : List String}

/-- No two of the names have a form in common. -/
abbrev Apart (overrides : Naming.Overrides) (names : List String) : Prop :=
  names.Pairwise fun s t => ¬ ShareForm overrides s t

namespace Apart

lemma perm (apart : Apart overrides names) (perm : names.Perm names') : Apart overrides names' :=
  (perm.pairwise_iff fun other shared => other shared.symm).1 apart

lemma nodup (apart : Apart overrides names) : names.Nodup :=
  List.Pairwise.imp (fun {s t} other (same : s = t) =>
    other (same ▸ ShareForm.refl overrides s)) apart

/-- A form belongs to one name at most. -/
lemma eq_of_mem_nameForms (apart : Apart overrides names) {s t form : String} (hs : s ∈ names)
    (ht : t ∈ names) (ofS : form ∈ nameForms s overrides) (ofT : form ∈ nameForms t overrides) :
    s = t := by
  by_contra other
  exact List.Pairwise.forall apart hs ht other ⟨form, ofS, ofT⟩

/-- A search among names that have no form in common finds the same in any order of them. -/
lemma searchNames_perm (apart : Apart overrides names) (perm : names.Perm names')
    (reference : String) :
    searchNames overrides names' reference = searchNames overrides names reference := by
  have found : ∀ form, names'.find? (fun name => (nameForms name overrides).contains form) =
      names.find? fun name => (nameForms name overrides).contains form := by
    intro form
    refine (List.find?_eq_find?_of_perm perm ?_).symm
    rintro s ⟨hs, ofS⟩ t ⟨ht, ofT⟩
    exact apart.eq_of_mem_nameForms hs ht (List.contains_iff_mem.1 ofS)
      (List.contains_iff_mem.1 ofT)
  unfold searchNames
  simp only [perm.mem_iff, found]

end Apart

variable {entities entities' : List Entity} {options : Options} {d d' : Directory}

/-! ### Directories -/

namespace Directory

lemma Lists.entities_perm (h : d.Lists entities) (h' : d'.Lists entities')
    (perm : entities.Perm entities') : d.entities.Perm d'.entities := by
  rw [h.entities_eq, h'.entities_eq]
  exact perm.filterMap _

/-- The directories of the same entities in two orders answer alike, if no two of them have a form
in common. -/
lemma Built.answersAlike_of_perm (h : d.Built entities options) (h' : d'.Built entities' options)
    (perm : entities.Perm entities') (apart : Apart options.pluralization (entityNames entities)) :
    d.AnswersAlike (fun _ => True) (fun _ => True) d' := by
  have entries := h.lists.entities_perm h'.lists perm
  refine h.answersAlike h' ?_ (fun _ _ _ _ => trivial) fun name _ e => entries.mem_iff.symm
  intro reference _
  rw [resolve_eq_searchNames h.indexed, resolve_eq_searchNames h'.indexed, h.options, h'.options]
  exact (h.lists.entityNames_eq ▸ apart).searchNames_perm (entries.map _) reference

/-- Entities that have a directory have one in any order. -/
lemma exists_build_of_perm (built : build entities options = .ok d)
    (perm : entities.Perm entities') : ∃ d', build entities' options = .ok d' := by
  have texts := isText_of_build built
  have distinct := (built_of_build built).lists.nodup_map_name
  obtain ⟨d', built', _⟩ := exists_build (fun e mem => texts e (perm.symm.subset mem))
    ((perm.map _).nodup_iff.1 distinct) options
  exact ⟨d', built'⟩

end Directory

/-! ### Runs -/

namespace AnalysisResult

/-- Two results have the same schemas, each under its name, and the same diagnostics but for those
on the order of schemas. -/
structure SameBut (result result' : AnalysisResult) : Prop where
  schemas : result.schemas.Perm result'.schemas
  schema? : ∀ name, result.schema? name = result'.schema? name
  ordinary : result.ordinary.Perm result'.ordinary

/-- Results of the same entities in another order differ only in the order. -/
lemma sameBut_of_perm (perm : entities.Perm entities')
    (apart : Apart options.pluralization (entityNames entities)) {result result' : AnalysisResult}
    (ok : analyze entities options = .ok result) (ok' : analyze entities' options = .ok result') :
    result.SameBut result' := by
  obtain ⟨d, outs, _, built, assembles⟩ := assembles_of_analyze ok
  obtain ⟨d', outs', _, built', assembles'⟩ := assembles_of_analyze ok'
  have alike := built.answersAlike_of_perm built' perm apart
  have analyzed : Schema.Analyzed d d'.entities outs' := by
    refine assembles'.analyzed.imp fun entry out analyzed => ?_
    rw [← analyzed]
    refine (Schema.ofEntity_alike alike ?_ ?_ ?_ trivial).symm
    all_goals simp
  have outsPerm : outs.Perm outs' := by
    refine List.rel_perm_imp ?_ assembles.analyzed analyzed
      (built.lists.entities_perm built'.lists perm)
    exact fun _ _ _ first second => Except.ok.inj (first.symm.trans second)
  have schemas : result.schemas.Perm result'.schemas :=
    (assembles.perm.trans (outsPerm.map _)).trans assembles'.perm.symm
  refine ⟨schemas, fun name => Option.ext fun schema => ?_, ?_⟩
  · rw [assembles.schema?_eq_some_iff built.lists, assembles'.schema?_eq_some_iff built'.lists,
      schemas.mem_iff]
  · rw [assembles.ordinary, assembles'.ordinary]
    exact outsPerm.flatMap_right _

/-- If entities have a result, then so have they in any other order. -/
lemma exists_analyze_of_perm (perm : entities.Perm entities')
    (apart : Apart options.pluralization (entityNames entities))
    (h : ∃ result, analyze entities options = .ok result) :
    ∃ result, analyze entities' options = .ok result := by
  obtain ⟨result, ok⟩ := h
  obtain ⟨d, outs, builds, built, assembles⟩ := assembles_of_analyze ok
  obtain ⟨d', builds'⟩ := Directory.exists_build_of_perm builds perm
  have built' := Directory.built_of_build builds'
  have alike := built.answersAlike_of_perm built' perm apart
  refine exists_analyze_of_forall builds' fun entry mem => ?_
  have mem : entry ∈ d.entities := (built.lists.entities_perm built'.lists perm).mem_iff.2 mem
  obtain ⟨out, _, ok⟩ := exists_of_mem_left assembles.analyzed mem
  refine ⟨out, (Schema.ofEntity_alike alike ?_ ?_ ?_ trivial).trans ok⟩
  all_goals simp

/-- For entities no two of which have a form of their names in common the order of declarations does
not matter: there is a result in one order if there is one in another, with the same schema under
each name and the same diagnostics but for those on the order of schemas. There is one as soon as
the entities are well-typed with bounds that are finite numbers. -/
theorem analyze_perm (perm : entities.Perm entities') (options : Options)
    (apart : (entityNames entities).Pairwise fun s t => ¬ ShareForm options.pluralization s t) :
    ((∀ e ∈ entities, e.WellTyped Value.IsFinite) →
      ∃ result, analyze entities options = .ok result) ∧
    ((∃ result, analyze entities options = .ok result) ↔
      ∃ result, analyze entities' options = .ok result) ∧
    ∀ result result', analyze entities options = .ok result →
      analyze entities' options = .ok result' →
      result.schemas.Perm result'.schemas ∧
      (∀ e ∈ entities, ∀ name, e.name = .text name →
        ∃ schema, result.schema? name = some schema ∧ result'.schema? name = some schema) ∧
      result.ordinary.Perm result'.ordinary := by
  have apart' : Apart options.pluralization (entityNames entities') :=
    Apart.perm apart (perm.filterMap _)
  refine ⟨fun finite => ?_, ?_, fun result result' ok ok' => ?_⟩
  · have texts : entities.map (·.name) = (entityNames entities).map .text := by
      rw [entityNames, List.map_filterMap, ← List.filterMap_eq_map]
      refine List.filterMap_congr fun e mem => ?_
      obtain ⟨name, named⟩ := (finite e mem).name
      simp [named, Value.text?]
    refine exists_analyze finite ?_ options
    rw [texts]
    exact (Apart.nodup apart).map fun s t same => by simpa using same
  · exact ⟨exists_analyze_of_perm perm apart, exists_analyze_of_perm perm.symm apart'⟩
  · obtain ⟨schemas, same, ordinary⟩ := sameBut_of_perm perm apart ok ok'
    refine ⟨schemas, fun e mem name named => ?_, ordinary⟩
    obtain ⟨d, outs, _, built, assembles⟩ := assembles_of_analyze ok
    obtain ⟨entry, isEntry, rfl⟩ := List.mem_map.1 (built.lists.mem_names.2 ⟨e, mem, named⟩)
    obtain ⟨out, _, found, _⟩ := assembles.of_mem built.lists isEntry
    exact ⟨out.1, found, same entry.1 ▸ found⟩

/-- The dependencies that a run reports as dropped. -/
def droppedNames (result : AnalysisResult) : List (Option String × Option String) :=
  (cycleEdges result.diagnostics).map fun edge => (edge.1.text?, edge.2.text?)

lemma tangled_reverse_dropped :
    (analyze tangled {}).toOption.map droppedNames = some [(some "team", some "user")] ∧
    (analyze tangled.reverse {}).toOption.map droppedNames = some [(some "user", some "team")] := by
  decide +kernel

/-- The order of declarations does decide which side of a cycle is dropped. -/
theorem analyze_tangled_reverse : ∃ result result', analyze tangled {} = .ok result ∧
    analyze tangled.reverse {} = .ok result' ∧ result.schemas.Perm result'.schemas ∧
    result.ordinary.Perm result'.ordinary ∧ result.droppedNames ≠ result'.droppedNames := by
  have apart : (entityNames tangled).Pairwise fun s t => ¬ ShareForm [] s t := by decide +kernel
  obtain ⟨answer, either, same⟩ := analyze_perm tangled.reverse_perm.symm {} apart
  obtain ⟨result, ok⟩ := answer tangled_wellTyped
  obtain ⟨result', ok'⟩ := either.1 ⟨result, ok⟩
  obtain ⟨schemas, _, ordinary⟩ := same result result' ok ok'
  obtain ⟨dropped, dropped'⟩ := tangled_reverse_dropped
  rw [ok] at dropped
  rw [ok'] at dropped'
  refine ⟨result, result', ok, ok', schemas, ordinary, ?_⟩
  rw [Option.some.inj dropped, Option.some.inj dropped']
  decide

end AnalysisResult

end EntityModel
