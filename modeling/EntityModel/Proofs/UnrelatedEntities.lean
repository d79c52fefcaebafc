import EntityModel.Proofs.Analysis.Runs
import EntityModel.Proofs.Consistency

/-!
# Unrelated entities

An entity that nothing refers to changes nothing: wherever it is inserted among others, their
schemas and the diagnostics on them stay as they are. It is enough that no reference written in the
others has a form in common with its name, and that none of their procedures returns it; what the
entity itself refers to does not matter. Only the order in which schemas are created may be another
one.
-/

namespace EntityModel

open Outcome

/-! ### Search -/

section

variable {overrides : Naming.Overrides} {reference name : String}

/-- A search for the first answer depends only on the answers to the items of the list. -/
lemma findSome?_congr {α β : Type} {f g : α → Option β} {items : List α}
    (same : ∀ a ∈ items, f a = g a) : items.findSome? f = items.findSome? g := by
  induction items with
  | nil => rfl
  | cons a rest ih =>
    obtain ⟨first, others⟩ := List.forall_mem_cons.1 same
    rw [List.findSome?_cons, List.findSome?_cons, first, ih others]

/-- A name that has no form in common with a reference is none of the forms of the reference. -/
lemma ne_of_mem_nameForms (lower : Naming.InLowercase overrides)
    (apart : ¬ ShareForm overrides reference name) {form : String}
    (isForm : form ∈ nameForms reference overrides) : form ≠ name := by
  rintro rfl
  exact apart ⟨form, isForm, self_mem_nameForms lower isForm⟩

/-- A search is not disturbed by a name that has no form in common with the reference. -/
lemma searchNames_insert (lower : Naming.InLowercase overrides)
    (apart : ¬ ShareForm overrides reference name) (before after : List String) :
    searchNames overrides (before ++ name :: after) reference =
      searchNames overrides (before ++ after) reference := by
  have mem : ∀ s, s ≠ name → (s ∈ before ++ name :: after ↔ s ∈ before ++ after) := by
    intro s other
    simp [other]
  have found : ∀ form ∈ nameForms reference overrides,
      (before ++ name :: after).find? (fun s => (nameForms s overrides).contains form) =
        (before ++ after).find? fun s => (nameForms s overrides).contains form := by
    intro form isForm
    have without : ¬ (nameForms name overrides).contains form = true := by
      rw [List.contains_iff_mem]
      exact fun ofName => apart ⟨form, isForm, ofName⟩
    have skipped : (name :: after).find? (fun s => (nameForms s overrides).contains form) =
        after.find? fun s => (nameForms s overrides).contains form := List.find?_cons_of_neg without
    rw [List.find?_append, List.find?_append, skipped]
  have exactly : reference ≠ name := by
    rintro rfl
    exact apart (ShareForm.refl overrides reference)
  have singular : Naming.singularize reference ≠ name :=
    ne_of_mem_nameForms lower apart (by simp [nameForms])
  have plural : Naming.pluralize reference overrides ≠ name :=
    ne_of_mem_nameForms lower apart (by simp [nameForms])
  unfold searchNames
  simp only [mem _ exactly, mem _ singular, mem _ plural, findSome?_congr found]

end

variable {before after : List Entity} {x : Entity} {name : String} {options : Options}
  {d d' : Directory}

/-! ### Directories -/

namespace Directory

lemma entityNames_insert (named : x.name = .text name) :
    entityNames (before ++ x :: after) = entityNames before ++ name :: entityNames after := by
  simp [entityNames, named, Value.text?]

/-- The directory of entities with one more has the entries of the directory without it, and one for
the new one. -/
lemma Lists.mem_entities_insert (h : d.Lists (before ++ after))
    (h' : d'.Lists (before ++ x :: after))
    (named : x.name = .text name) (entry : String × Entity) :
    entry ∈ d'.entities ↔ entry = (name, x) ∨ entry ∈ d.entities := by
  rw [h.entities_eq, h'.entities_eq]
  simp only [List.filterMap_append, List.filterMap_cons, named, Value.text?, Option.map_some,
    List.mem_append, List.mem_cons]
  exact or_left_comm

/-- With an entity that has a new name the directory answers as before to references that have no
form in common with that name. -/
lemma Built.answersAlike_of_insert (h : d.Built (before ++ after) options)
    (h' : d'.Built (before ++ x :: after) options) (named : x.name = .text name)
    (new : name ∉ d.names) (lower : Naming.InLowercase options.pluralization) :
    d.AnswersAlike (fun reference => ¬ ShareForm options.pluralization reference name)
      (fun other => other ≠ name) d' := by
  refine h.answersAlike h' ?_ ?_ ?_
  · intro reference apart
    rw [resolve_eq_searchNames h.indexed, resolve_eq_searchNames h'.indexed, h.options, h'.options,
      ← h.lists.entityNames_eq, ← h'.lists.entityNames_eq, entityNames_insert named,
      searchNames_insert lower apart]
    simp [entityNames]
  · rintro reference _ other meant rfl
    exact new (h.lists.resolve_mem meant)
  · intro other isOther e
    rw [h.lists.mem_entities_insert h'.lists named, Prod.mk.injEq]
    simp [isOther]

lemma Lists.new_of_insert (h : d.Lists (before ++ after)) (h' : d'.Lists (before ++ x :: after))
    (named : x.name = .text name) : name ∉ d.names := by
  have distinct := h'.distinct
  rw [← h'.entityNames_eq, entityNames_insert named, List.nodup_middle, List.nodup_cons] at distinct
  rw [← h.entityNames_eq]
  simpa [entityNames] using distinct.1

end Directory

/-! ### Runs -/

namespace AnalysisResult

/-- The entity is not referred to from the entities: no reference that is written in them has a form
in common with its name, and none of their procedures returns it. -/
structure Unrelated (options : Options) (entities : List Entity) (name : String) : Prop where
  apart : ∀ e ∈ entities, ∀ reference, e.Writes reference →
    ¬ ShareForm options.pluralization reference name
  unreturned : ∀ e ∈ entities, ¬ e.Returns name

/-- The other entities are analysed as if the unrelated one were not there. -/
lemma Unrelated.ofEntity_eq (h : Unrelated options (before ++ after) name)
    (built : d.Built (before ++ after) options) (built' : d'.Built (before ++ x :: after) options)
    (named : x.name = .text name) (lower : Naming.InLowercase options.pluralization)
    {entry : String × Entity} (mem : entry ∈ d.entities) :
    Schema.ofEntity d' entry.1 entry.2 = Schema.ofEntity d entry.1 entry.2 := by
  have new := built.lists.new_of_insert built'.lists named
  have alike := built.answersAlike_of_insert built' named new lower
  have isEntity : ∀ other ∈ d.entities, other.2 ∈ before ++ after := fun _ isOther =>
    built.lists.mem_entities isOther
  refine Schema.ofEntity_alike alike (h.apart _ (isEntity entry mem)) ?_ ?_ ?_
  · exact fun other isOther => h.apart _ (isEntity other isOther)
  · rintro element returns rfl
    exact h.unreturned _ (isEntity entry mem) returns
  · rintro rfl
    exact new (List.mem_map_of_mem mem)

lemma nodup_insert (new : x.name ∉ (before ++ after).map (·.name))
    (distinct : ((before ++ after).map (·.name)).Nodup) :
    ((before ++ x :: after).map (·.name)).Nodup := by
  rw [List.map_append, List.map_cons, List.nodup_middle, ← List.map_append]
  exact List.nodup_cons.2 ⟨new, distinct⟩

/-- Entities that have a directory have one together with another one of a new name. -/
lemma exists_build_insert (builds : Directory.build (before ++ after) options = .ok d)
    (named : x.name = .text name) (new : x.name ∉ (before ++ after).map (·.name)) :
    ∃ d', Directory.build (before ++ x :: after) options = .ok d' := by
  have texts : ∀ e ∈ before ++ x :: after, e.name.IsText := by
    have others := Directory.isText_of_build builds
    simp only [List.forall_mem_append, List.forall_mem_cons] at others ⊢
    exact ⟨others.1, ⟨name, named⟩, others.2⟩
  have distinct := (Directory.built_of_build builds).lists.nodup_map_name
  obtain ⟨d', built', _⟩ := Directory.exists_build texts (nodup_insert new distinct) options
  exact ⟨d', built'⟩

/-- Entities that have a directory together with another one have one without it. -/
lemma exists_build_without (builds : Directory.build (before ++ x :: after) options = .ok d') :
    ∃ d, Directory.build (before ++ after) options = .ok d := by
  have sub : (before ++ after).Sublist (before ++ x :: after) := by simp
  have texts := Directory.isText_of_build builds
  have distinct := (Directory.built_of_build builds).lists.nodup_map_name
  obtain ⟨d, built, _⟩ := Directory.exists_build (fun e mem => texts e (sub.subset mem))
    (distinct.sublist (sub.map _)) options
  exact ⟨d, built⟩

namespace Unrelated

variable (h : Unrelated options (before ++ after) name) (named : x.name = .text name)
  (lower : Naming.InLowercase options.pluralization) {result result' : AnalysisResult}

include h named lower

/-- If entities have a result, they have one with an entity more that can be analysed. -/
lemma exists_analyze_insert (ok : analyze (before ++ after) options = .ok result)
    (builds' : Directory.build (before ++ x :: after) options = .ok d')
    (own : ∃ out, Schema.ofEntity d' name x = .ok out) :
    ∃ result', analyze (before ++ x :: after) options = .ok result' := by
  obtain ⟨d, outs, _, built, assembles⟩ := assembles_of_analyze ok
  have built' := Directory.built_of_build builds'
  refine exists_analyze_of_forall builds' fun entry mem => ?_
  rcases (built.lists.mem_entities_insert built'.lists named entry).1 mem with rfl | mem
  · exact own
  · obtain ⟨out, analyzed, _⟩ := assembles.of_mem built.lists mem
    exact ⟨out, (h.ofEntity_eq built built' named lower mem).trans analyzed⟩

/-- If entities have a result, they have one without one of them. -/
lemma exists_analyze_without (ok' : analyze (before ++ x :: after) options = .ok result') :
    ∃ result, analyze (before ++ after) options = .ok result := by
  obtain ⟨d', outs, builds', built', assembles⟩ := assembles_of_analyze ok'
  obtain ⟨d, builds⟩ := exists_build_without builds'
  have built := Directory.built_of_build builds
  refine exists_analyze_of_forall builds fun entry mem => ?_
  have mem' := (built.lists.mem_entities_insert built'.lists named entry).2 (.inr mem)
  obtain ⟨out, analyzed, _⟩ := assembles.of_mem built'.lists mem'
  exact ⟨out, (h.ofEntity_eq built built' named lower mem).symm.trans analyzed⟩

/-- With the unrelated entity and without it the others have the same schemas and diagnostics. -/
lemma schema?_eq (ok : analyze (before ++ after) options = .ok result)
    (ok' : analyze (before ++ x :: after) options = .ok result') {e : Entity}
    (mem : e ∈ before ++ after) {s : String} (isName : e.name = .text s) :
    ∃ schema, result.schema? s = some schema ∧ result'.schema? s = some schema ∧
      result'.diagnosticsOn s = result.diagnosticsOn s := by
  obtain ⟨d, outs, _, built, assembles⟩ := assembles_of_analyze ok
  obtain ⟨d', outs', _, built', assembles'⟩ := assembles_of_analyze ok'
  obtain ⟨entry, isEntry, rfl⟩ := List.mem_map.1 (built.lists.mem_names.2 ⟨e, mem, isName⟩)
  have isEntry' := (built.lists.mem_entities_insert built'.lists named entry).2 (.inr isEntry)
  obtain ⟨out, analyzed, found, own⟩ := assembles.of_mem built.lists isEntry
  obtain ⟨out', analyzed', found', own'⟩ := assembles'.of_mem built'.lists isEntry'
  rw [h.ofEntity_eq built built' named lower isEntry] at analyzed'
  obtain rfl := Except.ok.inj (analyzed.symm.trans analyzed')
  exact ⟨out.1, found, found', own'.trans own.symm⟩

end Unrelated

/-- An entity that is inserted among others and that is unrelated to them changes neither their
schemas nor the diagnostics on them. A result with it gives one without it; and a result without it
gives one with it, as soon as the entity itself can be analysed, and in any case if all entities are
well-typed with bounds that are finite numbers. -/
theorem analyze_insert (named : x.name = .text name) (new : x.name ∉ (before ++ after).map (·.name))
    {plurals tables apiPrefix : Value} (made : Options.make plurals tables apiPrefix = .ok options)
    (apart : ∀ e ∈ before ++ after, ∀ reference, e.Writes reference →
      ¬ ShareForm options.pluralization reference name)
    (unreturned : ∀ e ∈ before ++ after, ¬ e.Returns name) :
    ((∀ e ∈ before ++ x :: after, e.WellTyped Value.IsFinite) →
      ((before ++ after).map (·.name)).Nodup →
      ∃ result, analyze (before ++ x :: after) options = .ok result) ∧
    (∀ result, analyze (before ++ after) options = .ok result →
      ∃ d', Directory.build (before ++ x :: after) options = .ok d' ∧
        ((∃ out, Schema.ofEntity d' name x = .ok out) →
          ∃ result', analyze (before ++ x :: after) options = .ok result')) ∧
    ∀ result', analyze (before ++ x :: after) options = .ok result' →
      ∃ result, analyze (before ++ after) options = .ok result ∧
        ∀ e ∈ before ++ after, ∀ s, e.name = .text s →
          ∃ schema, result.schema? s = some schema ∧ result'.schema? s = some schema ∧
            result'.diagnosticsOn s = result.diagnosticsOn s := by
  have lower := Options.inLowercase_of_make made
  have unrelated : Unrelated options (before ++ after) name := ⟨apart, unreturned⟩
  refine ⟨fun finite distinct => exists_analyze finite (nodup_insert new distinct) options, ?_, ?_⟩
  · intro result ok
    obtain ⟨_, _, builds, _⟩ := assembles_of_analyze ok
    obtain ⟨d', builds'⟩ := exists_build_insert builds named new
    exact ⟨d', builds', unrelated.exists_analyze_insert named lower ok builds'⟩
  · intro result' ok'
    obtain ⟨result, ok⟩ := unrelated.exists_analyze_without named lower ok'
    exact ⟨result, ok, fun e mem s isName => unrelated.schema?_eq named lower ok ok' mem isName⟩

/-! ### An example -/

/-- An entity that refers to others, in other spellings, and to which nothing refers. -/
def invoice : Entity where
  name := .text "invoice"
  relations := [
    { name := .text "payer", kind := .belongsTo, target := .text "Users" },
    { name := .text "lines", kind := .hasMany, target := .text "posts" }]

/-- The tangled entities with the invoice among them are well-typed. -/
lemma tangled_insert_wellTyped {bound : Value → Prop} :
    ∀ e ∈ tangled.take 1 ++ invoice :: tangled.drop 1, e.WellTyped bound := by
  simp only [List.forall_mem_append, List.forall_mem_cons]
  refine ⟨fun e mem => tangled_wellTyped e (List.mem_of_mem_take mem), ?_,
    fun e mem => tangled_wellTyped e (List.mem_of_mem_drop mem)⟩
  refine ⟨⟨_, rfl⟩, rfl, ?_, ?_, ?_, ?_, ?_⟩
  all_goals simp [invoice]
  exact ⟨⟨⟨_, rfl⟩, .inl rfl⟩, ⟨_, rfl⟩, .inl rfl⟩

/-- The schema of a tangled entity and its diagnostics are the same with the invoice among them. -/
theorem analyze_tangled_insert : ∃ result result',
    analyze (tangled.take 1 ++ tangled.drop 1) {} = .ok result ∧
    analyze (tangled.take 1 ++ invoice :: tangled.drop 1) {} = .ok result' ∧
    ∃ schema, result.schema? "post" = some schema ∧ result'.schema? "post" = some schema ∧
      result'.diagnosticsOn "post" = result.diagnosticsOn "post" := by
  have made : Options.make (.map []) (.map []) (.text "/api") = .ok {} := rfl
  have new : invoice.name ∉ (tangled.take 1 ++ tangled.drop 1).map (·.name) := by
    simp [tangled, invoice]
  have apart : ∀ e ∈ tangled, ∀ reference ∈ e.written, ¬ ShareForm [] reference "invoice" := by
    decide +kernel
  have unreturned : ∀ e ∈ tangled, ¬ e.Returns "invoice" := by
    simp [tangled, Entity.Returns]
  obtain ⟨answer, _, same⟩ := analyze_insert (x := invoice) rfl new made
    (fun e mem reference writes => apart e mem reference (Entity.mem_written.2 writes)) unreturned
  obtain ⟨result', ok'⟩ := answer tangled_insert_wellTyped tangled_distinct
  obtain ⟨result, ok, schemas⟩ := same result' ok'
  exact ⟨result, result', ok, ok', schemas _ List.mem_cons_self "post" rfl⟩

end AnalysisResult

end EntityModel
