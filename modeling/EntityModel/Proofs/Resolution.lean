import EntityModel.Proofs.Analysis.Directory
import EntityModel.Proofs.Naming.Forms

/-!
# The resolution of references

The directory answers from forms that it has gathered entity by entity. What it answers is what a
direct search among the entities finds, in which of several entities with one form the first
declared one counts. So a reference means nothing exactly if it has no form in common with any
entity, and if it has one in common with a single entity then it means that entity.
-/

namespace EntityModel

open Outcome

variable {overrides : Naming.Overrides} {names : List String} {reference name form : String}

/-! ### Direct search -/

def entityNames (entities : List Entity) : List String := entities.filterMap (·.name.text?)

def ShareForm (overrides : Naming.Overrides) (s t : String) : Prop :=
  ∃ form ∈ nameForms s overrides, form ∈ nameForms t overrides

instance (overrides : Naming.Overrides) (s t : String) : Decidable (ShareForm overrides s t) :=
  inferInstanceAs (Decidable (∃ form ∈ nameForms s overrides, form ∈ nameForms t overrides))

lemma ShareForm.refl (overrides : Naming.Overrides) (s : String) : ShareForm overrides s s :=
  ⟨Text.lowercase s, List.mem_cons_self, List.mem_cons_self⟩

lemma ShareForm.symm {s t : String} (h : ShareForm overrides s t) : ShareForm overrides t s := by
  obtain ⟨form, ofS, ofT⟩ := h
  exact ⟨form, ofT, ofS⟩

instance : Std.Symm fun s t => ¬ ShareForm overrides s t :=
  ⟨fun _ _ other shared => other shared.symm⟩

/-- The name that a direct search among names finds for a reference: the reference itself, its
singular or its plural, or else the first name with the lowercase, the singular or the plural of the
reference among its forms, in this order. -/
def searchNames (overrides : Naming.Overrides) (names : List String) (reference : String) :
    Option String :=
  if reference ∈ names then some reference
  else if Naming.singularize reference ∈ names then some (Naming.singularize reference)
  else if Naming.pluralize reference overrides ∈ names then
    some (Naming.pluralize reference overrides)
  else (nameForms reference overrides).findSome? fun form =>
    names.find? fun name => (nameForms name overrides).contains form

/-- A name that is found is one of the list. -/
lemma mem_of_searchNames (found : searchNames overrides names reference = some name) :
    name ∈ names := by
  unfold searchNames at found
  split_ifs at found with exactly singular plural
  · exact Option.some.inj found ▸ exactly
  · exact Option.some.inj found ▸ singular
  · exact Option.some.inj found ▸ plural
  · obtain ⟨form, _, found⟩ := List.exists_of_findSome?_eq_some found
    exact List.mem_of_find?_eq_some found

/-- What is found has a form in common with the reference. -/
lemma shareForm_of_searchNames (lower : Naming.InLowercase overrides)
    (found : searchNames overrides names reference = some name) :
    ShareForm overrides reference name := by
  have own : ∀ form ∈ nameForms reference overrides, ShareForm overrides reference form :=
    fun form isForm => ⟨form, isForm, self_mem_nameForms lower isForm⟩
  unfold searchNames at found
  split_ifs at found
  · obtain rfl := Option.some.inj found
    exact ⟨Text.lowercase reference, by simp [nameForms], by simp [nameForms]⟩
  · obtain rfl := Option.some.inj found
    exact own _ (by simp [nameForms])
  · obtain rfl := Option.some.inj found
    exact own _ (by simp [nameForms])
  · obtain ⟨form, isForm, found⟩ := List.exists_of_findSome?_eq_some found
    have hasForm := List.find?_some found
    exact ⟨form, isForm, List.contains_iff_mem.1 hasForm⟩

/-- Nothing is found exactly if no name has a form in common with the reference. -/
lemma searchNames_eq_none_iff (lower : Naming.InLowercase overrides) :
    searchNames overrides names reference = none ↔
      ∀ name ∈ names, ¬ ShareForm overrides reference name := by
  constructor
  · rintro nothing name isName ⟨form, isForm, shared⟩
    unfold searchNames at nothing
    split_ifs at nothing
    have absent := List.findSome?_eq_none_iff.1 nothing form isForm
    exact List.find?_eq_none.1 absent name isName (List.contains_iff_mem.2 shared)
  · intro apart
    cases found : searchNames overrides names reference with
    | none => rfl
    | some name =>
      exact absurd (shareForm_of_searchNames lower found) (apart name (mem_of_searchNames found))

/-- A single name with a form in common is found. -/
lemma searchNames_of_unique (lower : Naming.InLowercase overrides) (isName : name ∈ names)
    (shared : ShareForm overrides reference name)
    (only : ∀ other ∈ names, ShareForm overrides reference other → other = name) :
    searchNames overrides names reference = some name := by
  cases found : searchNames overrides names reference with
  | none => exact absurd shared ((searchNames_eq_none_iff lower).1 found name isName)
  | some other =>
    rw [only other (mem_of_searchNames found) (shareForm_of_searchNames lower found)]

/-! ### The forms of a directory -/

namespace Directory

variable {d : Directory} {entities : List Entity} {e : Entity}

/-- Each form stands for the first entity that has it. -/
def Indexed (d : Directory) : Prop :=
  ∀ form, d.forms.lookup form =
    d.names.find? fun name => (nameForms name d.options.pluralization).contains form

/-- A form that is put stands for its entity, unless it stands for another one already. -/
lemma lookup_putForms {forms : List (String × String)} {written : List String} :
    (putForms name written forms).lookup form =
      (forms.lookup form).or (if form ∈ written then some name else none) := by
  induction written generalizing forms with
  | nil => simp [putForms]
  | cons first rest ih =>
    have put : (if forms.any (·.1 == first) then forms else forms ++ [(first, name)]).lookup form =
        (forms.lookup form).or (if form = first then some name else none) := by
      split
      · rename_i present
        obtain ⟨entry, mem, key⟩ := List.any_eq_true.1 present
        split
        · rename_i same
          have found : forms.lookup form ≠ none := fun absent => by
            have other := List.lookup_eq_none_iff.1 absent entry mem
            simp [same, beq_iff_eq.1 key] at other
          rw [Option.or_of_isSome (Option.isSome_iff_ne_none.2 found)]
        · rw [Option.or_none]
      · rw [List.lookup_append, List.lookup_cons, List.lookup_nil]
        split <;> simp_all
    rw [putForms, List.foldl_cons, ← putForms, ih, put, Option.or_assoc]
    by_cases same : form = first
    · simp [same]
    · simp [same]

/-- An entity more keeps the forms indexed. -/
lemma indexed_add (h : d.Indexed) : Ensures anyFault Indexed (d.add e) := by
  unfold add
  refine (within_any _).bind fun name _ => ?_
  split
  · trivial
  · rw [ensures_pure]
    intro form
    have names : (d.entities ++ [(name, e)]).map (·.1) = d.names ++ [name] := by
      simp [Directory.names]
    change (putForms _ _ d.forms).lookup form = ((d.entities ++ [(name, e)]).map (·.1)).find? _
    rw [lookup_putForms, h form, names, List.find?_append, List.find?_singleton]
    simp only [List.contains_iff_mem]

/-- Whatever the entities are, each form of a directory stands for the first entity that has it. -/
theorem build_indexed (entities : List Entity) (options : Options) :
    Ensures anyFault Indexed (build entities options) := by
  have foldlM :
      ∀ {d : Directory}, d.Indexed → Ensures anyFault Indexed (entities.foldlM add d) := by
    induction entities with
    | nil => exact id
    | cons e rest ih =>
      intro d h
      rw [List.foldlM_cons]
      exact (indexed_add h).bind fun d' h' => ih h'
  exact foldlM fun form => rfl

/-- A directory finds what a direct search among its names finds. -/
lemma resolve_eq_searchNames (h : d.Indexed) (reference : String) :
    d.resolve reference = searchNames d.options.pluralization d.names reference := by
  unfold resolve searchNames
  simp only [contains_iff, funext h]
  rfl

/-- The names of the entities that a directory lists are its names. -/
lemma Lists.entityNames_eq (h : d.Lists entities) : entityNames entities = d.names := by
  rw [entityNames, ← h.listed, List.filterMap_map, names, ← List.filterMap_eq_map]
  refine List.filterMap_congr fun entry mem => ?_
  rw [Function.comp_apply, h.named entry mem]
  rfl

/-- A reference means what a direct search among the entities finds. It means nothing exactly if no
entity has a form in common with it; what it means is one of the entities; and a single entity that
has a form in common with it is what it means. -/
theorem resolve_eq_search (texts : ∀ e ∈ entities, e.name.IsText)
    (distinct : (entities.map (·.name)).Nodup) {plurals tables apiPrefix : Value}
    {options : Options} (made : Options.make plurals tables apiPrefix = .ok options) :
    ∃ d, build entities options = .ok d ∧ ∀ reference,
      d.resolve reference =
        searchNames options.pluralization (entityNames entities) reference ∧
      (d.resolve reference = none ↔
        ∀ name ∈ entityNames entities, ¬ ShareForm options.pluralization reference name) ∧
      (∀ name, d.resolve reference = some name → name ∈ entityNames entities) ∧
      ∀ name ∈ entityNames entities, ShareForm options.pluralization reference name →
        (∀ other ∈ entityNames entities, ShareForm options.pluralization reference other →
          other = name) →
        d.resolve reference = some name := by
  obtain ⟨d, built, rfl, lists⟩ := exists_build texts distinct options
  have lower := Options.inLowercase_of_make made
  refine ⟨d, built, fun reference => ?_⟩
  rw [resolve_eq_searchNames ((build_indexed entities _).of_eq_ok built), lists.entityNames_eq]
  refine ⟨rfl, searchNames_eq_none_iff lower, fun name => mem_of_searchNames, ?_⟩
  exact fun name isName shared only => searchNames_of_unique lower isName shared only

/-! ### An example -/

/-- Entities two of which have forms in common, and one whose plural is given. -/
def crowd : List Entity :=
  [{ name := .text "Person" }, { name := .text "People" }, { name := .text "Staff" }]

def crowdOptions : Options where
  pluralization := [("staff", "staffers")]

lemma crowdOptions_made : Options.make (.record [("Staff", .text "Staffers")]) (.map [])
    (.text "/api/") = .ok crowdOptions := by
  rfl

/-- The crowd is resolved by plurals, by overrides and by case, and a stranger is not. -/
theorem resolve_crowd : ∃ d, build crowd crowdOptions = .ok d ∧
    d.resolve "PEOPLE" = some "Person" ∧ d.resolve "staffers" = some "Staff" ∧
    d.resolve "galaxy" = none := by
  have texts : ∀ e ∈ crowd, e.name.IsText := by simp [crowd, Value.IsText]
  have distinct : (crowd.map (·.name)).Nodup := by simp [crowd]
  obtain ⟨d, built, answers⟩ := resolve_eq_search texts distinct crowdOptions_made
  refine ⟨d, built, ?_, ?_, ?_⟩
  · rw [(answers "PEOPLE").1]
    decide
  · rw [(answers "staffers").1]
    decide
  · rw [(answers "galaxy").1]
    decide

/-! ### Comparing references -/

/-- To compare a reference with the name of a known entity is to resolve it: the forms of a
reference that means nothing, which are compared in that case, are apart from those of every
entity. -/
theorem isMeant_iff_resolve {options : Options} (built : build entities options = .ok d)
    (known : name ∈ d.names) (reference : String) :
    (d.isMeant reference name = true ↔ d.resolve reference = some name) ∧
      (d.resolve reference = none → ¬ ShareForm d.options.pluralization reference name) := by
  have lists := ((build_ensures (isText_of_build built) options).of_eq_ok built).2
  refine ⟨lists.isMeant_iff known, ?_⟩
  rintro nothing ⟨form, ofReference, ofName⟩
  exact not_mem_forms_of_resolve nothing ofReference (lists.covered name known form ofName)

lemma crowd_directory : (build crowd crowdOptions).toOption.map (fun d =>
    (d.names, d.resolve "PEOPLE", d.resolve "galaxy")) =
      some (["Person", "People", "Staff"], some "Person", none) := by
  decide

/-- In the crowd a reference means one entity, and an unknown one means none. -/
theorem crowd_isMeant : ∃ d, build crowd crowdOptions = .ok d ∧ d.isMeant "PEOPLE" "Person" = true ∧
    d.isMeant "PEOPLE" "People" = false ∧ d.isMeant "galaxy" "Staff" = false := by
  obtain ⟨d, built, shown⟩ := exists_eq_ok_of_toOption crowd_directory
  simp only [Prod.mk.injEq] at shown
  obtain ⟨names, people, galaxy⟩ := shown
  have known : ∀ name ∈ ["Person", "People", "Staff"], name ∈ d.names := by simp [names]
  have person := (isMeant_iff_resolve built (known "Person" (by simp)) "PEOPLE").1
  have other := (isMeant_iff_resolve built (known "People" (by simp)) "PEOPLE").1
  have nothing := (isMeant_iff_resolve built (known "Staff" (by simp)) "galaxy").1
  refine ⟨d, built, person.2 people, ?_, ?_⟩
  · rw [← Bool.not_eq_true, other, people]
    simp
  · rw [← Bool.not_eq_true, nothing, galaxy]
    simp

end Directory

end EntityModel
