import EntityModel.Analysis.Directory
import EntityModel.Proofs.Analysis.Fields
import Mathlib.Data.List.Nodup

/-!
# The directory of a run

A directory lists the entities that it is built from, under their names, which are distinct, and it
has every form of every name. It is only refused for entities that repeat a name, and the first
repetition is the one that is reported.

A reference means only entities of the directory (`Lists.resolve_mem`), and comparing a reference
with the name of an entity comes to the same as resolving it (`Lists.isMeant_iff`).
-/

namespace EntityModel.Directory

open Outcome

variable {d : Directory} {entities : List Entity} {e : Entity} {name reference : String}

/-- The directory lists these entities under their names and knows all forms of them. -/
structure Lists (d : Directory) (entities : List Entity) : Prop where
  listed : d.entities.map (·.2) = entities
  named : ∀ entry ∈ d.entities, entry.2.name = .text entry.1
  distinct : d.names.Nodup
  formed : ∀ form ∈ d.forms, form.2 ∈ d.names
  covered : ∀ name ∈ d.names, ∀ form ∈ nameForms name d.options.pluralization,
    form ∈ d.forms.map (·.1)

/-- The fault is that an entity has the name of an earlier one, and it is the first such entity. -/
def RepeatsName (entities : List Entity) (fault : Fault) : Prop :=
  ∃ before e after, entities = before ++ e :: after ∧ (before.map (·.name)).Nodup ∧
    e.name ∈ before.map (·.name) ∧ fault = .failed (.duplicateEntity e.name)

/-! ### Names -/

lemma contains_iff : d.contains name = true ↔ name ∈ d.names := by
  simp [contains, names]

lemma contains_false_iff : d.contains name = false ↔ name ∉ d.names := by
  rw [← contains_iff, Bool.not_eq_true]

namespace Lists

lemma map_name (h : d.Lists entities) : entities.map (·.name) = d.names.map .text := by
  rw [← h.listed, names, List.map_map, List.map_map]
  exact List.map_congr_left h.named

lemma mem_names (h : d.Lists entities) : name ∈ d.names ↔ ∃ e ∈ entities, e.name = .text name := by
  have mem : name ∈ d.names ↔ Value.text name ∈ d.names.map Value.text := by simp
  rw [mem, ← h.map_name, List.mem_map]

lemma nodup_map_name (h : d.Lists entities) : (entities.map (·.name)).Nodup := by
  rw [h.map_name]
  exact h.distinct.map fun s t same => by simpa using same

lemma mem_entities (h : d.Lists entities) {entry : String × Entity} (mem : entry ∈ d.entities) :
    entry.2 ∈ entities := by
  rw [← h.listed]
  exact List.mem_map_of_mem mem

lemma exists_entry (h : d.Lists entities) (mem : e ∈ entities) :
    ∃ name, (name, e) ∈ d.entities := by
  rw [← h.listed] at mem
  obtain ⟨⟨name, _⟩, inDirectory, rfl⟩ := List.mem_map.1 mem
  exact ⟨name, inDirectory⟩

/-- An entity stands in the directory under its own name. -/
lemma entry_mem (h : d.Lists entities) (mem : e ∈ entities) (isName : e.name = .text name) :
    (name, e) ∈ d.entities := by
  obtain ⟨shown, isEntry⟩ := h.exists_entry mem
  obtain rfl : shown = name := by simpa [isName] using (h.named _ isEntry).symm
  exact isEntry

end Lists

/-! ### Building -/

/-- A form that stands for a name was there before or has just been put. -/
lemma putForms_value {forms : List (String × String)} {written : List String} :
    ∀ form ∈ putForms name written forms, form ∈ forms ∨ form.2 = name := by
  induction written generalizing forms with
  | nil => exact fun form mem => .inl mem
  | cons first rest ih =>
    intro form mem
    rw [putForms, List.foldl_cons] at mem
    split at mem
    · exact ih form mem
    · rcases ih form mem with mem | same
      · rcases List.mem_append.1 mem with mem | mem
        · exact .inl mem
        · exact .inr (by rw [List.mem_singleton.1 mem])
      · exact .inr same

/-- All forms that are put are there, and those that were there stay. -/
lemma putForms_key {forms : List (String × String)} {written : List String} {form : String}
    (h : form ∈ written ∨ form ∈ forms.map (·.1)) :
    form ∈ (putForms name written forms).map (·.1) := by
  induction written generalizing forms with
  | nil => exact h.resolve_left List.not_mem_nil
  | cons first rest ih =>
    rw [putForms, List.foldl_cons]
    refine ih ?_
    rw [List.mem_cons, or_comm (a := form = first), or_assoc] at h
    refine h.imp_right ?_
    split
    · rename_i present
      rintro (rfl | mem)
      · simpa using present
      · exact mem
    · rintro (rfl | mem)
      · simp
      · rw [List.map_append]
        exact List.mem_append_left _ mem

lemma lists_empty (options : Options) : Lists { options } [] :=
  ⟨rfl, by simp, List.nodup_nil, by simp, by simp [names]⟩

/-- An entity is added under its name, unless it has the name of one that is there. -/
lemma add_ensures (h : d.Lists entities) (text : e.name.IsText) :
    Ensures (fun fault =>
      e.name ∈ entities.map (·.name) ∧ fault = .failed (.duplicateEntity e.name))
      (fun d' => d'.options = d.options ∧ d'.Lists (entities ++ [e])) (d.add e) := by
  obtain ⟨name, named⟩ := text
  rw [add, named]
  dsimp only [Value.asText, bind, Except.bind]
  split
  · rename_i present
    rw [h.map_name, ensures_error]
    exact ⟨List.mem_map_of_mem (contains_iff.1 present), rfl⟩
  · rename_i absent
    have names : (d.entities ++ [(name, e)]).map (·.1) = d.names ++ [name] := by simp [names]
    refine ⟨rfl, by simp [h.listed], ?_, ?_, ?_, ?_⟩
    · intro entry mem
      rcases List.mem_append.1 mem with mem | mem
      · exact h.named entry mem
      · rw [List.mem_singleton.1 mem, named]
    · rw [contains_iff] at absent
      change ((d.entities ++ [(name, e)]).map (·.1)).Nodup
      rw [names, List.nodup_append_comm]
      exact List.nodup_cons.2 ⟨absent, h.distinct⟩
    · intro form mem
      change form.2 ∈ (d.entities ++ [(name, e)]).map (·.1)
      rw [names, List.mem_append, List.mem_singleton]
      exact (putForms_value form mem).imp_left (h.formed form)
    · intro other mem form isForm
      change other ∈ (d.entities ++ [(name, e)]).map (·.1) at mem
      rw [names, List.mem_append, List.mem_singleton] at mem
      refine putForms_key ?_
      rcases mem with mem | rfl
      · exact .inr (h.covered other mem form isForm)
      · exact .inl isForm

/-- A directory lists the entities added to it, unless two of them have one name. -/
lemma foldlM_add_ensures {seen rest : List Entity} (h : d.Lists seen)
    (texts : ∀ e ∈ rest, e.name.IsText) :
    Ensures (RepeatsName (seen ++ rest))
      (fun d' => d'.options = d.options ∧ d'.Lists (seen ++ rest)) (rest.foldlM add d) := by
  induction rest generalizing d seen with
  | nil =>
    rw [List.append_nil]
    exact ⟨rfl, h⟩
  | cons e rest ih =>
    obtain ⟨text, texts⟩ := List.forall_mem_cons.1 texts
    rw [List.foldlM_cons]
    have added := add_ensures h text
    cases next : d.add e with
    | error fault =>
      obtain ⟨repeats, rfl⟩ := added.of_eq_error next
      exact ⟨seen, e, rest, rfl, h.nodup_map_name, repeats, rfl⟩
    | ok d' =>
      obtain ⟨options, lists⟩ := added.of_eq_ok next
      have := ih lists texts
      rw [List.append_assoc] at this
      exact this.mono fun d'' h => ⟨h.1.trans options, h.2⟩

/-- A directory of named entities lists them, and is refused for a repeated name alone. -/
theorem build_ensures (texts : ∀ e ∈ entities, e.name.IsText) (options : Options) :
    Ensures (RepeatsName entities) (fun d => d.options = options ∧ d.Lists entities)
      (build entities options) :=
  foldlM_add_ensures (lists_empty options) texts

/-- Only entities whose name is a text can be added. -/
lemma foldlM_add_isText : ∀ {d : Directory},
    Ensures anyFault (fun _ => ∀ e ∈ entities, e.name.IsText) (entities.foldlM add d) := by
  induction entities with
  | nil => exact fun e mem => absurd mem List.not_mem_nil
  | cons e rest ih =>
    intro d
    rw [List.foldlM_cons]
    refine Ensures.bind (P := fun _ => e.name.IsText) ?_ fun d' first =>
      ih.mono fun _ others => List.forall_mem_cons.2 ⟨first, others⟩
    unfold add
    refine e.name.asText_ensures.bind fun name isName => ?_
    split
    · trivial
    · exact ⟨name, isName⟩

/-- Only entities whose names are texts have a directory. -/
lemma isText_of_build {options : Options} (built : build entities options = .ok d) :
    ∀ e ∈ entities, e.name.IsText :=
  foldlM_add_isText.of_eq_ok built

lemma RepeatsName.not_nodup {fault : Fault} (h : RepeatsName entities fault) :
    ¬ (entities.map (·.name)).Nodup := by
  obtain ⟨before, e, after, rfl, _, repeats, _⟩ := h
  rw [List.map_append, List.map_cons, List.nodup_append]
  exact fun distinct => distinct.2.2 _ repeats _ List.mem_cons_self rfl

/-- Entities of distinct names have a directory. -/
lemma exists_build (texts : ∀ e ∈ entities, e.name.IsText)
    (distinct : (entities.map (·.name)).Nodup) (options : Options) :
    ∃ d, build entities options = .ok d ∧ d.options = options ∧ d.Lists entities := by
  have built := build_ensures texts options
  cases outcome : build entities options with
  | ok d => exact ⟨d, rfl, built.of_eq_ok outcome⟩
  | error fault => exact absurd distinct (built.of_eq_error outcome).not_nodup

/-! ### Resolution -/

lemma get?_mem {entry : String × Entity} (found : d.get? reference = some entry) :
    entry ∈ d.entities := by
  simp only [get?, Option.bind_eq_bind, Option.bind_eq_some_iff, Option.pure_def,
    Option.some.injEq] at found
  obtain ⟨name, _, e, found, rfl⟩ := found
  obtain ⟨before, after, split, _⟩ := List.lookup_eq_some_iff.1 found
  simp [split]

/-- No form of a reference that means nothing is a form of an entity's name. -/
lemma not_mem_forms_of_resolve (none : d.resolve reference = none) {form : String}
    (isForm : form ∈ nameForms reference d.options.pluralization) :
    form ∉ d.forms.map (·.1) := by
  unfold resolve at none
  dsimp only at none
  split_ifs at none
  have absent := List.findSome?_eq_none_iff.1 none form isForm
  rw [List.lookup_eq_none_iff] at absent
  rw [List.mem_map]
  rintro ⟨entry, mem, rfl⟩
  simpa using absent entry mem

namespace Lists

variable (h : d.Lists entities)

include h

/-- A reference means only entities of the directory. -/
theorem resolve_mem (found : d.resolve reference = some name) : name ∈ d.names := by
  unfold resolve at found
  dsimp only at found
  split_ifs at found with exactly singular plural
  · exact Option.some.inj found ▸ contains_iff.1 exactly
  · exact Option.some.inj found ▸ contains_iff.1 singular
  · exact Option.some.inj found ▸ contains_iff.1 plural
  · obtain ⟨form, _, found⟩ := List.exists_of_findSome?_eq_some found
    obtain ⟨before, after, forms, _⟩ := List.lookup_eq_some_iff.1 found
    exact h.formed (form, name) (by simp [forms])

/-- A reference is compared with the name of an entity by resolving it. -/
theorem isMeant_iff (known : name ∈ d.names) :
    d.isMeant reference name = true ↔ d.resolve reference = some name := by
  unfold isMeant
  cases found : d.resolve reference with
  | some other => simp
  | none =>
    simp only [List.any_eq_true, List.contains_iff_mem, reduceCtorEq, iff_false,
      not_exists, not_and]
    exact fun form isForm isName =>
      not_mem_forms_of_resolve found isForm (h.covered name known form isName)

/-- An entry of a directory is found by its name. -/
lemma find?_of_mem {entry : String × Entity} (mem : entry ∈ d.entities) :
    d.find? entry.1 = some entry.2 := by
  obtain ⟨before, after, split⟩ := List.append_of_mem mem
  refine List.lookup_eq_some_iff.2 ⟨before, after, split, fun other isBefore => ?_⟩
  have distinct := h.distinct
  rw [names, split, List.map_append, List.map_cons, List.nodup_append] at distinct
  have ne := distinct.2.2 _ (List.mem_map_of_mem isBefore) _ List.mem_cons_self
  simpa using ne.symm

/-- The entity that a reference means is found under its name. -/
lemma get?_of_resolve {entry : String × Entity} (mem : entry ∈ d.entities)
    (found : d.resolve reference = some entry.1) : d.get? reference = some entry := by
  simp [get?, found, h.find?_of_mem mem]

/-- An entity is found exactly where one is meant. -/
lemma isNone_get? (reference : String) :
    (d.get? reference).isNone = (d.resolve reference).isNone := by
  cases meant : d.resolve reference with
  | none => simp [get?, meant]
  | some name =>
    obtain ⟨entry, mem, rfl⟩ := List.mem_map.1 (h.resolve_mem meant)
    rw [h.get?_of_resolve mem meant]
    rfl

end Lists

end EntityModel.Directory
