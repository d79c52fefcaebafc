import EntityModel.Analysis.Schema
import EntityModel.Proofs.Analysis.Keys
import EntityModel.Proofs.Naming.Forms

/-!
# Customary names of keys

A field without a target is still a key to an entity if it has a customary name: a form of the name
of the entity and `id`, with or without an underscore between them. The singular of the name is such
a form. The plural is one as the rules form it; a plural that is given with the run takes its place
everywhere else but not here, so that a field that is named after it can be missed.
-/

namespace EntityModel

open Outcome Text

variable {d : Directory} {e : Entity} {name shown w p : String}

/-- Whether the field has this name, in whatever case. -/
def Field.IsNamed (shown : String) (f : Field) : Prop :=
  ∃ written, f.name = .text written ∧ lowercase written = lowercase shown

lemma Field.isCustomaryFor_of_isNamed {f : Field} (isNamed : f.IsNamed shown) :
    f.isCustomaryFor name = true ↔ lowercase shown ∈ ForeignKey.candidates name := by
  obtain ⟨written, isName, same⟩ := isNamed
  rw [isCustomaryFor, isName, Value.text?, Option.any_some, same, List.contains_iff_mem]

namespace ForeignKey

/-! ### Names -/

/-- What the customary names of a key to an entity start with. -/
def stems (name : String) : List String :=
  [Naming.singularize name, Naming.pluralize name [],
    Naming.toSnakeCase (Naming.singularCamel name)]

lemma mem_candidates_iff :
    w ∈ candidates name ↔ ∃ stem ∈ stems name, w = stem ++ "id" ∨ w = stem ++ "_id" := by
  have ofStems : candidates name =
    ((stems name).flatMap fun stem => [stem ++ "id", stem ++ "_id"]).eraseDups := rfl
  simp only [ofStems, List.mem_eraseDups, List.mem_flatMap, List.mem_cons, List.not_mem_nil,
    or_false]

/-- Without an underscore the name is customary if what is before `id` is a stem. A stem with an
underscore behind it will do as well. -/
lemma append_id_mem_candidates_iff :
    p ++ "id" ∈ candidates name ↔ p ∈ stems name ∨ ∃ stem ∈ stems name, p = stem ++ "_" := by
  have split (stem : String) : p ++ "id" = stem ++ "_id" ↔ p = stem ++ "_" := by
    have cut : stem ++ "_id" = stem ++ "_" ++ "id" := by simp [String.append_assoc]
    rw [cut, String.append_left_inj]
  simp only [mem_candidates_iff, split, String.append_left_inj, and_or_left, exists_or,
    exists_eq_right']

lemma append_underscore_id_mem_candidates_iff :
    p ++ "_id" ∈ candidates name ↔ p ∈ stems name ∨ p ++ "_" ∈ stems name := by
  have split (stem : String) : p ++ "_id" = stem ++ "id" ↔ p ++ "_" = stem := by
    have cut : p ++ "_id" = p ++ "_" ++ "id" := by simp [String.append_assoc]
    rw [cut, String.append_left_inj]
  simp only [mem_candidates_iff, split, String.append_left_inj, and_or_left, exists_or,
    exists_eq_right', or_comm]

/-! ### Finding a field by its name -/

/-- Among any fields that include one of this name, in whatever case, a key to the entity is
found. -/
def Finds (d : Directory) (name shown : String) : Prop :=
  ∀ fields : List Field, (∀ f ∈ fields, f.WellTyped Value.IsNumber) →
    (∃ f ∈ fields, f.IsNamed shown) → ∃ key, find d fields name = .ok (some key)

/-- A name finds a key, whatever other fields there are, just if it is customary. -/
lemma finds_iff : Finds d name shown ↔ lowercase shown ∈ candidates name := by
  constructor
  · intro finds
    -- a field with this name and nothing else is found by its name only
    have isNamed : (Field.bare shown).IsNamed shown := ⟨shown, rfl, rfl⟩
    have typed : ∀ f ∈ [Field.bare shown], f.WellTyped Value.IsNumber :=
      List.forall_mem_singleton.2 (Field.bare_wellTyped shown)
    obtain ⟨key, found⟩ := finds [.bare shown] typed ⟨_, List.mem_singleton_self _, isNamed⟩
    rw [find_eq typed] at found
    by_contra other
    have nothing : among d name [.bare shown] = none := by
      rw [among_eq_none_iff, List.forall_mem_singleton,
        ← Bool.not_eq_true (Field.isCustomaryFor ..), Field.isCustomaryFor_of_isNamed isNamed]
      exact ⟨Field.bare_refersTo shown name, other⟩
    rw [nothing] at found
    simp at found
  · rintro customary fields typed ⟨f, mem, isNamed⟩
    rw [find_eq typed]
    cases found : among d name fields with
    | some key => exact ⟨key, rfl⟩
    | none =>
      have missed := (among_eq_none_iff.1 found f mem).2
      rw [(Field.isCustomaryFor_of_isNamed isNamed).2 customary] at missed
      exact absurd missed.symm Bool.false_ne_true

lemma finds_append_iff (lower : AllLower p.toList) {ending : String}
    (lowerEnding : AllLower ending.toList) :
    Finds d name (p ++ ending) ↔ p ++ ending ∈ candidates name := by
  rw [finds_iff, lowercase_eq_self]
  rw [String.toList_append]
  exact lower.append lowerEnding

end ForeignKey

/-! ### The forms of a name -/

/-- The schema of an entity has the forms of its name. -/
lemma Schema.ofEntity_forms (d : Directory) (name : String) (e : Entity) :
    Ensures anyFault (fun out => out.1.singular = Naming.singularize name ∧
      out.1.plural = d.plural name) (ofEntity d name e) := by
  unfold ofEntity
  refine (within_any _).bind fun fields _ => (within_any _).bind fun relations _ => ?_
  refine (within_any _).bind fun dependsOn _ => (within_any _).bind fun procedures _ => ?_
  refine (within_any _).bind fun computed _ => (within_any _).bind fun indexes _ => ?_
  rw [ensures_pure]
  exact ⟨rfl, rfl⟩

namespace ForeignKey

/-- The singular in the schema of an entity always makes names by which a key to the entity is
found. The plural in it makes such names just if it is a form that the rules give without the
plurals of the run, up to an underscore between form and `id`. -/
theorem finds_forms_iff {plurals tables apiPrefix : Value}
    (made : Options.make plurals tables apiPrefix = .ok d.options) {schema : Schema}
    {diagnostics : List Diagnostic}
    (analysed : Schema.ofEntity d name e = .ok (schema, diagnostics)) :
    Finds d name (schema.singular ++ "id") ∧ Finds d name (schema.singular ++ "_id") ∧
      (Finds d name (schema.plural ++ "id") ↔
        schema.plural ∈ stems name ∨ ∃ stem ∈ stems name, schema.plural = stem ++ "_") ∧
      (Finds d name (schema.plural ++ "_id") ↔
        schema.plural ∈ stems name ∨ schema.plural ++ "_" ∈ stems name) := by
  obtain ⟨singular, plural⟩ := (Schema.ofEntity_forms d name e).of_eq_ok analysed
  have lowerSingular : AllLower schema.singular.toList :=
    singular ▸ Naming.allLower_singularize name
  have lowerPlural : AllLower schema.plural.toList :=
    plural ▸ Naming.allLower_pluralize (Options.inLowercase_of_make made) name
  have isStem : schema.singular ∈ stems name := singular ▸ List.mem_cons_self
  rw [finds_append_iff lowerSingular (by decide), finds_append_iff lowerSingular (by decide),
    finds_append_iff lowerPlural (by decide), finds_append_iff lowerPlural (by decide),
    append_id_mem_candidates_iff, append_underscore_id_mem_candidates_iff,
    append_id_mem_candidates_iff, append_underscore_id_mem_candidates_iff]
  exact ⟨.inl isStem, .inl isStem, Iff.rfl, Iff.rfl⟩

/-! ### Examples -/

/-- Staff, and shifts with a field that is named after a plural of staff. -/
def rostered : List Entity :=
  [{ name := .text "staff" }, { name := .text "shift", fields := [.bare "staffersId"] }]

/-- The directory and the schema of staff in a run in which its plural is given. -/
def rosteredStaff (plural : String) : Outcome (Directory × Schema) := do
  let options ← Options.make (.record [("staff", .text plural)]) .null (.text "/api")
  let d ← Directory.build rostered options
  let (schema, _) ← Schema.ofEntity d "staff" { name := .text "staff" }
  return (d, schema)

/-- With the plural overridden, the key is found by the plural of the run. -/
theorem staff_found : ∃ d schema, rosteredStaff "staff" = .ok (d, schema) ∧
    schema.plural = "staff" ∧ Finds d "staff" (schema.plural ++ "id") := by
  have shown : (rosteredStaff "staff").toOption.map (·.2.plural) = some "staff" := by rfl
  obtain ⟨⟨d, schema⟩, ok, plural⟩ := exists_eq_ok_of_toOption shown
  obtain ⟨options, made, rest⟩ := bind_eq_ok_iff.1 ok
  obtain ⟨d', built, rest⟩ := bind_eq_ok_iff.1 rest
  obtain ⟨⟨schema', diagnostics⟩, analysed, same⟩ := bind_eq_ok_iff.1 rest
  obtain ⟨rfl, rfl⟩ : d' = d ∧ schema' = schema := Prod.mk.inj (Except.ok.inj same)
  have texts : ∀ e ∈ rostered, e.name.IsText := by
    simp only [rostered, List.forall_mem_cons, List.not_mem_nil, false_imp_iff,
      implies_true, and_true]
    exact ⟨⟨_, rfl⟩, ⟨_, rfl⟩⟩
  have isOptions := ((Directory.build_ensures texts options).of_eq_ok built).1
  obtain ⟨-, -, found, -⟩ := finds_forms_iff (isOptions ▸ made) analysed
  dsimp only at plural
  rw [plural] at found
  have isStem : "staff" ∈ stems "staff" := by decide
  refine ⟨d', schema', ok, plural, ?_⟩
  rw [plural]
  exact found.2 (.inl isStem)

/-- With another plural given, a field that is named after it is missed. -/
theorem staffers_missed :
    lowercase "staffersId" = "staffers" ++ "id" ∧
    (rosteredStaff "staffers").toOption.map (fun (d, schema) =>
      (schema.plural, (find d [.bare "staffersId"] "staff").toOption.map (·.isSome))) =
    some ("staffers", some false) := by
  constructor
  · rfl
  · rfl

end ForeignKey

end EntityModel
