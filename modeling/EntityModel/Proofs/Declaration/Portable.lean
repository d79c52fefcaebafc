import EntityModel.Options
import EntityModel.Proofs.Declaration.Conforming
import EntityModel.Proofs.EntityRoundTrip
import EntityModel.Proofs.Json.Canonical

/-!
# Portable declarations

Declarations that a document of JSON can give: the constructors accept them, their slots are of
their declared types, and what may be any value at all, a default or an entry of the metadata, is a
value of JSON. A bound may be any number; here it is one that JSON can write.
-/

namespace EntityModel

/-! ### Values -/

namespace Value

def IsPlain (v : Value) : Prop := ∃ s : Scalar, s.IsJson ∧ v = .scalar s

def IsName (v : Value) : Prop := ∃ s, s ≠ "" ∧ v = .text s

/-- The value is a text that is not empty, or is not given at all. -/
def IsNameOrNull (v : Value) : Prop := v = .null ∨ v.IsName

lemma IsPlain.isJson {v : Value} (h : v.IsPlain) : v.IsJson := by
  obtain ⟨s, json, rfl⟩ := h
  exact .scalar json

lemma IsPlain.sorted {v : Value} (h : v.IsPlain) : v.sorted = v := by
  obtain ⟨s, -, rfl⟩ := h
  rfl

lemma isPlain_null : IsPlain .null := ⟨.null, trivial, rfl⟩

lemma isPlain_bool (b : Bool) : IsPlain (.bool b) := ⟨.bool b, trivial, rfl⟩

lemma isPlain_text (s : String) : IsPlain (.text s) := ⟨.text s, trivial, rfl⟩

lemma IsText.isPlain {v : Value} (h : v.IsText) : v.IsPlain := by
  obtain ⟨s, rfl⟩ := h
  exact isPlain_text s

lemma IsTextOrNull.isPlain {v : Value} (h : v.IsTextOrNull) : v.IsPlain := by
  rcases h with rfl | h
  · exact isPlain_null
  · exact h.isPlain

lemma IsFlag.isPlain {v : Value} (h : v.IsFlag) : v.IsPlain := by
  obtain ⟨b, rfl⟩ := h
  exact isPlain_bool b

lemma IsIntOrNull.isPlain {v : Value} (h : v.IsIntOrNull) : v.IsPlain := by
  rcases h with rfl | ⟨i, rfl⟩
  · exact isPlain_null
  · exact ⟨.int i, trivial, rfl⟩

lemma IsNumberOrNull.isPlain {v : Value} (h : v.IsNumberOrNull) (json : v.IsJson) : v.IsPlain := by
  cases json with
  | scalar json => exact ⟨_, json, rfl⟩
  | list | map => rcases h with null | number <;> contradiction

lemma IsName.isText {v : Value} (h : v.IsName) : v.IsText := by
  obtain ⟨s, -, rfl⟩ := h
  exact ⟨s, rfl⟩

lemma IsName.isGiven {v : Value} (h : v.IsName) : v.isGiven = true := by
  obtain ⟨s, nonempty, rfl⟩ := h
  simpa [isGiven_text] using nonempty

lemma IsText.isName {v : Value} (h : v.IsText) (given : v.isGiven = true) : v.IsName := by
  obtain ⟨s, rfl⟩ := h
  exact ⟨s, by simpa [isGiven_text] using given, rfl⟩

lemma IsTextOrNull.isName {v : Value} (h : v.IsTextOrNull) (given : v.isGiven = true) : v.IsName :=
  (h.isText given).isName given

lemma IsNameOrNull.isTextOrNull {v : Value} (h : v.IsNameOrNull) : v.IsTextOrNull :=
  h.imp_right IsName.isText

/-- A name, if there is one, is not replaced by null. -/
lemma IsNameOrNull.orElse_null {v : Value} (h : v.IsNameOrNull) : v.orElse .null = v := by
  rcases h with rfl | name
  · rfl
  · exact orElse_of_isGiven name.isGiven

end Value

/-- What stands under a key, if anything does, is a text where all values are. -/
lemma Entries.isTextOrNull_find? {entries : Entries} (texts : ∀ entry ∈ entries, entry.2.IsText)
    (key : Scalar) : ((Entries.find? key entries).getD .null).IsTextOrNull := by
  induction entries with
  | nil => exact .inl rfl
  | cons entry rest ih =>
    obtain ⟨first, others⟩ := List.forall_mem_cons.1 texts
    rw [Entries.find?]
    split_ifs
    · exact .inr first
    · exact ih others

/-! ### Fields -/

/-- The default of a field and its bounds are values of JSON. -/
structure FieldAttributes.IsJson (a : FieldAttributes) : Prop where
  default : ∀ v, a.default = some v → v.IsJson
  min : ∀ c, a.constraints = some c → c.min.IsJson
  max : ∀ c, a.constraints = some c → c.max.IsJson

namespace Field

/-- The field and those inside it are accepted and of their declared types, with values of JSON. -/
structure Portable (f : Field) : Prop where
  built : f.Built
  conforms : f.Conforms
  json : f.Everywhere FieldAttributes.IsJson

namespace Portable

lemma name {f : Field} (h : f.Portable) : f.name.IsName :=
  h.conforms.attributes.name.isName h.built.sound.named

lemma item {a : FieldAttributes} {item : Field} {shape : Option (List Field)}
    (h : Portable ⟨a, some item, shape⟩) : item.Portable := by
  obtain ⟨⟨_, _, built, _⟩, ⟨_, conforms, _⟩, ⟨_, json, _⟩⟩ := h
  exact ⟨built item rfl, conforms item rfl, json item rfl⟩

lemma part {a : FieldAttributes} {items : Option Field} {parts : List Field} {part : Field}
    (h : Portable ⟨a, items, some parts⟩) (mem : part ∈ parts) : part.Portable := by
  obtain ⟨⟨_, _, _, built⟩, ⟨_, _, conforms⟩, ⟨_, _, json⟩⟩ := h
  exact ⟨built parts rfl part mem, conforms parts rfl part mem, json parts rfl part mem⟩

lemma min {f : Field} (h : f.Portable) : (f.constraints.getD {}).min.IsPlain := by
  cases given : f.constraints with
  | none => exact Value.isPlain_null
  | some c =>
    have bound := (h.conforms.attributes.constraints c given).min
    exact bound.isPlain (h.json.attributes.min c given)

lemma max {f : Field} (h : f.Portable) : (f.constraints.getD {}).max.IsPlain := by
  cases given : f.constraints with
  | none => exact Value.isPlain_null
  | some c =>
    have bound := (h.conforms.attributes.constraints c given).max
    exact bound.isPlain (h.json.attributes.max c given)

lemma pattern {f : Field} (h : f.Portable) : (f.constraints.getD {}).pattern.IsTextOrNull := by
  cases given : f.constraints with
  | none => exact .inl rfl
  | some c => exact (h.conforms.attributes.constraints c given).pattern

end Portable

end Field

/-! ### Entities and options -/

/-- The values of an entity that may be of any type are values of JSON. -/
structure Entity.IsJson (e : Entity) : Prop where
  fields : ∀ f ∈ e.fields, f.Everywhere FieldAttributes.IsJson
  metadata : ∀ entry ∈ e.metadata, entry.2.IsJson

/-- The entity and what is declared on it are accepted and of their declared types, with values of
JSON. -/
structure Entity.Portable (e : Entity) : Prop where
  built : e.Built
  conforms : e.Conforms
  json : e.IsJson

namespace Entity.Portable

variable {e : Entity} (h : e.Portable)

include h

lemma name : e.name.IsName :=
  h.conforms.name.isName ((checked_eq_ok_iff e).1 h.built.own).named

lemma field {f : Field} (mem : f ∈ e.fields) : f.Portable :=
  ⟨h.built.fields f mem, h.conforms.fields f mem, h.json.fields f mem⟩

end Entity.Portable

/-- The table names that the options give are texts. -/
def Options.Conforms (o : Options) : Prop := ∀ entry ∈ o.tables, entry.2.IsText

end EntityModel
