import EntityModel.Proofs.Declaration.Accepted
import EntityModel.Proofs.Declaration.Reread
import EntityModel.Proofs.Value.Record

/-!
# Conforming declarations

Declarations every slot of which holds a value of its declared type: a flag is a truth value, a text
is a text and may be empty, an optional slot may be null. A default and the values of the metadata
may be anything. A predicate of a conforming policy is a text; a function has no document form.
-/

namespace EntityModel

/-! ### Values -/

namespace Value

def IsFlag (v : Value) : Prop := ∃ b, v = .bool b

/-- The value is a whole number or is not given at all. -/
def IsIntOrNull (v : Value) : Prop := v = .null ∨ ∃ i, v = .int i

def IsNumberOrNull (v : Value) : Prop := v = .null ∨ v.IsNumber

lemma IsFlag.bool_isGiven {v : Value} (h : v.IsFlag) : .bool v.isGiven = v := by
  obtain ⟨b, rfl⟩ := h
  rfl

lemma IsText.orElse_empty {v : Value} (h : v.IsText) : v.orElse (.text "") = v := by
  obtain ⟨s, rfl⟩ := h
  by_cases empty : s = ""
  · subst empty
    rfl
  · simp [orElse, isGiven_text, empty]

/-- What counts as given is not replaced. -/
lemma orElse_of_isGiven {v w : Value} (given : v.isGiven = true) : v.orElse w = v := if_pos given

end Value

/-! ### Parts of a declaration -/

/-- Bounds are numbers; the pattern and the message are texts. -/
structure Constraints.Conforms (c : Constraints) : Prop where
  min : c.min.IsNumberOrNull
  max : c.max.IsNumberOrNull
  pattern : c.pattern.IsTextOrNull
  message : c.message.IsTextOrNull

/-- The attributes of a field are of their declared types. -/
structure FieldAttributes.Conforms (a : FieldAttributes) : Prop where
  name : a.name.IsText
  nullable : a.nullable.IsFlag
  unique : a.unique.IsFlag
  readonly : a.readonly.IsFlag
  target : a.target.IsTextOrNull
  values : ∀ vs, a.values = some vs → ∀ v ∈ vs, v.IsText
  constraints : ∀ c, a.constraints = some c → c.Conforms
  hint : a.hint.IsTextOrNull
  description : a.description.IsText

/-- The attributes of a field and of all fields inside it are of their declared types. -/
abbrev Field.Conforms (f : Field) : Prop := f.Everywhere FieldAttributes.Conforms

lemma Field.Everywhere.attributes {P : FieldAttributes → Prop} {f : Field} (h : f.Everywhere P) :
    P f.toFieldAttributes := by
  cases h with
  | mk own inItems inShape => exact own

/-- The slots of a relation are of their declared types. -/
structure Relation.Conforms (r : Relation) : Prop where
  name : r.name.IsText
  target : r.target.IsText
  foreignKey : r.foreignKey.IsTextOrNull
  eager : r.eager.IsFlag
  orderBy : ∀ o, r.orderBy = some o → ∀ e ∈ o.keys, (∃ column, e.1 = .text column) ∧ e.2.IsText
  limit : r.limit.IsIntOrNull
  through : r.through.IsTextOrNull
  otherKey : r.otherKey.IsTextOrNull

/-- The slots of an index are of their declared types. -/
structure Index.Conforms (i : Index) : Prop where
  fields : ∀ v ∈ i.fields, v.IsText
  name : i.name.IsTextOrNull
  using_ : i.using_.IsTextOrNull
  unique : i.unique.IsFlag
  where_ : i.where_.IsTextOrNull
  concurrently : i.concurrently.IsFlag

/-- The slots of a computed property are of their declared types. -/
structure Computed.Conforms (c : Computed) : Prop where
  name : c.name.IsText
  type : c.type.IsTextOrNull
  description : c.description.IsText

/-- The slots of an argument are of their declared types. -/
structure Argument.Conforms (a : Argument) : Prop where
  name : a.name.IsText
  type : a.type.IsText
  default : a.default.IsTextOrNull

/-- The slots of a procedure are of their declared types. -/
structure Procedure.Conforms (p : Procedure) : Prop where
  name : p.name.IsText
  args : ∀ a ∈ p.args, a.Conforms
  sql : p.sql.IsText
  language : p.language.IsText
  description : p.description.IsText

/-- The slots of a scope rule are texts. -/
structure Scope.Conforms (s : Scope) : Prop where
  field : s.field.IsText
  contextKey : s.contextKey.IsText

/-- The slots of a bypass condition are texts. -/
structure Bypass.Conforms (b : Bypass) : Prop where
  contextKey : b.contextKey.IsText
  values : ∀ v ∈ b.values, v.IsText

def Predicate.Conforms (p : Predicate) : Prop := ∃ v : Value, v.IsTextOrNull ∧ p = .written v

/-- The slots of a policy are of their declared types, and no predicate is a function. -/
structure Policy.Conforms (p : Policy) : Prop where
  scope : ∀ s ∈ p.scope, s.Conforms
  bypass : ∀ b ∈ p.bypass, b.Conforms
  predicate : ∀ op, (p.predicate op).Conforms
  sql : ∀ e ∈ p.sql, e.2.IsText

/-- The slots of an entity and of everything declared on it are of their declared types. -/
structure Entity.Conforms (e : Entity) : Prop where
  name : e.name.IsText
  fields : ∀ f ∈ e.fields, f.Conforms
  relations : ∀ r ∈ e.relations, r.Conforms
  computed : ∀ c ∈ e.computed, c.Conforms
  policy : ∀ p, e.policy = some p → p.Conforms
  indexes : ∀ i ∈ e.indexes, i.Conforms
  procedures : ∀ p ∈ e.procedures, p.Conforms
  timestamps : e.timestamps.IsFlag
  tags : ∀ v ∈ e.tags, v.IsText
  module : e.module.IsTextOrNull
  group : e.group.IsTextOrNull
  metadata : ∀ entry ∈ e.metadata, ∃ key, entry.1 = .text key
  description : e.description.IsText

/-! ### Conforming declarations as they are read back -/

lemma Predicate.Conforms.reread {p : Predicate} (h : p.Conforms) : p.reread = p := by
  obtain ⟨v, rfl | ⟨s, rfl⟩, rfl⟩ := h <;> rfl

/-- A policy that conforms is read as it was. -/
lemma Policy.Conforms.reread {p : Policy} (h : p.Conforms) : p.reread = p := by
  have select : p.select.reread = p.select := (h.predicate .select).reread
  have insert : p.insert.reread = p.insert := (h.predicate .insert).reread
  have update : p.update.reread = p.update := (h.predicate .update).reread
  have delete : p.delete.reread = p.delete := (h.predicate .delete).reread
  unfold Policy.reread
  rw [select, insert, update, delete]

lemma Procedure.Conforms.reread {p : Procedure} (h : p.Conforms) : p.reread = p := by
  unfold Procedure.reread
  rw [h.sql.orElse_empty, h.description.orElse_empty]

end EntityModel
