import EntityModel.Declaration.Entity
import Mathlib.Tactic.Common

/-!
# Well-typed declarations

Declarations whose slots hold values of their declared types: texts where a name, a target or a type
is written, numbers where a bound is. Only the slots that an analysis reads are asked for; those
that it copies unread may hold anything. What counts as a bound is a parameter, since a number that
is not finite is of the right type and yet has no whole part.
-/

namespace EntityModel

/-! ### Values -/

namespace Value

def IsText (v : Value) : Prop := ∃ s, v = .text s

def IsTextOrNull (v : Value) : Prop := v = .null ∨ v.IsText

/-- The value is a number; a truth value counts as one. -/
def IsNumber : Value → Prop
  | .scalar (.int _) | .scalar (.bool _) | .scalar (.real _) => True
  | _ => False

/-- The value is a number with a whole part, and not so great that it has no 64-bit neighbour. -/
def IsFinite : Value → Prop
  | .scalar (.int i) => ∀ negative, Binary64.ofInt i ≠ .infinite negative
  | .scalar (.bool _) => True
  | .scalar (.real x) => x.fraction?.isSome
  | _ => False

lemma isText_text (s : String) : IsText (.text s) := ⟨s, rfl⟩

lemma text?_eq_some_iff {v : Value} {s : String} : v.text? = some s ↔ v = .text s := by
  cases v with
  | scalar scalar => cases scalar <;> simp [text?]
  | list | map => simp [text?]

lemma IsTextOrNull.isText {v : Value} (h : v.IsTextOrNull) (given : v.isGiven = true) :
    v.IsText := by
  rcases h with rfl | h
  · simp [isGiven, Scalar.isGiven] at given
  · exact h

end Value

/-! ### Fields -/

variable {bound bound' : Value → Prop}

/-- The attributes of a field are of their declared types, and a reference has a target. -/
structure FieldAttributes.WellTyped (bound : Value → Prop) (a : FieldAttributes) : Prop where
  name : a.name.IsText
  target : a.target.IsTextOrNull
  referenced : FieldKind.lookup a.type = some .reference → a.target.isGiven = true
  values : ∀ vs, a.values = some vs → ∀ v ∈ vs, v.IsText
  low : (a.constraints.getD {}).min = .null ∨ bound (a.constraints.getD {}).min
  high : (a.constraints.getD {}).max = .null ∨ bound (a.constraints.getD {}).max
  hint : a.hint.IsTextOrNull

namespace Field

mutual

/-- What holds of a field as soon as it holds of the fields inside it holds of every field. -/
@[elab_as_elim]
theorem induction_on {P : Field → Prop} (mk : ∀ (a : FieldAttributes) (items : Option Field)
      (shape : Option (List Field)), (∀ item, items = some item → P item) →
      (∀ parts, shape = some parts → ∀ part ∈ parts, P part) → P ⟨a, items, shape⟩) :
    (f : Field) → P f
  | ⟨a, items, shape⟩ => by
    refine mk a items shape ?_ ?_
    · cases items with
      | none => simp
      | some item =>
        have inside := induction_on mk item
        rintro _ ⟨⟩
        exact inside
    · cases shape with
      | none => simp
      | some parts =>
        have inside := all_induction_on mk parts
        rintro _ ⟨⟩
        exact inside
termination_by structural f => f

/-- What follows for a field from its parts holds of all fields in a list. -/
theorem all_induction_on {P : Field → Prop} (mk : ∀ (a : FieldAttributes) (items : Option Field)
      (shape : Option (List Field)), (∀ item, items = some item → P item) →
      (∀ parts, shape = some parts → ∀ part ∈ parts, P part) → P ⟨a, items, shape⟩) :
    (fs : List Field) → ∀ f ∈ fs, P f
  | [] => by simp
  | f :: rest => List.forall_mem_cons.2 ⟨induction_on mk f, all_induction_on mk rest⟩
termination_by structural fs => fs

end

mutual

/-- A field and those inside it are well-typed. -/
def WellTyped (bound : Value → Prop) : Field → Prop
  | ⟨a, items, shape⟩ =>
    a.WellTyped bound ∧
      (match items with | some item => item.WellTyped bound | none => True) ∧
      (match shape with | some parts => AllWellTyped bound parts | none => True)
termination_by structural f => f

/-- Fields and those inside them are well-typed. -/
def AllWellTyped (bound : Value → Prop) : List Field → Prop
  | [] => True
  | f :: rest => f.WellTyped bound ∧ AllWellTyped bound rest
termination_by structural fs => fs

end

lemma allWellTyped_iff {fs : List Field} :
    AllWellTyped bound fs ↔ ∀ f ∈ fs, f.WellTyped bound := by
  induction fs with
  | nil => simp [AllWellTyped]
  | cons f rest ih => simp [AllWellTyped, ih]

/-- A field is well-typed just where its own values and its parts are. -/
lemma wellTyped_mk {a : FieldAttributes} {items : Option Field} {shape : Option (List Field)} :
    WellTyped bound ⟨a, items, shape⟩ ↔ a.WellTyped bound ∧
      (∀ item, items = some item → item.WellTyped bound) ∧
      ∀ parts, shape = some parts → ∀ part ∈ parts, part.WellTyped bound := by
  rw [WellTyped.eq_def]
  cases items <;> cases shape <;> simp [allWellTyped_iff]

lemma WellTyped.attributes {f : Field} (h : f.WellTyped bound) :
    f.toFieldAttributes.WellTyped bound := by
  obtain ⟨a, items, shape⟩ := f
  exact (wellTyped_mk.1 h).1

end Field

/-! ### Entities -/

/-- A relation has a text as its target and, where there is one, as its join entity. -/
structure Relation.WellTyped (r : Relation) : Prop where
  target : r.target.IsText
  through : r.through.IsTextOrNull

/-- A computed property has a text as its name and, where there is one, as its type. -/
structure Computed.WellTyped (c : Computed) : Prop where
  name : c.name.IsText
  type : c.type.IsTextOrNull

/-- The declaration of an entity is well-typed, and the entity has a name. -/
structure Entity.WellTyped (bound : Value → Prop) (e : Entity) : Prop where
  name : e.name.IsText
  named : e.name.isGiven = true
  fields : ∀ f ∈ e.fields, f.WellTyped bound
  relations : ∀ r ∈ e.relations, r.WellTyped
  computed : ∀ c ∈ e.computed, c.WellTyped
  indexes : ∀ i ∈ e.indexes, ∀ v ∈ i.fields, v.IsText
  procedures : ∀ p ∈ e.procedures, ∀ a ∈ p.args, a.type.IsText

end EntityModel
