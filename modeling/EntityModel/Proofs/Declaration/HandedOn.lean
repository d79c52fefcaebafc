import EntityModel.Analysis.ResolvedField
import EntityModel.Analysis.EffectivePolicy
import EntityModel.Declaration.Entity
import EntityModel.Options
import Mathlib.Tactic.Common

/-!
# Values that are handed on

Much of a declaration is copied unread into the result: flags, defaults, bounds, descriptions,
metadata and the like. Such a value may be anything that a document can hold. For each part of a
declaration these are the values of it that stand in the result as they were written.
-/

namespace EntityModel

/-! ### Fields -/

/-- The values of a field's own attributes that are handed on; only a reference keeps its target and
only an enumeration its values. -/
def FieldAttributes.handedOn (a : FieldAttributes) (kind : FieldKind) : List Value :=
  let constraints := a.constraints.getD {}
  [a.nullable, a.unique, a.readonly, a.description, constraints.min, constraints.max,
      constraints.pattern] ++ a.default.toList ++
    (if kind = .reference then [a.target] else []) ++
    (if kind = .enumeration then a.values.getD [] else [])

mutual

/-- The values of a field that are handed on where it is resolved as one of a kind, and those of the
fields inside it; only an array keeps its elements and only an object its parts. -/
def Field.handedOn : Field → FieldKind → List Value
  | ⟨a, items, shape⟩, kind =>
    a.handedOn kind ++
      (match items with
        | some item => if kind = .array then item.handedOn (ResolvedField.resolvedKind item) else []
        | none => []) ++
      (match shape with
        | some parts => if kind = .object then Field.allHandedOn parts else []
        | none => [])
termination_by structural f => f

def Field.allHandedOn : List Field → List Value
  | [] => []
  | f :: rest => f.handedOn (ResolvedField.resolvedKind f) ++ Field.allHandedOn rest
termination_by structural fs => fs

end

namespace Field

lemma allHandedOn_eq_flatMap (fs : List Field) :
    allHandedOn fs = fs.flatMap fun f => f.handedOn (ResolvedField.resolvedKind f) := by
  induction fs with
  | nil => rfl
  | cons f rest ih => rw [allHandedOn, ih, List.flatMap_cons]

/-- A field hands on its own values, and those of the parts that its kind has. -/
lemma handedOn_mk (a : FieldAttributes) (items : Option Field) (shape : Option (List Field))
    (kind : FieldKind) :
    handedOn ⟨a, items, shape⟩ kind =
      a.handedOn kind ++ (if kind = .array then allHandedOn items.toList else []) ++
        if kind = .object then allHandedOn (shape.getD []) else [] := by
  rw [handedOn.eq_def]
  cases items <;> cases shape <;> simp [allHandedOn]

end Field

/-! ### Parts of an entity -/

/-- The values of a relation that are handed on; only a many-to-many relation keeps its other
key. -/
def Relation.handedOn (r : Relation) : List Value :=
  [r.name, r.foreignKey, r.eager, r.limit] ++ (r.orderBy.map SortOrder.encode).toList ++
    (if r.isManyToMany then [r.otherKey] else [])

def Policy.handedOn (p : Policy) : List Value :=
  (p.scope.flatMap fun s => [s.field, s.contextKey]) ++
    (p.bypass.flatMap fun b => b.contextKey :: b.values) ++ Operation.all.map p.fragment

def Index.handedOn (i : Index) : List Value := [i.name, i.unique, i.using_, i.where_] ++ i.fields

def Procedure.handedOn (p : Procedure) : List Value :=
  [p.name, p.sql, p.language, p.description] ++ p.args.flatMap fun a => [a.name, a.default]

/-! ### Entities -/

def Entity.handedOn (e : Entity) : List Value :=
  e.fields.map (·.name) ++ Field.allHandedOn e.fields ++ e.relations.flatMap Relation.handedOn ++
    e.computed.map (·.name) ++ e.policy.toList.flatMap Policy.handedOn ++
    e.indexes.flatMap Index.handedOn ++ e.procedures.flatMap Procedure.handedOn ++
    [e.timestamps, .list e.tags, e.module, e.group, .map e.metadata, e.description]

/-- The table that the options give to an entity, if it has a name. -/
def Options.handedOn (o : Options) (e : Entity) : List Value := (e.name.text?.map o.tableFor).toList

end EntityModel
