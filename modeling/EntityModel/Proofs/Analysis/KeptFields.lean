import EntityModel.Proofs.Analysis.Fields
import EntityModel.Proofs.Analysis.RereadFields

/-!
# What a resolved field keeps

Resolving a field adds to its declaration and changes nothing of it: flags, default, bounds, pattern
and description stay as they were written, and so do the target of a reference and the values of an
enumeration, which fields of other kinds drop (`ResolvedField.ofFields_keeps`).
-/

namespace EntityModel

open Outcome

/-- The attributes keep those of a declaration that is resolved under a name as one of a kind. -/
structure ResolvedAttributes.Keeps (name : Value) (kind : FieldKind) (f : FieldAttributes)
    (a : ResolvedAttributes) : Prop where
  name : name = .text a.name
  declaredType : a.declaredType = f.type
  nullable : a.nullable = f.nullable
  unique : a.unique = f.unique
  readonly : a.readonly = f.readonly
  default : a.default = f.default
  refTarget : a.refTarget = if kind = .reference then f.target else .null
  enumValues : a.enumValues = if kind = .enumeration then f.values else none
  min : a.min = (f.constraints.getD {}).min
  max : a.max = (f.constraints.getD {}).max
  pattern : a.pattern = (f.constraints.getD {}).pattern
  description : a.description = f.description
  kind : a.kind = kind

namespace ResolvedField

/-- A resolved field keeps the attributes of its declaration, and the parts that are given. -/
lemma assemble_keeps (name : Value) (f : Field) (kind : FieldKind) (items : Option ResolvedField)
    (shape : Option (List ResolvedField)) :
    Ensures anyFault (fun out => out.toResolvedAttributes.Keeps name kind f.toFieldAttributes ∧
      out.items = items ∧ out.shape = shape) (assemble name f kind items shape) := by
  unfold assemble
  refine name.asText_ensures.bind fun s named => .step fun columnType => .step fun hint => ?_
  rw [ensures_pure]
  exact ⟨⟨named, rfl, rfl, rfl, rfl, rfl, rfl, rfl, rfl, rfl, rfl, rfl, rfl⟩, rfl, rfl⟩

/-- What is resolved from a field keeps its attributes. -/
lemma ofKind_keeps (f : Field) (name : Value) (kind : FieldKind) :
    Ensures anyFault (fun out => out.toResolvedAttributes.Keeps name kind f.toFieldAttributes)
      (ofKind f name kind) := by
  obtain ⟨a, items, shape⟩ := f
  rw [ofKind_mk]
  refine .ite_bind (fun _ => within_any _) (fun _ => within_any _) fun elements _ => ?_
  refine .ite_bind (fun _ => within_any _) (fun _ => within_any _) fun parts _ => ?_
  exact (assemble_keeps _ _ _ _ _).mono fun _ keeps => keeps.1

/-- Fields are resolved one by one, under their own names, and keep their attributes. -/
theorem ofFields_keeps (fs : List Field) :
    Ensures anyFault (List.Forall₂ (fun f out =>
      out.toResolvedAttributes.Keeps f.name (resolvedKind f) f.toFieldAttributes) fs)
      (ofFields fs) := by
  rw [ofFields_eq_mapM]
  exact Ensures.mapM fun f _ => ofKind_keeps f f.name (resolvedKind f)

end ResolvedField

end EntityModel
