import EntityModel.Analysis.ResolvedRelation
import EntityModel.Proofs.Analysis.RereadFields
import EntityModel.Proofs.Declaration.PartsRoundTrip

/-!
# The analysis of relations that were read back

References are resolved and keys are found among conforming declarations that were read back as they
are among the declarations themselves. A relation that was read back is resolved to the same, but
for its order, which is a mapping then (`ResolvedRelation.tidied`). The exception is a has-many
relation whose join entity is an empty text: it is many-to-many only until it is read back.
-/

namespace EntityModel

open Outcome

attribute [local irreducible] FieldKind.lookup

/-! ### The directory -/

namespace Directory

/-- The directory of the entities as they are read back. -/
def reread (d : Directory) : Directory :=
  { d with entities := d.entities.map fun (name, e) => (name, e.reread) }

variable (d : Directory)

lemma contains_reread (name : String) : d.reread.contains name = d.contains name := by
  unfold contains reread
  rw [List.any_map]
  rfl

/-- Entities of the directory that has been read again are found under the same names. -/
lemma find?_reread (name : String) : d.reread.find? name = (d.find? name).map Entity.reread := by
  unfold find? reread
  dsimp only
  induction d.entities with
  | nil => rfl
  | cons entry rest ih =>
    obtain ⟨other, e⟩ := entry
    rw [List.map_cons, List.lookup_cons, List.lookup_cons, ih]
    cases name == other <;> rfl

lemma resolve_reread (reference : String) : d.reread.resolve reference = d.resolve reference := by
  unfold resolve
  simp only [contains_reread]
  rfl

lemma isMeant_reread (reference name : String) :
    d.reread.isMeant reference name = d.isMeant reference name := by
  unfold isMeant
  rw [resolve_reread]
  rfl

/-- References mean entities of the same names in the directory that has been read again. -/
lemma get?_reread (reference : String) :
    d.reread.get? reference = (d.get? reference).map fun (name, e) => (name, e.reread) := by
  unfold get?
  rw [resolve_reread]
  cases d.resolve reference with
  | none => rfl
  | some name =>
    simp only [Option.bind_eq_bind, Option.bind_some, find?_reread]
    cases d.find? name <;> rfl

/-- An entity is added to the directory read again as it was added to the first. -/
lemma add_reread (e : Entity) : d.reread.add e.reread = reread <$> d.add e := by
  unfold add
  change (do let name ← e.name.asText; _) = _
  cases e.name.asText with
  | error fault => rfl
  | ok name =>
    simp only [ok_bind, contains_reread]
    by_cases known : d.contains name = true
    · rw [if_pos known, if_pos known]
      rfl
    · rw [if_neg known, if_neg known]
      simp [reread, pure, Except.pure]
      rfl

lemma foldlM_add_reread (es : List Entity) :
    (es.map Entity.reread).foldlM add d.reread = reread <$> es.foldlM add d := by
  induction es generalizing d with
  | nil => rfl
  | cons e rest ih =>
    rw [List.map_cons, List.foldlM_cons, List.foldlM_cons, add_reread]
    cases d.add e with
    | error fault => rfl
    | ok next => exact ih next

lemma build_reread (es : List Entity) (options : Options) :
    build (es.map Entity.reread) options = reread <$> build es options :=
  foldlM_add_reread { options } es

end Directory

variable (d : Directory)

/-! ### Foreign keys -/

namespace ForeignKey

/-- Reference fields are found alike after reading. -/
lemma findReference_reread (target : String) (fields : List Field) :
    findReference d.reread target (fields.map Field.reread) = findReference d target fields := by
  induction fields with
  | nil => rfl
  | cons f rest ih =>
    have given : f.reread.target.isGiven = f.target.isGiven := by
      rw [Field.reread_attributes]
      exact Value.isGiven_orElse_null f.target
    rw [List.map_cons, findReference, findReference, Field.kind_reread, given, ih]
    by_cases points : (f.kind = some .reference && f.target.isGiven) = true
    · have same : f.reread.target = f.target := by
        rw [Field.reread_attributes]
        exact Value.orElse_of_isGiven (by simpa using (Bool.and_eq_true_iff.1 points).2)
      simp only [same, Directory.isMeant_reread, Field.reread_name]
    · rw [if_neg points, if_neg points]

lemma findNamed_reread (names : List String) (fields : List Field) :
    findNamed names (fields.map Field.reread) = findNamed names fields := by
  induction fields with
  | nil => rfl
  | cons f rest ih => rw [List.map_cons, findNamed, findNamed, Field.reread_name, ih]

lemma find_reread (fields : List Field) (target : String) :
    find d.reread (fields.map Field.reread) target = find d fields target := by
  unfold find
  rw [findReference_reread, findNamed_reread]

/-- The key at the other end is found alike after reading. -/
lemma findBack_reread (fields : List Field) (source : String) (relations : List Relation) :
    findBack d.reread (fields.map Field.reread) source (relations.map Relation.reread) =
      findBack d fields source relations := by
  induction relations with
  | nil => rfl
  | cons back rest ih =>
    have given : back.reread.foreignKey.isGiven = back.foreignKey.isGiven :=
      Value.isGiven_orElse_null back.foreignKey
    rw [List.map_cons, findBack, findBack, find_reread, ih, given]
    simp only [Directory.isMeant_reread]
    by_cases key : back.foreignKey.isGiven = true
    · rw [show back.reread.foreignKey = back.foreignKey from Value.orElse_of_isGiven key]
      rfl
    · simp only [key]
      rfl

end ForeignKey

/-! ### Relations -/

/-- The relation without what its document form does not show: the order is a mapping. -/
def ResolvedRelation.tidied (r : ResolvedRelation) : ResolvedRelation :=
  { r with orderBy := (r.orderBy.filter fun o => !o.keys.isEmpty).map SortOrder.merged }

namespace Relation

/-- The relation stays many-to-many, or stays what it is, when it is read back. -/
def KeepsKind (r : Relation) : Prop := r.kind = .hasMany → r.through ≠ .text ""

/-- A relation is still many-to-many after reading, where its kind is kept. -/
lemma isManyToMany_reread {r : Relation} (conforms : r.Conforms) (keeps : r.KeepsKind) :
    r.reread.isManyToMany = r.isManyToMany := by
  unfold isManyToMany
  change (_ || decide (r.kind = .hasMany) && !(r.through.orElse .null).isNull) = _
  by_cases hasMany : r.kind = .hasMany
  · rcases conforms.through with null | ⟨s, text⟩
    · rw [null]
      rfl
    · have given : r.through.isGiven = true := by
        have ne := keeps hasMany
        rw [text] at ne ⊢
        simpa [Value.isGiven, Scalar.isGiven] using ne
      rw [Value.orElse_of_isGiven given]
      rfl
  · simp [hasMany, Relation.reread]
    rfl

end Relation

namespace ResolvedKey

/-- A belongs-to relation gets the same key after reading. -/
lemma ofBelongsTo_reread (entity : String) (fields : List Field) (r : Relation)
    (written target : String) :
    ofBelongsTo d.reread entity (fields.map Field.reread) r.reread written target =
      ofBelongsTo d entity fields r written target := by
  have given : r.reread.foreignKey.isGiven = r.foreignKey.isGiven :=
    Value.isGiven_orElse_null r.foreignKey
  unfold ofBelongsTo
  rw [given, ForeignKey.find_reread]
  by_cases key : r.foreignKey.isGiven = true
  · rw [show r.reread.foreignKey = r.foreignKey from Value.orElse_of_isGiven key]
    rfl
  · simp only [key]
    rfl

/-- A relation with its key at the other end gets the same key after reading. -/
lemma ofInverse_reread (entity : String) (r : Relation) (kind : RelationKind) (target : String)
    (holder : Option (String × Entity)) :
    ofInverse d.reread entity r.reread kind target (holder.map fun (name, e) => (name, e.reread)) =
      ofInverse d entity r kind target holder := by
  have given : r.reread.foreignKey.isGiven = r.foreignKey.isGiven :=
    Value.isGiven_orElse_null r.foreignKey
  unfold ofInverse
  dsimp only
  rw [given]
  by_cases key : r.foreignKey.isGiven = true
  · rw [if_pos key, if_pos key, show r.reread.foreignKey = r.foreignKey from
      Value.orElse_of_isGiven key]
  · rw [if_neg key, if_neg key]
    cases holder with
    | none => rfl
    | some holder =>
      have back := ForeignKey.findBack_reread d holder.2.fields entity holder.2.relations
      have own := ForeignKey.find_reread d holder.2.fields entity
      simp only [Option.map_some, Entity.reread, back, own]
      rfl

end ResolvedKey

namespace JoinSide

/-- The join side whose holder was read back. -/
def reread (s : JoinSide) : JoinSide :=
  { s with holder := s.holder.map fun (name, e) => (name, e.reread) }

/-- The join side of a relation is found alike after reading. -/
lemma ofRelation_reread (entity : String) (r : Relation) (written target : String) :
    ofRelation d.reread entity r.reread written target =
      reread <$> ofRelation d entity r written target := by
  have given : r.reread.through.isGiven = r.through.isGiven :=
    Value.isGiven_orElse_null r.through
  have other : r.reread.otherKey.isGiven = r.otherKey.isGiven :=
    Value.isGiven_orElse_null r.otherKey
  unfold ofRelation
  simp only [Directory.get?_reread]
  rw [given, other]
  by_cases joined : r.through.isGiven = true
  · rw [show r.reread.through = r.through from Value.orElse_of_isGiven joined]
    simp only [joined, if_true]
    cases r.through.asText with
    | error fault => rfl
    | ok through =>
      simp only [ok_bind]
      cases d.get? through with
      | none => rfl
      | some join =>
        simp only [Option.map_some]
        by_cases declared : r.otherKey.isGiven = true
        · rw [if_pos declared, if_pos declared, show r.reread.otherKey = r.otherKey from
            Value.orElse_of_isGiven declared]
          rfl
        · have own := ForeignKey.find_reread d join.2.fields target
          rw [if_neg declared, if_neg declared, Entity.reread, own]
          cases ForeignKey.find d join.2.fields target <;> rfl
  · simp only [joined]
    rfl

lemma key_reread (s : JoinSide) (r : Relation) (written : String) :
    s.reread.key r.reread written = s.key r written := by
  have own : (r.otherKey.orElse .null).orElse (.text (ForeignKey.defaultName written)) =
      r.otherKey.orElse (.text (ForeignKey.defaultName written)) := by
    unfold Value.orElse
    by_cases given : r.otherKey.isGiven = true <;> simp [given]
  cases s with
  | mk through holder otherKey diagnostics =>
    cases otherKey with
    | none => exact own
    | some key => rfl

end JoinSide

namespace ResolvedRelation

/-- A relation that has been read again is resolved to the same, tidied, with the same
diagnostics. -/
lemma ofRelation_reread {r : Relation} (conforms : r.Conforms) (keeps : r.KeepsKind)
    (entity : String) (fields : List Field) :
    ofRelation d.reread entity (fields.map Field.reread) r.reread =
      (fun (resolved, diagnostics) => (resolved.tidied, diagnostics)) <$>
        ofRelation d entity fields r := by
  unfold ofRelation
  have target : r.reread.target = r.target := rfl
  have kind : r.reread.kind = r.kind := rfl
  rw [target, kind, Relation.isManyToMany_reread conforms keeps]
  have eager : r.reread.eager = r.eager := conforms.eager.bool_isGiven
  simp only [ResolvedKey.ofBelongsTo_reread, JoinSide.ofRelation_reread, Directory.resolve_reread,
    Directory.get?_reread, ResolvedKey.ofInverse_reread, eager]
  cases r.target.asText with
  | error fault => rfl
  | ok written =>
    simp only [ok_bind]
    generalize (d.resolve written).getD written = target
    by_cases belongs : r.kind = .belongsTo
    · rw [if_pos belongs, if_pos belongs]
      cases ResolvedKey.ofBelongsTo d entity fields r written target <;> rfl
    · rw [if_neg belongs, if_neg belongs]
      by_cases many : r.isManyToMany = true
      · rw [if_pos many, if_pos many]
        cases JoinSide.ofRelation d entity r written target with
        | error fault => rfl
        | ok join =>
          have inverse := ResolvedKey.ofInverse_reread d entity r .manyToMany target join.holder
          have key := join.key_reread r written
          have holder : join.reread.holder = join.holder.map fun (name, e) => (name, e.reread) :=
            rfl
          simp only [ok_map, ok_bind, key, holder, inverse]
          cases ResolvedKey.ofInverse d entity r .manyToMany target join.holder <;> rfl
      · rw [if_neg many, if_neg many]
        cases ResolvedKey.ofInverse d entity r r.kind target (d.get? written) <;> rfl

/-- The relations of an entity are resolved alike after reading, one by one. -/
lemma ofRelations_reread {relations : List Relation}
    (conforms : ∀ r ∈ relations, r.Conforms) (keeps : ∀ r ∈ relations, r.KeepsKind)
    (entity : String) (fields : List Field) :
    ofRelations d.reread entity (fields.map Field.reread) (relations.map Relation.reread) =
      (fun (resolved, diagnostics) => (resolved.map tidied, diagnostics)) <$>
        ofRelations d entity fields relations := by
  induction relations with
  | nil => rfl
  | cons r rest ih =>
    obtain ⟨first, others⟩ := List.forall_mem_cons.1 conforms
    obtain ⟨keepsFirst, keepsOthers⟩ := List.forall_mem_cons.1 keeps
    rw [List.map_cons, ofRelations, ofRelations, ofRelation_reread d first keepsFirst,
      ih others keepsOthers]
    cases ofRelation d entity fields r with
    | error fault => rfl
    | ok resolved => cases ofRelations d entity fields rest <;> rfl

/-- The document form of a relation, with an optional entry for each part that may not be there. -/
lemma encode_eq (r : ResolvedRelation) : r.encode = .record (
    [("name", r.name), ("kind", .text r.kind.tag), ("target", .text r.target),
      ("target_pascal", .text r.targetPascal), ("foreign_key", r.foreignKey),
      ("fk_source", .text r.keySource.word), ("target_known", .bool r.targetKnown),
      ("eager", r.eager)] ++
    (if r.localField.isGiven then [("local_field", r.localField)] else []) ++
    optionalEntry "order_by" ((r.orderBy.filter fun o => !o.keys.isEmpty).map SortOrder.encode) ++
    (if r.limit.isNull then [] else [("limit", r.limit)]) ++
    optionalEntry "through" ((r.through.filter fun s => !s.isEmpty).map Value.text) ++
    (if r.otherKey.isGiven then [("other_key", r.otherKey)] else [])) := by
  have nonempty (s : String) : (if s.isEmpty then [] else [("through", Value.text s)]) =
      optionalEntry "through" (((some s).filter fun s => !s.isEmpty).map Value.text) := by
    cases empty : s.isEmpty <;> simp [Option.filter, empty]
  unfold encode
  cases r.through with
  | none => cases r.orderBy.filter fun o => !o.keys.isEmpty <;> rfl
  | some s =>
    rw [← nonempty]
    cases r.orderBy.filter fun o => !o.keys.isEmpty <;> rfl

/-- Tidying a resolved relation does not change its document. -/
@[simp] lemma encode_tidied (r : ResolvedRelation) : r.tidied.encode = r.encode := by
  have order : ((r.tidied.orderBy.filter fun o => !o.keys.isEmpty).map SortOrder.encode) =
      (r.orderBy.filter fun o => !o.keys.isEmpty).map SortOrder.encode := by
    unfold tidied
    dsimp only
    cases order : r.orderBy.filter fun o => !o.keys.isEmpty with
    | none => rfl
    | some o =>
      have given : o.keys.isEmpty = false := by
        simpa using (Option.filter_eq_some_iff.1 order).2
      have still : o.merged.keys.isEmpty = false := (Entries.isEmpty_ofPairs _).trans given
      have same : o.merged.encode = o.encode := by simp [SortOrder.encode, SortOrder.merged]
      rw [Option.map_some, Option.filter, still]
      exact congrArg some same
  rw [encode_eq, encode_eq, order]
  rfl

end ResolvedRelation

end EntityModel
