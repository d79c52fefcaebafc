import EntityModel.Proofs.Analysis.Conforming
import EntityModel.Proofs.Analysis.Indexes
import EntityModel.Proofs.Analysis.KeptFields
import EntityModel.Proofs.Analysis.KeptRelations
import EntityModel.Proofs.Analysis.Runs
import EntityModel.Proofs.Declaration.HandedOn
import EntityModel.Proofs.Json.Keys

/-!
# What is handed on to the result

The document form of each part of a schema has a text just if the values that are handed on from its
declaration have one: all the rest of it is texts and flags that the analysis makes. A key that a
relation takes from another entity is handed on from there (`Schema.MadeFrom.carries`).
-/

namespace EntityModel

open Outcome

attribute [local irreducible] FieldKind.lookup

variable {layout : Json.Layout} {d : Directory}

/-! ### Fields -/

namespace ResolvedField

/-- A field has a text just if the slots that the analysis does not make and the fields inside it
have. -/
lemma fits_encode_mk (a : ResolvedAttributes) (items : Option ResolvedField)
    (shape : Option (List ResolvedField)) :
    (encode ⟨a, items, shape⟩).Fits layout ↔
      AllFit layout ([a.nullable, a.unique, a.readonly, a.description, a.min, a.max, a.pattern] ++
        a.default.toList ++ [a.refTarget] ++ a.enumValues.getD []) ∧
      AllFit layout (encodeAll items.toList) ∧ AllFit layout (encodeAll (shape.getD [])) := by
  rw [encode.eq_def]
  dsimp only [Field.entryIfGiven]
  cases default : a.default <;> cases items <;> cases shape <;>
    simp only [Value.fits_record, FitEntries.append_iff, FitEntries.cons_iff, FitEntries.nil,
      FitEntries.ite_isGiven_iff, FitEntries.filter_isNull_iff, Value.keyed_scalar,
      Value.fits_list] <;>
    simp [encodeAll] <;> tauto

variable {a : FieldAttributes} {out : ResolvedAttributes} {name : Value} {kind : FieldKind}

/-- The values of a resolved field fit a layout just where those handed on of its declaration do. -/
lemma allFit_of_keeps (keeps : out.Keeps name kind a) :
    AllFit layout ([out.nullable, out.unique, out.readonly, out.description, out.min, out.max,
        out.pattern] ++ out.default.toList ++ [out.refTarget] ++ out.enumValues.getD []) ↔
      AllFit layout (a.handedOn kind) := by
  rw [keeps.nullable, keeps.unique, keeps.readonly, keeps.default, keeps.refTarget,
    keeps.enumValues, keeps.min, keeps.max, keeps.pattern, keeps.description]
  unfold FieldAttributes.handedOn
  by_cases reference : kind = .reference <;> by_cases enumeration : kind = .enumeration <;>
    simp [reference, enumeration]

/-- Fields of which each has a text just if what it hands on has are so together. -/
lemma allFit_encodeAll_iff {fs : List Field} {outs : List ResolvedField}
    (each : List.Forall₂ (fun f out => out.encode.Fits layout ↔
      AllFit layout (f.handedOn (resolvedKind f))) fs outs) :
    AllFit layout (encodeAll outs) ↔ AllFit layout (Field.allHandedOn fs) := by
  rw [encodeAll_eq_map, Field.allHandedOn_eq_flatMap, AllFit.map_iff, AllFit.flatMap_iff]
  exact forall_mem_iff_of_forall₂ each fun _ _ iff => iff

/-- Whatever a field is resolved as, it has a text just if what it hands on has. -/
theorem ofKind_fits (f : Field) (name : Value) (kind : FieldKind) :
    Ensures anyFault (fun out => out.encode.Fits layout ↔ AllFit layout (f.handedOn kind))
      (ofKind f name kind) := by
  induction f using Field.induction_on generalizing name kind with
  | mk a items shape inItems inShape =>
    have elements : Ensures anyFault (fun out => AllFit layout (encodeAll out.toList) ↔
        AllFit layout (Field.allHandedOn items.toList)) (ofItems items) := by
      cases items with
      | none => simp [ofItems, Ensures, encodeAll, Field.allHandedOn]
      | some item =>
        refine (inItems item rfl (.text "item") (resolvedKind item)).map fun out iff => ?_
        simpa [encodeAll, Field.allHandedOn] using iff
    have parts : Ensures anyFault (fun out => AllFit layout (encodeAll (out.getD [])) ↔
        AllFit layout (Field.allHandedOn (shape.getD []))) (ofShape shape) := by
      rcases shape with _ | _ | ⟨part, rest⟩
      · simp [ofShape, Ensures, encodeAll, Field.allHandedOn]
      · simp [ofShape, Ensures, encodeAll, Field.allHandedOn]
      · rw [ofShape, ofFields_eq_mapM]
        exact (Ensures.mapM fun f mem => inShape _ rfl f mem f.name (resolvedKind f)).map
          fun _ => allFit_encodeAll_iff
    rw [ofKind_mk]
    refine .ite_bind (P := fun out => AllFit layout (encodeAll out.toList) ↔
      AllFit layout (if kind = .array then Field.allHandedOn items.toList else [])) (fun is => ?_)
      (fun other => ?_) fun items' onItems => ?_
    · simpa only [if_pos is] using elements
    · simp [if_neg other, Ensures, encodeAll]
    refine .ite_bind (P := fun out => AllFit layout (encodeAll (out.getD [])) ↔
      AllFit layout (if kind = .object then Field.allHandedOn (shape.getD []) else []))
      (fun is => ?_)
      (fun other => ?_) fun shape' onShape => ?_
    · simpa only [if_pos is] using parts
    · simp [if_neg other, Ensures, encodeAll]
    refine (assemble_keeps name ⟨a, items, shape⟩ kind items' shape').mono ?_
    rintro ⟨out, _, _⟩ ⟨keeps, rfl, rfl⟩
    rw [fits_encode_mk, allFit_of_keeps keeps, onItems, onShape, Field.handedOn_mk]
    simp only [AllFit.append_iff, and_assoc]

/-- A list of resolved fields fits a layout just where what is handed on of its declarations
does. -/
lemma ofFields_fits (fs : List Field) :
    Ensures anyFault (fun out => AllFit layout (encodeAll out) ↔
      AllFit layout (Field.allHandedOn fs))
      (ofFields fs) := by
  rw [ofFields_eq_mapM]
  exact (Ensures.mapM fun f _ => ofKind_fits f f.name (resolvedKind f)).mono
    fun _ => allFit_encodeAll_iff

end ResolvedField

/-! ### Diagnostics -/

lemma Value.IsText.fits {v : Value} (h : v.IsText) : v.Fits layout := by
  obtain ⟨s, rfl⟩ := h
  exact .scalar

lemma Diagnostic.fits_encode_iff (x : Diagnostic) :
    x.encode.Fits layout ↔ AllFit layout [x.entity, x.message, x.subject, x.suggestion] := by
  simp [encode]

lemma Diagnostic.On.fits {entity : String} {subject : Value} {x : Diagnostic}
    (on : x.On entity subject) (fits : subject.Fits layout) : x.encode.Fits layout := by
  rw [fits_encode_iff]
  simp [on.entity, on.message.fits, on.suggestion.fits, on.subject, fits]

/-! ### What is carried over -/

/-- All that the entities of the directory hand on has texts, and so have their tables. -/
structure Directory.Fits (layout : Json.Layout) (d : Directory) : Prop where
  entities : ∀ entry ∈ d.entities, AllFit layout entry.2.handedOn
  tables : ∀ name, (d.tableFor name).Fits layout

/-- The document forms of what is made from a declaration carry what the declaration hands on: they
have texts only if these values have. Conversely they have texts, as have the diagnostics, if these
values have and if all that the directory hands on has. -/
structure Carries (layout : Json.Layout) (d : Directory) (handedOn forms : List Value)
    (diagnostics : List Diagnostic) : Prop where
  only : AllFit layout forms → AllFit layout handedOn
  fits : d.Fits layout → AllFit layout handedOn →
    AllFit layout forms ∧ AllFit layout (diagnostics.map Diagnostic.encode)

namespace Carries

variable {handedOn handedOn' forms forms' : List Value} {diagnostics diagnostics' : List Diagnostic}

lemma nil : Carries layout d [] [] [] := ⟨fun _ => .nil, fun _ _ => ⟨.nil, .nil⟩⟩

/-- Two lists of forms carry together what they carry on their own. -/
lemma append (h : Carries layout d handedOn forms diagnostics)
    (h' : Carries layout d handedOn' forms' diagnostics') :
    Carries layout d (handedOn ++ handedOn') (forms ++ forms') (diagnostics ++ diagnostics') where
  only all := by
    rw [AllFit.append_iff] at all ⊢
    exact all.imp h.only h'.only
  fits known all := by
    rw [AllFit.append_iff] at all
    obtain ⟨forms, diagnostics⟩ := h.fits known all.1
    obtain ⟨forms', diagnostics'⟩ := h'.fits known all.2
    rw [List.map_append, AllFit.append_iff, AllFit.append_iff]
    exact ⟨⟨forms, forms'⟩, diagnostics, diagnostics'⟩

end Carries

/-! ### Relations -/

/-- An entity offers values of a layout if all that it hands on fits. -/
lemma Entity.offers_of_handedOn {e : Entity} (all : AllFit layout e.handedOn) :
    e.Offers (Value.Fits layout) := by
  simp only [Entity.handedOn, AllFit.append_iff, AllFit.map_iff, AllFit.flatMap_iff] at all
  obtain ⟨⟨⟨⟨⟨⟨⟨names, _⟩, relations⟩, _⟩, _⟩, _⟩, _⟩, _⟩ := all
  refine ⟨names, fun r mem _ => ?_⟩
  have own := relations r mem
  simp only [Relation.handedOn, AllFit.append_iff, AllFit.cons_iff] at own
  exact own.1.1.2.1

namespace ResolvedRelation

lemma fits_encode_iff (r : ResolvedRelation) :
    r.encode.Fits layout ↔ AllFit layout ([r.name, r.foreignKey, r.eager, r.localField, r.limit,
      r.otherKey] ++ (r.orderBy.map SortOrder.encode).toList) := by
  have noOrder (listed : Bool) : (SortOrder.encode ⟨[], listed⟩).Fits layout := by
    simp [SortOrder.encode, Entries.ofPairs, Json.allows_nil]
  rw [encode, Value.fits_record]
  cases r.through <;> rcases r.orderBy with _ | ⟨_ | _, listed⟩ <;>
    simp [Option.filter, noOrder] <;> tauto

variable {r : Relation} {out : ResolvedRelation}

/-- A relation that is written in a layout was declared with values that fit. -/
lemma Keeps.allFit_handedOn {P : Value → Prop} (kept : out.Keeps d P r)
    (fits : out.encode.Fits layout) : AllFit layout r.handedOn := by
  simp only [fits_encode_iff, AllFit.append_iff, AllFit.cons_iff, kept.name, kept.eager, kept.limit,
    kept.orderBy] at fits
  obtain ⟨⟨name, foreignKey, eager, -, limit, otherKey, -⟩, order⟩ := fits
  -- a key that is not declared is none, and has a text for that reason
  have ownKey : r.foreignKey.Fits layout :=
    Value.fits_of_given fun given => kept.declaredKey given ▸ foreignKey
  have ownOther (manyToMany : r.isManyToMany = true) : r.otherKey.Fits layout :=
    Value.fits_of_given fun given => kept.declaredOther manyToMany given ▸ otherKey
  unfold Relation.handedOn
  split_ifs with manyToMany
  · simp [name, ownKey, eager, limit, order, ownOther manyToMany]
  · simp [name, ownKey, eager, limit, order]

/-- A relation declared with values that fit is written in the layout. -/
lemma Keeps.fits_encode (kept : out.Keeps d (Value.Fits layout) r)
    (own : AllFit layout r.handedOn) :
    out.encode.Fits layout := by
  simp only [Relation.handedOn, AllFit.append_iff, AllFit.cons_iff] at own
  obtain ⟨⟨⟨name, -, eager, limit, -⟩, order⟩, -⟩ := own
  have localField : out.localField.Fits layout := by
    rcases kept.localField with none | same
    · simp [none]
    · exact same ▸ kept.foreignKey
  have otherKey : out.otherKey.Fits layout := by
    rcases kept.otherKey with none | fits
    · simp [none]
    · exact fits
  simp [fits_encode_iff, kept.name, kept.eager, kept.limit, kept.orderBy, name, kept.foreignKey,
    eager, localField, limit, otherKey, order]

/-- A relation hands on what its declaration says, and takes the rest from other entities. -/
lemma ofRelation_carries {fields : List Field} (names : ∀ f ∈ fields, f.name.Fits layout)
    (entity : String) (r : Relation) :
    Ensures anyFault (fun out => Carries layout d r.handedOn [out.1.encode] out.2)
      (ofRelation d entity fields r) := by
  cases ran : ofRelation d entity fields r with
  | error fault => trivial
  | ok out =>
    constructor
    · intro all
      obtain ⟨kept, -⟩ := (ofRelation_keeps_any entity fields r).of_eq_ok ran
      exact kept.allFit_handedOn (AllFit.cons_iff.1 all).1
    · intro known own
      have slots := own
      simp only [Relation.handedOn, AllFit.append_iff, AllFit.cons_iff] at slots
      obtain ⟨⟨⟨name, foreignKey, -⟩, -⟩, otherKey⟩ := slots
      have ownOther (manyToMany : r.isManyToMany = true) : r.otherKey.Fits layout := by
        simpa [manyToMany] using otherKey
      obtain ⟨kept, on⟩ := (ofRelation_keeps (fun _ => .scalar)
        (fun entry mem => Entity.offers_of_handedOn (known.entities entry mem)) names entity
        (fun _ => foreignKey) fun manyToMany _ => ownOther manyToMany).of_eq_ok ran
      rw [AllFit.cons_iff, AllFit.map_iff]
      exact ⟨⟨kept.fits_encode own, .nil⟩, fun x mem => (on x mem).fits name⟩

/-- The relations of an entity carry what is handed on of their declarations. -/
lemma ofRelations_carries {fields : List Field} (names : ∀ f ∈ fields, f.name.Fits layout)
    (entity : String) (relations : List Relation) :
    Ensures anyFault (fun out => Carries layout d (relations.flatMap Relation.handedOn)
      (out.1.map encode) out.2) (ofRelations d entity fields relations) := by
  induction relations with
  | nil => exact .nil
  | cons r rest ih =>
    unfold ofRelations
    exact (ofRelation_carries names entity r).bind fun out own => ih.bind fun outs more =>
      own.append more

end ResolvedRelation

/-! ### Procedures -/

namespace TypedProcedure

lemma unknownType_on (owner : String) (procedure subject : Value) (written : String) :
    (unknownType (.text owner) procedure subject written).On owner subject :=
  ⟨rfl, by simp [unknownType], rfl, ⟨_, rfl⟩, ⟨_, rfl⟩⟩

/-- The arguments of a procedure carry their names and defaults. -/
lemma typeArguments_carries (owner : String) (procedure : Value) (args : List Argument) :
    Ensures anyFault (fun out => Carries layout d (args.flatMap fun a => [a.name, a.default])
      (out.1.map TypedArgument.encode) out.2) (typeArguments (.text owner) procedure args) := by
  induction args with
  | nil => exact .nil
  | cons a rest ih =>
    have own : Ensures anyFault (fun out => Carries layout d [a.name, a.default]
        [out.1.encode] out.2) (typeArgument (.text owner) procedure a) := by
      unfold typeArgument
      refine .step fun written => ⟨fun all => ?_, fun _ all => ⟨?_, ?_⟩⟩
      · simpa [TypedArgument.encode] using all
      · simpa [TypedArgument.encode] using all
      · dsimp only
        split_ifs
        · exact .nil
        · have fits : (Value.text (procedure.shown ++ "." ++ a.name.shown)).Fits layout := .scalar
          simpa using (unknownType_on owner procedure _ written).fits fits
    unfold typeArguments
    exact own.bind fun out own => ih.bind fun outs more => own.append more

lemma fits_encode_iff (p : TypedProcedure) :
    p.encode.Fits layout ↔ AllFit layout ([p.name, p.sql, p.language, p.description] ++
      (p.entity.map (·.2)).toList ++ p.args.map TypedArgument.encode) := by
  rw [encode, Value.fits_record]
  cases p.entity <;> simp <;> tauto

lemma fits_returnTypeOf (known : d.Fits layout) (t : TypeExpression) :
    AllFit layout ((returnTypeOf d t).entity.map (·.2)).toList := by
  cases returned : (returnTypeOf d t).entity with
  | none => simp
  | some e =>
    obtain ⟨-, -, isTable, -⟩ := returnTypeOf_of_entity returned
    simpa [isTable] using known.tables e.1

/-- A procedure carries its arguments and its own values. -/
lemma ofProcedure_carries (owner : String) (p : Procedure) :
    Ensures anyFault (fun out => Carries layout d p.handedOn [out.1.encode] out.2)
      (ofProcedure d (some (.text owner)) p) := by
  unfold ofProcedure
  refine (typeArguments_carries owner p.name p.args).bind
    fun args (own : Carries layout d _ _ _) => ?_
  dsimp only
  constructor
  · intro all
    simp only [AllFit.cons_iff, fits_encode_iff, AllFit.append_iff] at all
    obtain ⟨⟨⟨slots, -⟩, args⟩, -⟩ := all
    rw [Procedure.handedOn, AllFit.append_iff]
    exact ⟨by simpa using slots, own.only args⟩
  · intro known all
    rw [Procedure.handedOn, AllFit.append_iff] at all
    obtain ⟨forms, diagnostics⟩ := own.fits known all.2
    have returned := fits_returnTypeOf known (TypeExpression.ofText p.returns)
    simp only [AllFit.cons_iff, fits_encode_iff, AllFit.append_iff]
    refine ⟨⟨⟨⟨by simpa using all.1, returned⟩, forms⟩, .nil⟩, ?_⟩
    rw [List.map_append, AllFit.append_iff]
    refine ⟨diagnostics, ?_⟩
    split_ifs
    · exact .nil
    · simpa using (unknownType_on owner p.name p.name p.returns).fits (AllFit.cons_iff.1 all.1).1

lemma ofProcedures_carries (owner : String) (procedures : List Procedure) :
    Ensures anyFault (fun out => Carries layout d (procedures.flatMap Procedure.handedOn)
      (out.1.map encode) out.2) (ofProcedures d (some (.text owner)) procedures) := by
  induction procedures with
  | nil => exact .nil
  | cons p rest ih =>
    unfold ofProcedures
    exact (ofProcedure_carries owner p).bind fun out own => ih.bind fun outs more => own.append more

end TypedProcedure

/-! ### Computed properties, indexes and policies -/

lemma TypedComputed.fits_encode_iff (c : TypedComputed) :
    c.encode.Fits layout ↔ c.name.Fits layout := by simp [encode]

namespace PlannedIndex

lemma fits_encode_iff (i : PlannedIndex) :
    i.encode.Fits layout ↔
      AllFit layout ([i.name, i.table, i.unique, i.using_, i.where_] ++ i.fields) := by
  rw [encode, Value.fits_record]
  simp
  tauto

/-- A planned index fits a layout if what is handed on of its declaration does. -/
lemma ofIndex_fits {table : Value} (fits : table.Fits layout) (i : Index) :
    Ensures anyFault (fun out => out.encode.Fits layout ↔ AllFit layout i.handedOn)
      (ofIndex table i) := by
  unfold ofIndex
  refine .ite_bind (P := fun name => name.Fits layout ↔ i.name.Fits layout)
    (fun _ => ensures_pure.2 Iff.rfl) (fun missing => ?_) fun name iff => ?_
  · refine (within_any _).map fun name _ => ?_
    have own : i.name.Fits layout := Value.fits_of_not_isGiven (by simpa using missing)
    simp [own]
  · simp [fits_encode_iff, Index.handedOn, fits, iff]

end PlannedIndex

namespace IndexPlan

/-- Indexes that are added for fields do not change whether a plan fits. -/
lemma fits_cover_iff {index : String → PlannedIndex}
    (fits : ∀ name, (index name).encode.Fits layout)
    (wanted : ResolvedField → Bool) (fields : List ResolvedField) (plan : List PlannedIndex) :
    AllFit layout ((cover index wanted fields plan).map PlannedIndex.encode) ↔
      AllFit layout (plan.map PlannedIndex.encode) := by
  unfold cover
  induction fields generalizing plan with
  | nil => rfl
  | cons f rest ih =>
    rw [List.foldl_cons, ih]
    split_ifs
    · simp [fits]
    · rfl

/-- The table stands in each index of a plan, and the declared indexes hand on the rest. -/
lemma make_fits (table : Value) (fields : List ResolvedField) (declared : List Index) :
    Ensures anyFault (fun plan => AllFit layout (table :: plan.map PlannedIndex.encode) ↔
      AllFit layout (table :: declared.flatMap Index.handedOn)) (make table fields declared) := by
  cases ran : make table fields declared with
  | error fault => trivial
  | ok plan =>
    rw [Ensures, AllFit.cons_iff, AllFit.cons_iff]
    refine and_congr_right fun fits => ?_
    unfold make at ran
    obtain ⟨explicit, declares, made⟩ := bind_eq_ok_iff.1 ran
    obtain rfl := Except.ok.inj made
    rw [fits_cover_iff, fits_cover_iff]
    · have all :=
        (Ensures.mapM (R := fun i out => out.encode.Fits layout ↔ AllFit layout i.handedOn)
        fun i _ => (PlannedIndex.ofIndex_fits fits i).bind fun out iff => .step fun _ =>
          ensures_pure.2 iff).of_eq_ok declares
      simpa using forall_mem_iff_of_forall₂ all fun _ _ iff => iff
    · simp [PlannedIndex.fits_encode_iff, PlannedIndex.ofReference, fits]
    · simp [PlannedIndex.fits_encode_iff, PlannedIndex.ofUnique, fits]

end IndexPlan

namespace EffectivePolicy

/-- The fragments of a policy are those that are given, under the names of their operations. -/
lemma fits_sql_iff (p : Policy) : (∀ op v, (op, v) ∈ (ofPolicy p).sql → v.Fits layout) ↔
    ∀ op ∈ Operation.all, (p.fragment op).Fits layout := by
  simp only [ofPolicy, List.mem_filterMap]
  constructor
  · intro all op mem
    exact Value.fits_of_given fun given => all op _ ⟨op, mem, if_pos given⟩
  · rintro all op v ⟨other, mem, is⟩
    split_ifs at is
    obtain ⟨rfl, rfl⟩ := Prod.mk.inj (Option.some.inj is)
    exact all _ mem

/-- An effective policy fits a layout if what is handed on of its declaration does. -/
lemma fits_encode_ofOption_iff (policy : Option Policy) :
    (ofOption policy).encode.Fits layout ↔
    AllFit layout (policy.toList.flatMap Policy.handedOn) := by
  cases policy with
  | none => simp [ofOption, encode]
  | some p =>
    have scope : (ofPolicy p).scope = p.scope := rfl
    have bypass : (ofPolicy p).bypass = p.bypass := rfl
    simp [ofOption, encode, Policy.handedOn, ← fits_sql_iff, scope, bypass, Scope.encode,
      Bypass.encode]

end EffectivePolicy

/-! ### Schemas -/

namespace Schema

/-- The diagnostics on dependencies are each on a field of the entity. -/
lemma fieldDependencies_on (entity : String) (fields : List ResolvedField) (found : List String) :
    Ensures anyFault (fun out => ∀ x ∈ out.2, ∃ field, x.On entity (.text field))
      (fieldDependencies d entity fields found) := by
  induction fields generalizing found with
  | nil => exact fun x mem => absurd mem List.not_mem_nil
  | cons f rest ih =>
    rw [fieldDependencies.eq_def]
    dsimp only
    split
    · refine .step fun written => ?_
      cases d.resolve written with
      | some name => exact ih _
      | none =>
        have own : (unknownReference entity f.name written).On entity (.text f.name) :=
          ⟨rfl, by simp [unknownReference], rfl, ⟨_, rfl⟩, ⟨_, rfl⟩⟩
        exact (ih found).bind fun out more => List.forall_mem_cons.2 ⟨⟨_, own⟩, more⟩
    · exact ih found

/-- A schema fits a layout if each of its parts and each value handed on does. -/
lemma fits_encode_iff (s : Schema) :
    s.encode.Fits layout ↔ AllFit layout (ResolvedField.encodeAll s.fields ++
      s.relations.map ResolvedRelation.encode ++ s.computed.map TypedComputed.encode ++
      [s.policy.encode] ++ s.tableName :: s.indexes.map PlannedIndex.encode ++
      s.procedures.map TypedProcedure.encode ++
      [s.timestamps, .list s.tags, s.module, s.group, .map s.metadata, s.description]) := by
  have metadata : FitEntries layout
      (if s.metadata.isEmpty then [] else [("metadata", Value.map s.metadata)]) ↔
        (Value.map s.metadata).Fits layout := by
    cases s.metadata with
    | nil => simp [Json.allows_nil]
    | cons => simp
  rw [encode, Value.fits_record]
  simp only [FitEntries.append_iff, metadata]
  simp [Value.fits_texts]
  tauto

/-- What a schema is made of, with the diagnostics on its relations, fields and procedures. -/
structure MadeFrom (d : Directory) (name : String) (e : Entity)
    (onRelations onFields onProcedures : List Diagnostic) (s : Schema) : Prop where
  fields : ResolvedField.ofFields e.fields = .ok s.fields
  relations :
    ResolvedRelation.ofRelations d name e.fields e.relations = .ok (s.relations, onRelations)
  dependsOn : dependencies d name s.fields s.relations = .ok (s.dependsOn, onFields)
  procedures : TypedProcedure.ofProcedures d (some (.text name)) e.procedures =
    .ok (s.procedures, onProcedures)
  computed : e.computed.mapM TypedComputed.ofComputed = .ok s.computed
  indexes : IndexPlan.make (d.tableFor name) s.fields e.indexes = .ok s.indexes
  policy : s.policy = .ofOption e.policy
  tableName : s.tableName = d.tableFor name
  timestamps : s.timestamps = e.timestamps
  tags : s.tags = e.tags
  module : s.module = e.module
  group : s.group = e.group
  metadata : s.metadata = e.metadata
  description : s.description = e.description

/-- A schema is made from its entity, and its diagnostics are those of the three kinds of parts. -/
lemma exists_madeFrom {name : String} {e : Entity} {out : Schema × List Diagnostic}
    (ran : ofEntity d name e = .ok out) : ∃ onRelations onFields onProcedures,
      out.1.MadeFrom d name e onRelations onFields onProcedures ∧
        out.2 = onRelations ++ onFields ++ onProcedures := by
  unfold ofEntity at ran
  obtain ⟨fields, resolved, ran⟩ := bind_eq_ok_iff.1 ran
  obtain ⟨⟨relations, onRelations⟩, related, ran⟩ := bind_eq_ok_iff.1 ran
  obtain ⟨⟨dependsOn, onFields⟩, depends, ran⟩ := bind_eq_ok_iff.1 ran
  obtain ⟨⟨procedures, onProcedures⟩, typed, ran⟩ := bind_eq_ok_iff.1 ran
  obtain ⟨computed, named, ran⟩ := bind_eq_ok_iff.1 ran
  obtain ⟨indexes, planned, ran⟩ := bind_eq_ok_iff.1 ran
  obtain rfl := Except.ok.inj ran
  exact ⟨onRelations, onFields, onProcedures,
    ⟨resolved, related, depends, typed, named, planned, rfl, rfl, rfl, rfl, rfl, rfl, rfl, rfl⟩,
    rfl⟩

namespace MadeFrom

variable {name : String} {e : Entity}
  {onRelations onFields onProcedures : List Diagnostic} {s : Schema}
  (h : s.MadeFrom d name e onRelations onFields onProcedures)

include h

lemma fits_names : ∀ f ∈ e.fields, f.name.Fits layout := by
  intro f mem
  have keeps := (ResolvedField.ofFields_keeps e.fields).of_eq_ok h.fields
  obtain ⟨_, -, kept⟩ := exists_of_mem_left keeps mem
  rw [kept.name]
  exact .scalar

lemma fits_fields_iff : AllFit layout (ResolvedField.encodeAll s.fields) ↔
    AllFit layout (Field.allHandedOn e.fields) :=
  (ResolvedField.ofFields_fits e.fields).of_eq_ok h.fields

lemma fits_computed_iff : AllFit layout (s.computed.map TypedComputed.encode) ↔
    AllFit layout (e.computed.map (·.name)) := by
  have kept := (Ensures.mapM fun c _ => TypedComputed.ofComputed_name c).of_eq_ok h.computed
  simp only [AllFit.map_iff, TypedComputed.fits_encode_iff]
  exact forall_mem_iff_of_forall₂ kept fun _ _ same => same ▸ Iff.rfl

lemma fits_onFields : AllFit layout (onFields.map Diagnostic.encode) := by
  obtain ⟨_, found, same⟩ := bind_eq_ok_iff.1 h.dependsOn
  obtain ⟨-, rfl⟩ := Prod.mk.inj (Except.ok.inj same)
  rw [AllFit.map_iff]
  intro x mem
  obtain ⟨field, on⟩ := (fieldDependencies_on name s.fields []).of_eq_ok found x mem
  exact on.fits .scalar

/-- The schema of an entity carries what the entity hands on, and its table. -/
theorem carries : Carries layout d (d.tableFor name :: e.handedOn) [s.encode]
    (onRelations ++ onFields ++ onProcedures) := by
  have relations : Carries layout d (e.relations.flatMap Relation.handedOn)
      (s.relations.map ResolvedRelation.encode) onRelations :=
    (ResolvedRelation.ofRelations_carries h.fits_names name e.relations).of_eq_ok h.relations
  have procedures : Carries layout d (e.procedures.flatMap Procedure.handedOn)
      (s.procedures.map TypedProcedure.encode) onProcedures :=
    (TypedProcedure.ofProcedures_carries name e.procedures).of_eq_ok h.procedures
  have indexes : AllFit layout (d.tableFor name :: s.indexes.map PlannedIndex.encode) ↔
      AllFit layout (d.tableFor name :: e.indexes.flatMap Index.handedOn) :=
    (IndexPlan.make_fits _ s.fields e.indexes).of_eq_ok h.indexes
  have policy : s.policy.encode.Fits layout ↔
      AllFit layout (e.policy.toList.flatMap Policy.handedOn) := by
    rw [h.policy, EffectivePolicy.fits_encode_ofOption_iff]
  rw [AllFit.cons_iff, AllFit.cons_iff] at indexes
  constructor
  · intro all
    simp only [AllFit.cons_iff, fits_encode_iff, AllFit.append_iff, h.fits_fields_iff,
      h.fits_computed_iff, policy, h.tableName, indexes, h.timestamps, h.tags, h.module, h.group,
      h.metadata, h.description] at all
    obtain ⟨⟨⟨⟨⟨⟨⟨fields, related⟩, computed⟩, policy, -⟩, table, indexes⟩, typed⟩, rest⟩, -⟩ := all
    simp only [Entity.handedOn, AllFit.cons_iff, AllFit.append_iff]
    exact ⟨table, ⟨⟨⟨⟨⟨⟨AllFit.map_iff.2 h.fits_names, fields⟩, relations.only related⟩, computed⟩,
      policy⟩, indexes⟩, procedures.only typed⟩, rest⟩
  · intro known all
    simp only [Entity.handedOn, AllFit.cons_iff, AllFit.append_iff] at all
    obtain ⟨table, ⟨⟨⟨⟨⟨⟨-, fields⟩, related⟩, computed⟩, policies⟩, planned⟩, typed⟩, rest⟩ := all
    obtain ⟨related, onRelations⟩ := relations.fits known related
    obtain ⟨typed, onProcedures⟩ := procedures.fits known typed
    simp only [AllFit.cons_iff, fits_encode_iff, AllFit.append_iff, List.map_append,
      h.fits_fields_iff, h.fits_computed_iff, policy, h.tableName, indexes, h.timestamps, h.tags,
      h.module, h.group,
      h.metadata, h.description]
    exact ⟨⟨⟨⟨⟨⟨⟨⟨fields, related⟩, computed⟩, policies, .nil⟩, table, planned⟩, typed⟩, rest⟩,
      .nil⟩, ⟨onRelations, h.fits_onFields⟩, onProcedures⟩

end MadeFrom

end Schema

end EntityModel
