import EntityModel.Analysis.Result
import EntityModel.Proofs.Analysis.Relations

/-!
# The analysis of entities

The schema of a well-typed entity, whatever its author got wrong, depends on exactly the entities
that are meant by its reference fields and its belongs-to relations, and on each of them once. The
diagnostics on an entity are those that its declarations and the keys of its relations call for.
They never report a dropped dependency, for those are found later.
-/

namespace EntityModel

open Outcome

variable {bound : Value → Prop} {allowed : Fault → Prop} {d : Directory} {entity : String}

/-! ### References -/

/-- The field refers to the entity that is meant by a text. -/
def Field.PointsAt (f : Field) (written : String) : Prop :=
  f.kind = some .reference ∧ f.target = .text written

/-- The relation has its key on its own side, for the entity that is meant by a text. -/
def Relation.PointsAt (r : Relation) (written : String) : Prop :=
  r.kind = .belongsTo ∧ r.target = .text written

/-- A field or a relation of the entity refers to the entity that is meant by a text. -/
def Entity.PointsAt (e : Entity) (written : String) : Prop :=
  (∃ f ∈ e.fields, f.PointsAt written) ∨ ∃ r ∈ e.relations, r.PointsAt written

namespace Field

variable {f : Field} {written : String}

lemma PointsAt.iff_eq (h : f.PointsAt written) (t : String) : f.PointsAt t ↔ t = written := by
  rw [PointsAt, h.2]
  simp [h.1, eq_comm]

lemma PointsAt.topics_eq (h : f.PointsAt written) (owner : Value) :
    f.topics d owner = Topic.on (d.resolve written).isNone .unknownTarget owner f.name := by
  simp [topics, h.1, h.2]

end Field

/-! ### Dependencies -/

namespace Schema

variable {found mid out : List String} {P Q : String → Prop}

/-- Dependencies, each once: those found before, and the targets other than the entity itself. -/
structure Collects (entity : String) (found : List String) (P : String → Prop)
    (out : List String) : Prop where
  single : out.Nodup
  mem : ∀ t, t ∈ out ↔ t ∈ found ∨ (t ≠ entity ∧ P t)

namespace Collects

lemma none (single : found.Nodup) (h : ∀ t, ¬ P t) : Collects entity found P found :=
  ⟨single, by simp [h]⟩

/-- A name more is among the collected dependencies. -/
lemma add (single : found.Nodup) {name : String} (h : ∀ t, P t ↔ t = name) :
    Collects entity found P (addDependency entity name found) := by
  unfold addDependency
  split_ifs with known
  · refine ⟨single, fun t => ?_⟩
    rw [h]
    simp only [Bool.or_eq_true, beq_iff_eq, List.contains_iff_mem] at known
    constructor
    · exact .inl
    · rintro (mem | ⟨other, rfl⟩)
      · exact mem
      · exact known.resolve_left other
  · simp only [Bool.or_eq_true, beq_iff_eq, List.contains_iff_mem, not_or] at known
    refine ⟨?_, fun t => ?_⟩
    · rw [List.nodup_append_comm]
      exact List.nodup_cons.2 ⟨known.2, single⟩
    · rw [List.mem_append, List.mem_singleton, h]
      constructor
      · rintro (mem | rfl)
        · exact .inl mem
        · exact .inr ⟨known.1, rfl⟩
      · exact Or.imp_right And.right

lemma trans (h : Collects entity found P mid) (h' : Collects entity mid Q out) :
    Collects entity found (fun t => P t ∨ Q t) out := by
  refine ⟨h'.single, fun t => ?_⟩
  rw [h'.mem, h.mem]
  tauto

lemma congr (h : Collects entity found P out) (same : ∀ t, P t ↔ Q t) :
    Collects entity found Q out :=
  ⟨h.single, fun t => by rw [h.mem, same]⟩

/-- What the first declaration refers to is collected before what the others refer to. -/
lemma cons {α : Type} {pointsAt : α → String → Prop} {first : α} {rest : List α}
    (h : Collects entity found (fun t =>
      ∃ written, pointsAt first written ∧ d.resolve written = some t)
      mid)
    (h' : Collects entity mid
      (fun t => ∃ x ∈ rest, ∃ written, pointsAt x written ∧ d.resolve written = some t) out) :
    Collects entity found
      (fun t => ∃ x ∈ first :: rest, ∃ written, pointsAt x written ∧ d.resolve written = some t)
      out :=
  (h.trans h').congr fun t => by simp only [List.mem_cons, exists_eq_or_imp]

end Collects

/-- A resolved field has a target as soon as its declaration refers to an entity. -/
lemma pointsAt_of_resolves {name : Value} {f : Field} {out : ResolvedField}
    (typed : f.WellTyped bound) (h : ResolvedField.Resolves name f out) :
    (∃ written, out.refTarget = .text written ∧ out.refTarget.isGiven = true ∧
      f.PointsAt written) ∨
    (out.refTarget.isGiven = false ∧ f.kind ≠ some .reference) := by
  by_cases reference : f.kind = some .reference
  · have given := typed.attributes.referenced reference
    obtain ⟨written, target⟩ := typed.attributes.target.isText given
    exact .inl ⟨written, by rw [h.reference reference, target],
      by rw [h.reference reference, given], reference, target⟩
  · exact .inr ⟨by rw [h.other reference]; rfl, reference⟩

/-- The dependencies through reference fields, and the diagnostics that the fields call for. -/
lemma fieldDependencies_ensures {fields : List Field} {outs : List ResolvedField}
    (typed : ∀ f ∈ fields, f.WellTyped bound)
    (h : List.Forall₂ (fun f => ResolvedField.Resolves f.name f) fields outs)
    (single : found.Nodup) :
    Ensures allowed (fun out =>
        out.2.map Diagnostic.topic = fields.flatMap (Field.topics d (.text entity)) ∧
        Collects entity found
          (fun t => ∃ f ∈ fields, ∃ written, f.PointsAt written ∧ d.resolve written = some t) out.1)
      (fieldDependencies d entity outs found) := by
  induction h generalizing found with
  | nil => exact ⟨rfl, .none single (by simp)⟩
  | @cons f out fields outs resolves rest ih =>
    obtain ⟨first, others⟩ := List.forall_mem_cons.1 typed
    rw [fieldDependencies.eq_def]
    dsimp only
    rcases pointsAt_of_resolves first resolves with ⟨written, target, given, points⟩ | ⟨none, other⟩
    · rw [if_pos given, target]
      dsimp only [Value.asText, bind, Except.bind]
      cases meant : d.resolve written with
      | some name =>
        have added : Collects entity found
            (fun t => ∃ w, f.PointsAt w ∧ d.resolve w = some t) (addDependency entity name found) :=
          .add single fun t => by simp [points.iff_eq, meant, eq_comm]
        refine (ih others added.single).mono fun out h => ?_
        obtain ⟨calls, more⟩ := h
        refine ⟨?_, ?_⟩
        · simp [calls, points.topics_eq, meant]
        · exact added.cons more
      | none =>
        have added :
            Collects entity found (fun t => ∃ w, f.PointsAt w ∧ d.resolve w = some t) found :=
          .none single fun t => by simp [points.iff_eq, meant]
        refine (ih others single).bind fun out h => ?_
        obtain ⟨calls, more⟩ := h
        refine ⟨?_, ?_⟩
        · simp [calls, points.topics_eq, meant, Diagnostic.topic, unknownReference, resolves.name]
        · exact added.cons more
    · rw [if_neg (by simp [none])]
      have added :
          Collects entity found (fun t => ∃ w, f.PointsAt w ∧ d.resolve w = some t) found :=
        .none single fun t => by simp [Field.PointsAt, other]
      refine (ih others single).mono fun out h => ?_
      obtain ⟨calls, more⟩ := h
      refine ⟨?_, ?_⟩
      · simp [calls, Field.topics, other]
      · exact added.cons more

/-- The dependencies through belongs-to relations. -/
lemma relationDependencies_collects {relations : List Relation} {outs : List ResolvedRelation}
    (h : List.Forall₂ (ResolvedRelation.Resolves d) relations outs) (single : found.Nodup) :
    Collects entity found
      (fun t => ∃ r ∈ relations, ∃ written, r.PointsAt written ∧ d.resolve written = some t)
      (relationDependencies entity outs found) := by
  induction h generalizing found with
  | nil => exact .none single (by simp)
  | @cons r out relations outs resolves rest ih =>
    obtain ⟨written, target, meant, known⟩ := resolves.target
    have points : ∀ w, r.PointsAt w ↔ r.kind = .belongsTo ∧ w = written := by
      intro w
      rw [Relation.PointsAt, target]
      simp [eq_comm]
    have added : Collects entity found (fun t => ∃ w, r.PointsAt w ∧ d.resolve w = some t)
        (if out.kind = .belongsTo && out.targetKnown then addDependency entity out.target found
          else found) := by
      split_ifs with reference
      · simp only [Bool.and_eq_true, decide_eq_true_eq, resolves.kind, known,
          Option.isSome_iff_exists] at reference
        obtain ⟨belongsTo, name, isName⟩ := reference
        refine .add single fun t => ?_
        simp [points, belongsTo, meant, isName, eq_comm]
      · refine .none single ?_
        rintro t ⟨w, pointsAt, isName⟩
        obtain ⟨belongsTo, rfl⟩ := (points w).1 pointsAt
        simp [resolves.kind, belongsTo, known, isName] at reference
    exact added.cons (ih added.single)

/-- An entity depends on what its references mean, but for itself; the diagnostics are those that
its fields call for. -/
theorem dependencies_ensures {e : Entity} {fields : List ResolvedField}
    {relations : List ResolvedRelation} (typed : ∀ f ∈ e.fields, f.WellTyped bound)
    (hf : List.Forall₂ (fun f => ResolvedField.Resolves f.name f) e.fields fields)
    (hr : List.Forall₂ (ResolvedRelation.Resolves d) e.relations relations) :
    Ensures allowed (fun out =>
        out.2.map Diagnostic.topic = e.fields.flatMap (Field.topics d (.text entity)) ∧
        Collects entity [] (fun t => ∃ written, e.PointsAt written ∧ d.resolve written = some t)
          out.1)
      (dependencies d entity fields relations) := by
  unfold dependencies
  refine (fieldDependencies_ensures typed hf List.nodup_nil).bind fun out ⟨calls, byFields⟩ => ?_
  rw [ensures_pure]
  refine ⟨calls,
    (byFields.trans (relationDependencies_collects hr byFields.single)).congr fun t => ?_⟩
  simp only [Entity.PointsAt]
  constructor
  · rintro (⟨f, mem, written, points, meant⟩ | ⟨r, mem, written, points, meant⟩)
    · exact ⟨written, .inl ⟨f, mem, points⟩, meant⟩
    · exact ⟨written, .inr ⟨r, mem, points⟩, meant⟩
  · rintro ⟨written, ⟨f, mem, points⟩ | ⟨r, mem, points⟩, meant⟩
    · exact .inl ⟨f, mem, written, points, meant⟩
    · exact .inr ⟨r, mem, written, points, meant⟩

end Schema

/-! ### Procedures, computed properties and indexes -/

namespace TypedProcedure

/-- An argument is typed with the report that its declaration calls for. -/
lemma typeArgument_ensures {a : Argument} (h : a.type.IsText) (owner procedure : Value) :
    Ensures allowed (fun out => out.2.map Diagnostic.topic = a.topics owner procedure)
      (typeArgument owner procedure a) := by
  unfold typeArgument
  refine h.asText.bind fun written isText => ?_
  have known : a.hasKnownType = (TypeExpression.ofText written).isKnownScalar := by
    simp [Argument.hasKnownType, isText, Value.text?]
  rw [ensures_pure, map_topic_ite_not, Argument.topics, known]
  rfl

/-- Arguments are typed with their reports, in order. -/
lemma typeArguments_ensures {args : List Argument} (h : ∀ a ∈ args, a.type.IsText)
    (owner procedure : Value) :
    Ensures allowed
      (fun out => out.2.map Diagnostic.topic = args.flatMap (Argument.topics owner procedure))
      (typeArguments owner procedure args) := by
  induction args with
  | nil => rfl
  | cons a rest ih =>
    obtain ⟨first, others⟩ := List.forall_mem_cons.1 h
    unfold typeArguments
    refine (typeArgument_ensures first owner procedure).bind fun out own => ?_
    refine (ih others).bind fun outs more => ?_
    rw [ensures_pure, List.map_append, own, more, List.flatMap_cons]

/-- A return type is known if nothing, an entity or a known scalar is returned. -/
lemma isKnown_returnTypeOf (p : Procedure) :
    (returnTypeOf d (TypeExpression.ofText p.returns)).isKnown = p.hasKnownReturn d := by
  unfold returnTypeOf Procedure.hasKnownReturn
  split_ifs with void isEntity <;> simp [*]

lemma ofProcedure_ensures {p : Procedure} (h : ∀ a ∈ p.args, a.type.IsText) (owner : Value) :
    Ensures allowed (fun out => out.2.map Diagnostic.topic = p.topics d owner)
      (ofProcedure d (some owner) p) := by
  unfold ofProcedure
  refine (typeArguments_ensures h _ _).bind fun args own => ?_
  rw [ensures_pure, List.map_append, own, isKnown_returnTypeOf, map_topic_ite_not, Procedure.topics]
  rfl

/-- The procedures of an entity are typed, with the diagnostics that they call for. -/
lemma ofProcedures_ensures {procedures : List Procedure}
    (h : ∀ p ∈ procedures, ∀ a ∈ p.args, a.type.IsText) (owner : Value) :
    Ensures allowed (fun out =>
      out.2.map Diagnostic.topic = procedures.flatMap (Procedure.topics d owner))
      (ofProcedures d (some owner) procedures) := by
  induction procedures with
  | nil => rfl
  | cons p rest ih =>
    obtain ⟨first, others⟩ := List.forall_mem_cons.1 h
    unfold ofProcedures
    refine (ofProcedure_ensures first owner).bind fun out own => ?_
    refine (ih others).bind fun outs more => ?_
    rw [ensures_pure, List.map_append, own, more, List.flatMap_cons]

end TypedProcedure

/-- A computed field is typed without a fault of another kind. -/
lemma TypedComputed.ofComputed_within {c : Computed} (h : c.WellTyped) :
    Within allowed (ofComputed c) := by
  unfold ofComputed make
  dsimp only
  refine Ensures.ite_bind (fun given => (h.type.isText given).asText.map_within) (fun _ => trivial)
    fun known _ => ?_
  cases known with
  | some _ => trivial
  | none => exact h.name.asText.bind fun _ _ => trivial

/-- A declared index is planned without a fault of another kind. -/
lemma PlannedIndex.ofIndex_within {i : Index} (h : ∀ v ∈ i.fields, v.IsText) (table : Value) :
    Within allowed (ofIndex table i) := by
  have texts : ∀ v ∈ i.fields, Within allowed v.asText := fun v mem => (h v mem).asText.within
  have named : Within allowed (declaredName table i.fields) :=
    (Ensures.mapM texts).bind fun _ _ => trivial
  unfold ofIndex
  dsimp only
  exact Ensures.ite_bind (P := fun _ => True) (fun _ => trivial) (fun _ => named.map_within)
    fun _ _ => trivial

/-- The indexes of a table are planned without a fault of another kind. -/
lemma IndexPlan.make_within {declared : List Index} (h : ∀ i ∈ declared, ∀ v ∈ i.fields, v.IsText)
    (table : Value) (fields : List ResolvedField) :
    Within allowed (make table fields declared) := by
  unfold make
  refine Ensures.bind (P := fun _ => True) ?_ fun _ _ => trivial
  refine (Ensures.mapM (R := fun _ _ => True) fun i mem => ?_).within
  refine (PlannedIndex.ofIndex_within (h i mem) table).bind fun _ _ => ?_
  have scalars : ∀ v ∈ i.fields, Within allowed v.asScalar := fun v isField =>
    (h i mem v isField).asScalar
  exact (Ensures.mapM scalars).bind fun _ _ => trivial

/-! ### Schemas -/

namespace Schema

/-- What the schema of an entity has to be: it has the name of the entity and its relations, depends
on what the references of the entity mean, and has a known target only where a reference means
one. -/
structure Describes (d : Directory) (entry : String × Entity) (schema : Schema) : Prop where
  name : schema.name = entry.1
  relations : schema.relations.map (·.name) = entry.2.relations.map (·.name)
  dependsOn : Collects entry.1 []
    (fun t => ∃ written, entry.2.PointsAt written ∧ d.resolve written = some t) schema.dependsOn
  known : ∀ r ∈ schema.relations, r.targetKnown = true →
    ∃ written, d.resolve written = some r.target

/-- A known target of a resolved relation is what its written target means. -/
lemma known_of_resolves {relations : List Relation} {outs : List ResolvedRelation}
    (h : List.Forall₂ (ResolvedRelation.Resolves d) relations outs) {out : ResolvedRelation}
    (mem : out ∈ outs) (known : out.targetKnown = true) :
    ∃ written, d.resolve written = some out.target := by
  obtain ⟨r, _, resolves⟩ := exists_of_mem_right h mem
  obtain ⟨written, _, target, isKnown⟩ := resolves.target
  obtain ⟨name, meant⟩ := Option.isSome_iff_exists.1 (isKnown ▸ known)
  exact ⟨written, by rw [target, meant, Option.getD_some]⟩

variable {entities : List Entity} (lists : d.Lists entities)
  (readable : ∀ v, bound v → v.Readable allowed)
  (typed : ∀ entry ∈ d.entities, entry.2.WellTyped bound)

include lists readable typed

/-- A well-typed entity has a schema that describes it, with the diagnostics that it calls for,
unless a bound cannot be read. -/
theorem ofEntity_ensures {entry : String × Entity} (mem : entry ∈ d.entities) :
    Ensures allowed (fun out => Describes d entry out.1 ∧
        (out.2.map Diagnostic.topic).Perm (entry.2.topics d ++ out.1.keyTopics))
      (ofEntity d entry.1 entry.2) := by
  have h := typed entry mem
  unfold ofEntity
  dsimp only
  refine (ResolvedField.ofFields_ensures_of_wellTyped readable h.fields).bind fun fields hf => ?_
  refine (ResolvedRelation.ofRelations_ensures lists typed h.fields h.relations entry.1).bind
    fun relations ⟨hr, onRelations⟩ => ?_
  refine (dependencies_ensures h.fields hf hr).bind fun dependsOn ⟨onFields, hd⟩ => ?_
  refine (TypedProcedure.ofProcedures_ensures h.procedures _).bind fun procedures onProcedures => ?_
  refine (Ensures.mapM (R := fun _ _ => True) fun c mem =>
    TypedComputed.ofComputed_within (h.computed c mem)).bind fun computed _ => ?_
  refine (IndexPlan.make_within h.indexes _ fields).bind fun indexes _ => ?_
  rw [ensures_pure]
  refine ⟨⟨rfl, map_eq_map hr fun _ _ resolves => resolves.name, hd, fun r =>
    known_of_resolves hr⟩, ?_⟩
  rw [List.map_append, List.map_append, onFields, onProcedures, Entity.topics,
    lists.named entry mem]
  -- the diagnostics on keys arise with the relations and are counted behind all others
  exact ((onRelations.append_right _).append_right _).trans Topic.perm_keys_last

/-- Well-typed entities have schemas that describe them, with the diagnostics that they call for,
unless a bound cannot be read. -/
theorem ofEntities_ensures {entries : List (String × Entity)} (sub : entries ⊆ d.entities) :
    Ensures allowed (fun out => List.Forall₂ (Describes d) entries out.1 ∧
        (out.2.map Diagnostic.topic).Perm
          (entries.flatMap (fun entry => entry.2.topics d) ++ out.1.flatMap keyTopics))
      (ofEntities d entries) := by
  induction entries with
  | nil => exact ⟨List.Forall₂.nil, .nil⟩
  | cons entry rest ih =>
    obtain ⟨mem, sub⟩ := List.cons_subset.1 sub
    unfold ofEntities
    refine (ofEntity_ensures lists readable typed mem).bind fun out ⟨describes, own⟩ => ?_
    refine (ih sub).bind fun outs ⟨all, more⟩ => ?_
    rw [ensures_pure]
    refine ⟨List.Forall₂.cons describes all, ?_⟩
    rw [List.map_append, List.flatMap_cons, List.flatMap_cons]
    exact (own.append_right _).trans (Topic.perm_append more)

end Schema

end EntityModel
