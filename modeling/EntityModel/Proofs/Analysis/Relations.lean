import EntityModel.Analysis.ResolvedRelation
import EntityModel.Proofs.Analysis.Directory
import EntityModel.Proofs.Analysis.Fields
import EntityModel.Proofs.Analysis.Topics

/-!
# The analysis of relations

Nothing goes wrong in a relation between well-typed entities, whatever mistakes its author made: it
is always resolved. Its target is the entity that is meant, or else the reference as it is written.
The diagnostics on it are those that its declaration and its key call for.
-/

namespace EntityModel

open Outcome

variable {bound : Value → Prop} {allowed : Fault → Prop} {d : Directory}

/-! ### Foreign keys -/

namespace ForeignKey

attribute [local irreducible] Field.kind

/-- A reference field is looked up without a fault of another kind. -/
lemma findReference_within {fields : List Field} (h : ∀ f ∈ fields, f.WellTyped bound)
    (target : String) : Within allowed (findReference d target fields) := by
  induction fields with
  | nil => trivial
  | cons f rest ih =>
    obtain ⟨first, others⟩ := List.forall_mem_cons.1 h
    unfold findReference
    split_ifs with reference
    · rw [Bool.and_eq_true] at reference
      refine (first.attributes.target.isText reference.2).asText.bind fun _ _ => ?_
      split_ifs
      · trivial
      · exact ih others
    · exact ih others

/-- A field with a customary name is looked up without a fault of another kind. -/
lemma findNamed_within {fields : List Field} (h : ∀ f ∈ fields, f.WellTyped bound)
    (names : List String) : Within allowed (findNamed names fields) := by
  induction fields with
  | nil => trivial
  | cons f rest ih =>
    obtain ⟨first, others⟩ := List.forall_mem_cons.1 h
    unfold findNamed
    refine first.attributes.name.asText.bind fun _ _ => ?_
    split_ifs
    · trivial
    · exact ih others

/-- The search for a key among well-typed fields has an answer. -/
lemma find_within {fields : List Field} (h : ∀ f ∈ fields, f.WellTyped bound) (target : String) :
    Within allowed (find d fields target) := by
  unfold find
  refine (findReference_within h target).bind fun found _ => ?_
  cases found with
  | some _ => trivial
  | none => exact findNamed_within h _

/-- The key at the other end is looked up without a fault of another kind. -/
lemma findBack_within {fields : List Field} (h : ∀ f ∈ fields, f.WellTyped bound) (source : String)
    {relations : List Relation} (hr : ∀ r ∈ relations, r.WellTyped) :
    Within allowed (findBack d fields source relations) := by
  induction relations with
  | nil => trivial
  | cons back rest ih =>
    obtain ⟨first, others⟩ := List.forall_mem_cons.1 hr
    unfold findBack
    split
    · refine first.target.asText.bind fun _ _ => ?_
      split_ifs
      · trivial
      · refine (find_within h source).bind fun found _ => ?_
        cases found with
        | some _ => trivial
        | none => exact ih others
      · exact ih others
    · exact ih others

end ForeignKey

namespace ResolvedKey

/-- The diagnostics on the key of a relation are those that it calls for. -/
def Advises (entity : String) (r : Relation) (key : ResolvedKey) : Prop :=
  key.diagnostics.map Diagnostic.topic = key.source.topics (.text entity) r.name

/-- A belongs-to relation is resolved with the diagnostic on its key, if one is called for. -/
lemma ofBelongsTo_ensures {fields : List Field} (h : ∀ f ∈ fields, f.WellTyped bound)
    (entity : String) (r : Relation) (written target : String) :
    Ensures allowed (Advises entity r) (ofBelongsTo d entity fields r written target) := by
  unfold ofBelongsTo
  split_ifs
  · rfl
  · refine (ForeignKey.find_within h target).bind fun found _ => ?_
    cases found with
    | some _ => rfl
    | none => rfl

/-- A relation with its key at the other end is resolved with the diagnostic on its key. -/
lemma ofInverse_ensures {holder : Option (String × Entity)}
    (h : ∀ entry, holder = some entry → entry.2.WellTyped bound) (entity : String) (r : Relation)
    (kind : RelationKind) (target : String) :
    Ensures allowed (Advises entity r) (ofInverse d entity r kind target holder) := by
  unfold ofInverse
  dsimp only
  split_ifs
  · rfl
  · cases holder with
    | none => rfl
    | some entry =>
      have typed := h entry rfl
      refine (ForeignKey.findBack_within typed.fields entity typed.relations).bind fun back _ => ?_
      cases back with
      | some _ => rfl
      | none =>
        refine (ForeignKey.find_within typed.fields entity).bind fun found _ => ?_
        cases found with
        | some _ => rfl
        | none => rfl

end ResolvedKey

/-! ### Relations -/

variable {entities : List Entity} (lists : d.Lists entities)
  (typed : ∀ entry ∈ d.entities, entry.2.WellTyped bound)

include lists typed

/-- A join side is resolved with the diagnostics that its declaration calls for. -/
lemma JoinSide.ofRelation_ensures {r : Relation} (h : r.WellTyped)
    (entity written target : String) :
    Ensures allowed (fun join => (∀ entry, join.holder = some entry → entry.2.WellTyped bound) ∧
        join.diagnostics.map Diagnostic.topic = r.joinTopics d (.text entity))
      (ofRelation d entity r written target) := by
  have held : ∀ reference entry, d.get? reference = some entry → entry.2.WellTyped bound :=
    fun _ entry found => typed entry (Directory.get?_mem found)
  unfold ofRelation
  dsimp only
  split
  · rename_i through
    refine (h.through.isText through).asText.bind fun s isText => ?_
    have missing : d.misses r.through = (d.get? s).isNone := by
      rw [isText, Directory.misses_text, lists.isNone_get?]
    cases found : d.get? s with
    | none =>
      exact ⟨held written, by simp [Relation.joinTopics, through, missing, found, Diagnostic.topic]⟩
    | some entry =>
      have join := held s entry found
      dsimp only
      refine Ensures.ite_bind (P := fun _ => True) (fun _ => trivial)
        (fun _ => ForeignKey.find_within join.fields target) fun key _ => ?_
      exact ⟨fun e same =>
        Option.some.inj same ▸ join, by simp [Relation.joinTopics, missing, found]⟩
  · rename_i through
    exact ⟨held written, by simp [Relation.joinTopics, through]⟩

namespace ResolvedRelation

/-- What a resolved relation keeps of its declaration: its name, whether its key is on its own side,
and what its target means. -/
structure Resolves (d : Directory) (r : Relation) (out : ResolvedRelation) : Prop where
  name : out.name = r.name
  kind : out.kind = .belongsTo ↔ r.kind = .belongsTo
  target : ∃ written, r.target = .text written ∧
    out.target = (d.resolve written).getD written ∧ out.targetKnown = (d.resolve written).isSome

/-- A well-typed relation is resolved, with the diagnostics that it calls for. -/
theorem ofRelation_ensures {fields : List Field} (hf : ∀ f ∈ fields, f.WellTyped bound)
    {r : Relation} (h : r.WellTyped) (entity : String) :
    Ensures allowed (fun out => Resolves d r out.1 ∧
        out.2.map Diagnostic.topic = r.topics d (.text entity) ++ out.1.topics (.text entity))
      (ofRelation d entity fields r) := by
  unfold ofRelation
  refine h.target.asText.bind fun written isTarget => ?_
  dsimp only
  have missing : (if (d.resolve written).isNone then [unknownTarget entity r.name written]
      else []).map Diagnostic.topic =
      Topic.on (d.misses r.target) .unknownTarget (.text entity) r.name := by
    rw [map_topic_ite, isTarget, Directory.misses_text]
    rfl
  generalize (if (d.resolve written).isNone then [unknownTarget entity r.name written] else []) =
    unknown at missing
  split_ifs with belongsTo manyToMany
  · refine (ResolvedKey.ofBelongsTo_ensures hf entity r _ _).bind fun key advises => ?_
    rw [ensures_pure]
    refine ⟨⟨rfl, iff_of_true rfl belongsTo, written, isTarget, rfl, rfl⟩, ?_⟩
    simp [Relation.topics, missing, Relation.isManyToMany, belongsTo, topics,
      show _ = _ from advises]
  · refine (JoinSide.ofRelation_ensures lists typed h entity _ _).bind fun join joined => ?_
    obtain ⟨held, hJoin⟩ := joined
    refine (ResolvedKey.ofInverse_ensures held entity r _ _).bind fun key advises => ?_
    rw [ensures_pure]
    refine ⟨⟨rfl, iff_of_false (by simp) belongsTo, written, isTarget, rfl, rfl⟩, ?_⟩
    simp [Relation.topics, missing, manyToMany, hJoin, topics, show _ = _ from advises]
  · have held : ∀ entry, d.get? written = some entry → entry.2.WellTyped bound :=
      fun entry found => typed entry (Directory.get?_mem found)
    refine (ResolvedKey.ofInverse_ensures held entity r _ _).bind fun key advises => ?_
    rw [ensures_pure]
    refine ⟨⟨rfl, Iff.rfl, written, isTarget, rfl, rfl⟩, ?_⟩
    simp [Relation.topics, missing, manyToMany, topics, show _ = _ from advises]

/-- The relations of a well-typed entity are resolved, with the diagnostics that they call for. -/
theorem ofRelations_ensures {fields : List Field} (hf : ∀ f ∈ fields, f.WellTyped bound)
    {relations : List Relation} (h : ∀ r ∈ relations, r.WellTyped) (entity : String) :
    Ensures allowed (fun out => List.Forall₂ (Resolves d) relations out.1 ∧
        (out.2.map Diagnostic.topic).Perm
          (relations.flatMap (Relation.topics d (.text entity)) ++
            out.1.flatMap (topics (.text entity))))
      (ofRelations d entity fields relations) := by
  induction relations with
  | nil => exact ⟨List.Forall₂.nil, .nil⟩
  | cons r rest ih =>
    obtain ⟨first, others⟩ := List.forall_mem_cons.1 h
    unfold ofRelations
    refine (ofRelation_ensures lists typed hf first entity).bind fun out ⟨resolves, own⟩ => ?_
    refine (ih others).bind fun outs ⟨all, more⟩ => ?_
    rw [ensures_pure]
    refine ⟨List.Forall₂.cons resolves all, ?_⟩
    rw [List.map_append, own, List.flatMap_cons, List.flatMap_cons]
    exact Topic.perm_append more

end ResolvedRelation

end EntityModel
