import EntityModel.Proofs.Consistency
import EntityModel.Proofs.EntityRoundTrip
import EntityModel.Proofs.JoinKeys

/-!
# The two columns of a join entity

A join entity with a reference to each side gives a many-to-many relation two keys: the first
reference to the declaring entity and the first one to the target. Fields of an entity have distinct
names, so these are two columns as long as the relation goes to another entity. A relation from an
entity to itself has one column for both, however many references the join entity has.
-/

namespace EntityModel

open Outcome
open AnalysisResult (reference reference_wellTyped)

variable {d : Directory} {entities : List Entity} {options : Options}

/-! ### Distinct fields -/

/-- Names that pass the check are distinct and none of them has come before. -/
lemma Entity.nodup_of_checkNames {part : NamedPart} {entity : Value} {names : List Value}
    (texts : ∀ name ∈ names, name.IsText) {seen : List Scalar}
    (ok : checkNames part entity seen names = .ok ()) :
    names.Nodup ∧ ∀ key ∈ seen, .scalar key ∉ names := by
  induction names generalizing seen with
  | nil => simp
  | cons name rest ih =>
    obtain ⟨⟨s, rfl⟩, others⟩ := List.forall_mem_cons.1 texts
    rw [checkNames, Value.asScalar, ok_bind] at ok
    by_cases repeated : seen.any (Scalar.text s).same = true
    · rw [if_pos repeated] at ok
      exact nomatch ok
    · rw [if_neg repeated] at ok
      obtain ⟨distinct, unseen⟩ := ih others ok
      obtain ⟨here, before⟩ := List.forall_mem_cons.1 unseen
      refine ⟨List.nodup_cons.2 ⟨here, distinct⟩, fun key mem => ?_⟩
      rw [List.mem_cons, not_or]
      refine ⟨fun eq => repeated ?_, before key mem⟩
      rw [Value.scalar.injEq] at eq
      exact List.any_eq_true.2 ⟨key, mem, by simp [eq, Scalar.same]⟩

/-- The fields of an entity that is accepted have distinct names. -/
lemma Entity.nodup_fields {e : Entity} (accepted : e.checked = .ok e)
    (typed : e.WellTyped Value.IsNumber) : (e.fields.map (·.name)).Nodup := by
  have texts : ∀ name ∈ e.fields.map (·.name), name.IsText := by
    rw [List.forall_mem_map]
    exact fun f mem => (typed.fields f mem).attributes.name
  exact (nodup_of_checkNames texts ((checked_eq_ok_iff e).1 accepted).fields).1

/-! ### The two references -/

/-- A field refers to an entity of the directory if its target means that entity. -/
lemma Field.refersTo_iff (lists : d.Lists entities) {name : String} (known : name ∈ d.names)
    {f : Field} :
    f.refersTo d name = true ↔ ∃ written, f.PointsAt written ∧ d.resolve written = some name := by
  simp only [refersTo, Bool.and_eq_true, decide_eq_true_eq, Option.any_eq_true,
    Value.text?_eq_some_iff, lists.isMeant_iff known, PointsAt]
  constructor
  · rintro ⟨reference, written, target, means⟩
    exact ⟨written, ⟨reference, target⟩, means⟩
  · rintro ⟨written, ⟨reference, target⟩, means⟩
    exact ⟨reference, written, target, means⟩

/-- Among fields of distinct names the first references to two entities have distinct names exactly
if the entities are distinct. -/
lemma Field.name_ne_iff_of_refersTo (lists : d.Lists entities) {fields : List Field}
    (distinct : (fields.map (·.name)).Nodup) {nameA nameB : String} (knownA : nameA ∈ d.names)
    (knownB : nameB ∈ d.names) {f g : Field} (firstA : fields.find? (·.refersTo d nameA) = some f)
    (firstB : fields.find? (·.refersTo d nameB) = some g) : f.name ≠ g.name ↔ nameA ≠ nameB := by
  refine not_congr ⟨fun same => ?_, ?_⟩
  · have eq : f = g := List.inj_on_of_nodup_map distinct (List.mem_of_find?_eq_some firstA)
      (List.mem_of_find?_eq_some firstB) same
    obtain ⟨written, points, means⟩ := (refersTo_iff lists knownA).1 (List.find?_some firstA)
    obtain ⟨written', points', means'⟩ := (refersTo_iff lists knownB).1 (List.find?_some firstB)
    have target := points.2
    rw [eq, points'.2] at target
    obtain rfl : written' = written := by simpa using target
    exact Option.some.inj (means.symm.trans means')
  · rintro rfl
    rw [Option.some.inj (firstA.symm.trans firstB)]

namespace ResolvedRelation

/-- A many-to-many relation without keys of its own, through an entity that refers to both sides and
declares no key, has as its keys the first reference to the declaring entity and the first one to
the target. They are different columns exactly if these are different entities. -/
theorem foreignKey_ne_otherKey_iff (typed : ∀ e ∈ entities, e.WellTyped Value.IsNumber)
    (built : Directory.build entities options = .ok d)
    {a join : Entity} (memA : a ∈ entities) (memJoin : join ∈ entities)
    {nameA nameB nameJoin written : String} (isNameA : a.name = .text nameA)
    (isNameJoin : join.name = .text nameJoin) (accepted : join.checked = .ok join) {r : Relation}
    (joins : r.Joins d written nameB nameJoin)
    (undeclared : ∀ back ∈ join.relations, back.kind = .belongsTo → back.foreignKey.isGiven = false)
    (toA : ∃ f ∈ join.fields, ∃ target, f.PointsAt target ∧ d.resolve target = some nameA)
    (toB : ∃ g ∈ join.fields, ∃ target, g.PointsAt target ∧ d.resolve target = some nameB) :
    ∃ f g out diagnostics, join.fields.find? (·.refersTo d nameA) = some f ∧
      join.fields.find? (·.refersTo d nameB) = some g ∧
      ofRelation d nameA a.fields r = .ok (out, diagnostics) ∧
      out.foreignKey = f.name ∧ out.otherKey = g.name ∧
      (out.foreignKey ≠ out.otherKey ↔ nameA ≠ nameB) := by
  have lists : d.Lists entities :=
    ((Directory.build_ensures (fun e mem => (typed e mem).name) options).of_eq_ok built).2
  have isEntity : (nameJoin, join) ∈ d.entities := lists.entry_mem memJoin isNameJoin
  have knownA : nameA ∈ d.names := lists.mem_names.2 ⟨a, memA, isNameA⟩
  have knownB : nameB ∈ d.names := lists.resolve_mem joins.means
  have first : ∀ name ∈ d.names,
      (∃ f ∈ join.fields, ∃ target, f.PointsAt target ∧ d.resolve target = some name) →
      ∃ f, join.fields.find? (·.refersTo d name) = some f := by
    rintro name known ⟨f, mem, points⟩
    rw [← Option.isSome_iff_exists, List.find?_isSome]
    exact ⟨f, mem, (Field.refersTo_iff lists known).2 points⟩
  obtain ⟨f, firstA⟩ := first nameA knownA toA
  obtain ⟨g, firstB⟩ := first nameB knownB toB
  have search := ForeignKey.find_eq (d := d) (typed join memJoin).fields
  obtain ⟨out, diagnostics, ok, isKey, isOther⟩ :=
    ofRelation_joins lists isEntity joins nameA a.fields
    (ForeignKey.findBack_eq_findSome? (typed join memJoin).relations (search nameA)) (search nameA)
    (search nameB)
  have own : ForeignKey.across d nameA join = some f.name := by
    rw [ForeignKey.across_of_undeclared, ForeignKey.among_of_refersTo firstA]
    intro back mem points
    rw [Relation.belongsBackTo, Bool.and_eq_true, decide_eq_true_eq] at points
    exact undeclared back mem points.1
  rw [← ForeignKey.across, own] at isKey
  rw [ForeignKey.among_of_refersTo firstB] at isOther
  refine ⟨f, g, out, diagnostics, firstA, firstB, ok, isKey, isOther, ?_⟩
  rw [isKey, isOther]
  exact Field.name_ne_iff_of_refersTo lists
    (Entity.nodup_fields accepted (typed join memJoin)) knownA knownB firstA firstB

/-! ### Examples -/

/-- The entity that joins posts and tags refers to both. -/
def tagging : Entity where
  name := .text "postTag"
  fields := [reference "label" "Tags", reference "entry" "post"]

/-- Posts with tags, tags, and the entity that joins them. -/
def labelled : List Entity :=
  [{ name := .text "post", relations := [tags] }, { name := .text "tag" }, tagging]

lemma labelled_resolve : (Directory.build labelled {}).toOption.map (fun d =>
      ["tag", "postTag", "Tags", "post"].map d.resolve) =
    some [some "tag", some "postTag", some "tag", some "post"] := by
  rfl

/-- The labelled entities are well-typed. -/
lemma labelled_wellTyped : ∀ e ∈ labelled, e.WellTyped Value.IsNumber := by
  have tags_wellTyped : tags.WellTyped := ⟨⟨_, rfl⟩, .inr ⟨_, rfl⟩⟩
  simp only [labelled, List.forall_mem_cons, List.not_mem_nil, false_imp_iff,
    implies_true, and_true]
  refine ⟨⟨⟨_, rfl⟩, rfl, by simp, by simpa using tags_wellTyped, by simp, by simp, by simp⟩,
    ⟨⟨_, rfl⟩, rfl, by simp, by simp, by simp, by simp, by simp⟩,
    ⟨_, rfl⟩, rfl, by simp [tagging, reference_wellTyped], by simp [tagging], by simp [tagging],
    by simp [tagging], by simp [tagging]⟩

/-- The tags of a labelled post have two different keys. -/
theorem tags_foreignKey_ne : ∃ d out diagnostics, Directory.build labelled {} = .ok d ∧
    ofRelation d "post" [] tags = .ok (out, diagnostics) ∧ out.foreignKey ≠ out.otherKey := by
  obtain ⟨d, built, resolved⟩ := exists_eq_ok_of_toOption labelled_resolve
  simp only [List.map_cons, List.map_nil, List.cons.injEq, and_true] at resolved
  obtain ⟨tag, join, toTag, toPost⟩ := resolved
  have joins : tags.Joins d "tag" "tag" "postTag" := ⟨rfl, rfl, tag, rfl, ⟨_, rfl, join⟩, rfl, rfl⟩
  have accepted : tagging.checked = .ok tagging := by rfl
  have kind : FieldKind.lookup "ref" = some .reference := by rfl
  have memPost : { name := .text "post", relations := [tags] } ∈ labelled := by simp [labelled]
  have memJoin : tagging ∈ labelled := by simp [labelled]
  obtain ⟨-, -, out, diagnostics, -, -, ok, -, -, differ⟩ := foreignKey_ne_otherKey_iff
    labelled_wellTyped built memPost memJoin rfl rfl accepted joins (by simp [tagging])
    ⟨reference "entry" "post", by simp [tagging], "post", ⟨kind, rfl⟩, toPost⟩
    ⟨reference "label" "Tags", by simp [tagging], "Tags", ⟨kind, rfl⟩, toTag⟩
  exact ⟨d, out, diagnostics, built, ok, differ.2 (by decide)⟩

def followers : Relation where
  name := .text "followers"
  kind := .manyToMany
  target := .text "user"
  through := .text "follow"

/-- The entity that joins users refers to the one who follows and to the one who is followed. -/
def follow : Entity where
  name := .text "follow"
  fields := [reference "followerId" "user", reference "followedId" "user"]

/-- Users and who follows whom. -/
def following : List Entity := [{ name := .text "user", relations := [followers] }, follow]

/-- In the example the join entity has two references to users, and yet both keys are the first. -/
theorem followers_keys_eq :
    (Directory.build following {}).toOption.map (fun d =>
      ["user", "follow"].map d.resolve) = some [some "user", some "follow"] ∧
    (AnalysisResult.analyze following {}).toOption.map (fun result =>
      result.schemas.map fun schema => (schema.name, schema.relations.map fun r =>
        (r.foreignKey.text?, r.otherKey.text?))) =
    some [("user", [(some "followerId", some "followerId")]), ("follow", [])] := by
  constructor
  · rfl
  · decide +kernel

end ResolvedRelation

end EntityModel
