import EntityModel.Proofs.ForeignKeys

/-!
# Agreement of join keys

Two entities with a many-to-many relation each to the other name the columns of their join entity
twice: what is the foreign key on one side is the other key on the other side. The foreign key is
looked for among the belongs-to relations of the join entity first, the other key among its fields
only. So the two sides differ where the join entity declares a key, unless it is the one that is
found; and, where nothing is found, if the target is written in a way that gives another default
name.
-/

namespace EntityModel

open Outcome

variable {d : Directory} {entities : List Entity} {options : Options}

/-- The foreign key and the other key for the same entity are the same column of its join entity,
given what is found among the fields of the join entity: then no other key than that is declared by
the first relation that belongs to the entity; and if nothing is found, a declared key is the
default name for the target as it is written, or without one both default names are the same. -/
def JoinKeysAgree (d : Directory) (join : Entity) (name written : String) : Option Value → Prop
  | some key => ∀ back ∈ (Relation.belongingTo d name join.relations).head?,
      back.foreignKey.isGiven = true → back.foreignKey = key
  | none =>
    match (Relation.belongingTo d name join.relations).find? (·.foreignKey.isGiven) with
    | some back => back.foreignKey = .text (ForeignKey.defaultName written)
    | none => ForeignKey.defaultName name = ForeignKey.defaultName written

/-- The two keys agree if the join entity declares none and both default names are the same. -/
lemma joinKeysAgree_of_undeclared {join : Entity} {name written : String}
    (undeclared : ∀ back ∈ join.relations, back.foreignKey.isGiven = false)
    (same : ForeignKey.defaultName name = ForeignKey.defaultName written) (found : Option Value) :
    JoinKeysAgree d join name written found := by
  have absent : ∀ back ∈ Relation.belongingTo d name join.relations,
      ¬ back.foreignKey.isGiven = true := fun back mem => by
    simp [undeclared back (List.mem_filter.1 mem).1]
  cases found with
  | some key => exact fun back mem given => absurd given (absent back (List.mem_of_head? mem))
  | none =>
    rw [JoinKeysAgree, List.find?_eq_none.2 absent]
    exact same

/-- Both searches give the same key exactly if the two keys agree. -/
lemma joinKeys_eq_iff {join : Entity} {name written : String} {found : Option Value} :
    (((Relation.belongingTo d name join.relations).findSome? fun r =>
        if r.foreignKey.isGiven then some r.foreignKey else found).or found).getD
        (.text (ForeignKey.defaultName name)) =
      found.getD (.text (ForeignKey.defaultName written)) ↔
    JoinKeysAgree d join name written found := by
  unfold JoinKeysAgree
  generalize Relation.belongingTo d name join.relations = backs
  cases found with
  | some key =>
    cases backs with
    | nil => simp
    | cons back rest =>
      rw [List.findSome?_cons]
      by_cases given : back.foreignKey.isGiven = true <;> simp [given]
  | none =>
    have declared :
        (backs.findSome? fun r => if r.foreignKey.isGiven then some r.foreignKey else none) =
        (backs.find? (·.foreignKey.isGiven)).map (·.foreignKey) := by
      induction backs with
      | nil => rfl
      | cons back rest ih =>
        rw [List.findSome?_cons, List.find?_cons]
        by_cases given : back.foreignKey.isGiven = true <;> simp [given, ih]
    rw [declared]
    cases backs.find? (·.foreignKey.isGiven) <;> simp

/-! ### The two sides -/

/-- The relation is many-to-many, to one entity through another, under whatever spellings, and
declares no key. -/
structure Relation.Joins (d : Directory) (r : Relation) (written name join : String) : Prop where
  manyToMany : r.isManyToMany = true
  target : r.target = .text written
  means : d.resolve written = some name
  given : r.through.isGiven = true
  through : ∃ through, r.through = .text through ∧ d.resolve through = some join
  noKey : r.foreignKey.isGiven = false
  noOtherKey : r.otherKey.isGiven = false

lemma Relation.Joins.not_belongsTo {r : Relation} {written target join : String}
    (h : r.Joins d written target join) : r.kind ≠ .belongsTo := by
  intro belongsTo
  have manyToMany := h.manyToMany
  simp [isManyToMany, belongsTo] at manyToMany

/-- A key that another entity holds is the one of its relations back, the one among its fields, or
the one of the default name. -/
lemma ResolvedKey.ofInverse_key {entity : String} {holder : Entity} {r : Relation}
    {back found : Option Value} (kind : RelationKind) (target holderName : String)
    (noKey : r.foreignKey.isGiven = false)
    (searchBack : ForeignKey.findBack d holder.fields entity holder.relations = .ok back)
    (search : ForeignKey.find d holder.fields entity = .ok found) :
    ∃ key, ofInverse d entity r kind target (some (holderName, holder)) = .ok key ∧
      key.key = (back.or found).getD (.text (ForeignKey.defaultName entity)) := by
  unfold ofInverse
  dsimp only
  rw [noKey, if_neg Bool.false_ne_true, searchBack, search]
  dsimp only [bind, Except.bind]
  cases back with
  | some key => exact ⟨_, rfl, rfl⟩
  | none =>
    cases found with
    | some key => exact ⟨_, rfl, rfl⟩
    | none => exact ⟨_, rfl, rfl⟩

namespace ResolvedRelation

/-- A many-to-many relation has the keys that are found for it in its join entity. -/
lemma ofRelation_joins {r : Relation} {written target : String} {join : String × Entity}
    (lists : d.Lists entities) (isEntity : join ∈ d.entities)
    (h : r.Joins d written target join.1) (entity : String) (fields : List Field)
    {back own other : Option Value}
    (searchBack : ForeignKey.findBack d join.2.fields entity join.2.relations = .ok back)
    (search : ForeignKey.find d join.2.fields entity = .ok own)
    (searchOther : ForeignKey.find d join.2.fields target = .ok other) :
    ∃ out diagnostics, ofRelation d entity fields r = .ok (out, diagnostics) ∧
      out.foreignKey = (back.or own).getD (.text (ForeignKey.defaultName entity)) ∧
      out.otherKey = other.getD (.text (ForeignKey.defaultName written)) := by
  obtain ⟨through, isThrough, joins⟩ := h.through
  obtain ⟨key, ok, isKey⟩ :=
    ResolvedKey.ofInverse_key .manyToMany target join.1 h.noKey searchBack search
  have side : JoinSide.ofRelation d entity r written target =
      .ok { through := some join.1, holder := some join, otherKey := other } := by
    unfold JoinSide.ofRelation
    dsimp only
    rw [if_pos h.given, isThrough]
    dsimp only [Value.asText, bind, Except.bind]
    rw [lists.get?_of_resolve isEntity joins]
    dsimp only
    rw [h.noOtherKey, if_neg Bool.false_ne_true, searchOther]
    rfl
  rw [ofRelation, h.target]
  dsimp only [Value.asText, bind, Except.bind]
  rw [if_neg h.not_belongsTo, if_pos h.manyToMany, h.means, Option.getD_some, side]
  dsimp only
  rw [ok]
  refine ⟨_, _, rfl, isKey, ?_⟩
  cases other with
  | some key => rfl
  | none => simp [JoinSide.key, Value.orElse, h.noOtherKey]

/-- Where two entities have a many-to-many relation each to the other through one join entity,
without keys of their own, the foreign key of each is the other key of the other one exactly if the
two keys for the entity agree. They do if the join entity declares no key and each target is written
in a way that gives the default name of the entity. -/
theorem foreignKey_eq_otherKey_iff (typed : ∀ e ∈ entities, e.WellTyped Value.IsNumber)
    (built : Directory.build entities options = .ok d)
    {a b join : Entity} (memA : a ∈ entities) (memB : b ∈ entities) (memJoin : join ∈ entities)
    {nameA nameB nameJoin writtenA writtenB : String} (isNameA : a.name = .text nameA)
    (isNameB : b.name = .text nameB) (isNameJoin : join.name = .text nameJoin) {r h : Relation}
    (there : r.Joins d writtenB nameB nameJoin) (back : h.Joins d writtenA nameA nameJoin) :
    ∃ foundA foundB r' h' onR onH, ForeignKey.find d join.fields nameA = .ok foundA ∧
      ForeignKey.find d join.fields nameB = .ok foundB ∧
      ofRelation d nameA a.fields r = .ok (r', onR) ∧
      ofRelation d nameB b.fields h = .ok (h', onH) ∧
      (r'.foreignKey = h'.otherKey ↔ JoinKeysAgree d join nameA writtenA foundA) ∧
      (h'.foreignKey = r'.otherKey ↔ JoinKeysAgree d join nameB writtenB foundB) ∧
      ((∀ r ∈ join.relations, r.foreignKey.isGiven = false) →
        ForeignKey.defaultName nameA = ForeignKey.defaultName writtenA →
        ForeignKey.defaultName nameB = ForeignKey.defaultName writtenB →
        r'.foreignKey = h'.otherKey ∧ h'.foreignKey = r'.otherKey) := by
  have lists : d.Lists entities :=
    ((Directory.build_ensures (fun e mem => (typed e mem).name) options).of_eq_ok built).2
  have isEntity : (nameJoin, join) ∈ d.entities := by
    obtain ⟨name, mem⟩ := lists.exists_entry memJoin
    obtain rfl : name = nameJoin := by simpa [isNameJoin] using (lists.named _ mem).symm
    exact mem
  have texts := (typed join memJoin).relations
  have search := fun target =>
    (ForeignKey.find_within (d := d) (typed join memJoin).fields target).exists_ok
  obtain ⟨foundA, searchA, _⟩ := search nameA
  obtain ⟨foundB, searchB, _⟩ := search nameB
  have backA := ForeignKey.findBack_eq lists (lists.mem_names.2 ⟨a, memA, isNameA⟩) texts searchA
  have backB := ForeignKey.findBack_eq lists (lists.mem_names.2 ⟨b, memB, isNameB⟩) texts searchB
  obtain ⟨r', onR, okR, keyR, otherR⟩ :=
    ofRelation_joins lists isEntity there nameA a.fields backA searchA searchB
  obtain ⟨h', onH, okH, keyH, otherH⟩ :=
    ofRelation_joins lists isEntity back nameB b.fields backB searchB searchA
  have agreeA : r'.foreignKey = h'.otherKey ↔ JoinKeysAgree d join nameA writtenA foundA := by
    rw [keyR, otherH]
    exact joinKeys_eq_iff
  have agreeB : h'.foreignKey = r'.otherKey ↔ JoinKeysAgree d join nameB writtenB foundB := by
    rw [keyH, otherR]
    exact joinKeys_eq_iff
  refine ⟨foundA, foundB, r', h', onR, onH, searchA, searchB, okR, okH, agreeA, agreeB, ?_⟩
  intro undeclared sameA sameB
  exact ⟨agreeA.2 (joinKeysAgree_of_undeclared undeclared sameA foundA),
    agreeB.2 (joinKeysAgree_of_undeclared undeclared sameB foundB)⟩

/-! ### An example -/

def tags : Relation where
  name := .text "tags"
  kind := .manyToMany
  target := .text "tag"
  through := .text "postTag"

def posts : Relation where
  name := .text "posts"
  kind := .hasMany
  target := .text "Posts"
  through := .text "PostTags"

/-- The entity that joins posts and tags declares the key of its post. -/
def postTag : Entity where
  name := .text "postTag"
  fields := [{ name := .text "article", type := "uuid" },
    { name := .text "tagId", type := "ref", target := .text "tag" }]
  relations := [
    { name := .text "post", kind := .belongsTo, target := .text "post",
      foreignKey := .text "article" },
    { name := .text "tag", kind := .belongsTo, target := .text "tag" }]

/-- Posts, tags and the entity that joins them. -/
def tagged : List Entity := [{ name := .text "post", relations := [tags] },
  { name := .text "tag", relations := [posts] }, postTag]

lemma tagged_resolve : (Directory.build tagged {}).toOption.map (fun d =>
      ["post", "Posts", "tag", "postTag", "PostTags"].map d.resolve) =
    some [some "post", some "post", some "tag", some "postTag", some "postTag"] := by
  rfl

/-- The join entity has a reference to the tag, and none to the post. -/
lemma tagged_find : (Directory.build tagged {}).toOption.map (fun d =>
      ["post", "tag"].map fun name =>
        (ForeignKey.find d postTag.fields name).toOption.map (Option.map Value.text?)) =
    some [some none, some (some (some "tagId"))] := by
  rfl

/-- The tagged entities are well-typed. -/
lemma tagged_wellTyped : ∀ e ∈ tagged, e.WellTyped Value.IsNumber := by
  have relation : ∀ r ∈ [tags, posts] ++ postTag.relations, r.WellTyped := by
    simp only [tags, posts, postTag, List.cons_append, List.nil_append, List.forall_mem_cons,
      List.not_mem_nil, false_imp_iff, implies_true, and_true]
    exact ⟨⟨⟨_, rfl⟩, .inr ⟨_, rfl⟩⟩, ⟨⟨_, rfl⟩, .inr ⟨_, rfl⟩⟩, ⟨⟨_, rfl⟩, .inl rfl⟩,
      ⟨⟨_, rfl⟩, .inl rfl⟩⟩
  have article : Field.WellTyped Value.IsNumber { name := .text "article", type := "uuid" } :=
    Field.wellTyped_mk.2 ⟨⟨⟨_, rfl⟩, .inl rfl, by decide +kernel, by simp, .inl rfl, .inl rfl,
      .inl rfl⟩, by simp, by simp⟩
  have tagId : Field.WellTyped Value.IsNumber
      { name := .text "tagId", type := "ref", target := .text "tag" } :=
    Field.wellTyped_mk.2 ⟨⟨⟨_, rfl⟩, .inr ⟨_, rfl⟩, fun _ => rfl, by simp, .inl rfl, .inl rfl,
      .inl rfl⟩, by simp, by simp⟩
  simp only [tagged, List.forall_mem_cons, List.not_mem_nil, false_imp_iff, implies_true, and_true]
  refine ⟨⟨⟨_, rfl⟩, rfl, by simp, ?_, by simp, by simp, by simp⟩,
    ⟨⟨_, rfl⟩, rfl, by simp, ?_, by simp, by simp, by simp⟩,
    ⟨⟨_, rfl⟩, rfl, ?_, ?_, by simp [postTag], by simp [postTag], by simp [postTag]⟩⟩
  · simpa using relation tags (by simp)
  · simpa using relation posts (by simp)
  · simpa [postTag] using And.intro article tagId
  · exact fun r mem => relation r (List.mem_append_right _ mem)

/-- The key of the posts is the other key of the tags, but not the other way round. -/
theorem tagged_foreignKey : ∃ d tags' posts' onTags onPosts,
    Directory.build tagged {} = .ok d ∧
    ofRelation d "post" [] tags = .ok (tags', onTags) ∧
    ofRelation d "tag" [] posts = .ok (posts', onPosts) ∧
    posts'.foreignKey = tags'.otherKey ∧ tags'.foreignKey ≠ posts'.otherKey := by
  have resolved := tagged_resolve
  have found := tagged_find
  cases built : Directory.build tagged {} with
  | error fault => simp [built, Except.toOption] at resolved
  | ok d =>
    simp only [built, Except.toOption, Option.map_some, Option.some.injEq, List.map_cons,
      List.map_nil, List.cons.injEq, and_true] at resolved found
    obtain ⟨post, otherPost, tag, join, otherJoin⟩ := resolved
    have there : tags.Joins d "tag" "tag" "postTag" :=
      ⟨rfl, rfl, tag, rfl, ⟨_, rfl, join⟩, rfl, rfl⟩
    have back : posts.Joins d "Posts" "post" "postTag" :=
      ⟨rfl, rfl, otherPost, rfl, ⟨_, rfl, otherJoin⟩, rfl, rfl⟩
    have memPost : { name := .text "post", relations := [tags] } ∈ tagged := by simp [tagged]
    have memTag : { name := .text "tag", relations := [posts] } ∈ tagged := by simp [tagged]
    have memJoin : postTag ∈ tagged := by simp [tagged]
    obtain ⟨foundA, foundB, tags', posts', onTags, onPosts, searchA, searchB, okTags, okPosts,
      agreeA, agreeB, _⟩ :=
        foreignKey_eq_otherKey_iff tagged_wellTyped built memPost memTag memJoin rfl rfl
        rfl there back
    rw [searchA, searchB] at found
    refine ⟨d, tags', posts', onTags, onPosts, rfl, okTags, okPosts, ?_, ?_⟩
    · obtain ⟨key, rfl⟩ : ∃ key, foundB = some key := by
        cases foundB <;> simp_all
      rw [agreeB, JoinKeysAgree]
      simp [Relation.belongingTo, postTag, post, tag, Value.text?, Value.isGiven, Scalar.isGiven]
    · obtain rfl : foundA = none := by simpa using found.1
      have different : "article" ≠ ForeignKey.defaultName "Posts" := by decide +kernel
      rw [Ne, agreeA, JoinKeysAgree]
      simpa [Relation.belongingTo, postTag, post, tag, Value.text?, Value.isGiven, Scalar.isGiven]
        using different

/-- In the example each target and each join entity is known, and yet the column for the post is
named in two ways. -/
theorem tagged_keys_ne :
    (Directory.build tagged {}).toOption.map (fun d =>
      ["post", "Posts", "tag", "postTag", "PostTags"].map d.resolve) =
      some [some "post", some "post", some "tag", some "postTag", some "postTag"] ∧
    (AnalysisResult.analyze tagged {}).toOption.map (fun result =>
      result.schemas.map fun schema => (schema.name, schema.relations.map fun r =>
        (r.foreignKey.text?, r.otherKey.text?))) =
    some [("post", [(some "article", some "tagId")]), ("tag", [(some "tagId", some "postId")]),
      ("postTag", [(some "article", none), (some "tagId", none)])] := by
  refine ⟨tagged_resolve, ?_⟩
  decide +kernel

end ResolvedRelation

end EntityModel
