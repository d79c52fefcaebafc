import EntityModel.Analysis.Result
import EntityModel.Proofs.Analysis.Keys

/-!
# Agreement of foreign keys

The two ends of an association between entities, a belongs-to relation and a has-many or has-one
relation back, name the same key if the key is declared or found. If it is neither, each end takes a
default name: the belongs-to end after its target as it is written, the other end after the name of
the entity. These differ where the target is written in another way than by its name.
-/

namespace EntityModel

open Outcome

variable {d : Directory} {entities : List Entity} {options : Options} {source : String}

/-- The target of the relation means the entity of a name. -/
def Relation.Means (d : Directory) (r : Relation) (name : String) : Prop :=
  ∃ written, r.target = .text written ∧ d.resolve written = some name

/-- The belongs-to relations whose target means the entity of a name. -/
def Relation.belongingTo (d : Directory) (name : String) (relations : List Relation) :
    List Relation :=
  relations.filter fun r => r.kind = .belongsTo && r.target.text?.bind d.resolve == some name

/-- A relation more counts if it belongs to an entity that its target means. -/
lemma Relation.belongingTo_cons {r : Relation} {relations : List Relation} {written : String}
    (target : r.target = .text written) :
    belongingTo d source (r :: relations) =
      if r.kind = .belongsTo ∧ d.resolve written = some source then
        r :: belongingTo d source relations
      else belongingTo d source relations := by
  simp [belongingTo, List.filter_cons, target, Value.text?]

/-- Relations that mean other entities do not belong to the entity. -/
lemma Relation.belongingTo_eq_nil {relations : List Relation}
    (others : ∀ r ∈ relations, r.kind = .belongsTo → ¬ r.Means d source) :
    belongingTo d source relations = [] := by
  refine List.filter_eq_nil_iff.2 fun r mem belongs => ?_
  simp only [Bool.and_eq_true, decide_eq_true_eq, beq_iff_eq, Option.bind_eq_some_iff,
    Value.text?_eq_some_iff] at belongs
  exact others r mem belongs.1 belongs.2

/-- The relations back to an entity of the directory are those that belong to it. -/
lemma Relation.filter_belongsBackTo (lists : d.Lists entities) (known : source ∈ d.names)
    {relations : List Relation} (texts : ∀ r ∈ relations, r.WellTyped) :
    relations.filter (·.belongsBackTo d source) = belongingTo d source relations := by
  refine List.filter_congr fun r mem => ?_
  obtain ⟨written, target⟩ := (texts r mem).target
  have meant : d.isMeant written source = true ↔ d.resolve written = some source :=
    lists.isMeant_iff known
  rw [belongsBackTo, target, Value.text?, Option.any_some, Option.bind_some]
  congr 1
  rw [Bool.eq_iff_iff, meant, beq_iff_eq]

namespace ForeignKey

variable {fields : List Field} {relations : List Relation}

/-- The key back is the declared key of the first relation that belongs to the entity, or else the
field that is found; a relation with neither is passed over. -/
lemma findBack_eq (lists : d.Lists entities) (known : source ∈ d.names)
    (texts : ∀ r ∈ relations, r.WellTyped) {found : Option Value}
    (search : find d fields source = .ok found) :
    findBack d fields source relations =
      .ok ((Relation.belongingTo d source relations).findSome? fun r =>
        if r.foreignKey.isGiven then some r.foreignKey else found) := by
  rw [findBack_eq_findSome? texts search, Relation.filter_belongsBackTo lists known texts]

/-- The key back is the one of the only relation that belongs to the entity: its declared key, or
the field that is found. -/
lemma findBack_of_only (lists : d.Lists entities) (known : source ∈ d.names)
    {before after : List Relation} {r : Relation}
    (texts : ∀ other ∈ before ++ r :: after, other.WellTyped)
    (belongsTo : r.kind = .belongsTo) (means : r.Means d source)
    (only : ∀ other ∈ before ++ after, other.kind = .belongsTo → ¬ other.Means d source)
    {found : Option Value} (search : find d fields source = .ok found) :
    findBack d fields source (before ++ r :: after) =
      .ok (if r.foreignKey.isGiven then some r.foreignKey else found) := by
  obtain ⟨written, target, meant⟩ := means
  have single : Relation.belongingTo d source (before ++ r :: after) = [r] := by
    rw [Relation.belongingTo, List.filter_append, ← Relation.belongingTo, ← Relation.belongingTo,
      Relation.belongingTo_cons target, if_pos ⟨belongsTo, meant⟩,
      Relation.belongingTo_eq_nil fun other mem => only other (List.mem_append_left _ mem),
      Relation.belongingTo_eq_nil fun other mem => only other (List.mem_append_right _ mem)]
    rfl
  rw [findBack_eq lists known texts search, single, List.findSome?_singleton]

end ForeignKey

/-! ### The two ends -/

/-- The keys of both ends, by the three layers of the search: declared, found or made up. -/
lemma ResolvedKey.key_eq_iff (nameA written : String) {a : Entity} {r h : Relation} {nameB : String}
    {found : Option Value} (search : ForeignKey.find d a.fields nameB = .ok found)
    (keyBack : ForeignKey.findBack d a.fields nameB a.relations =
      .ok (if r.foreignKey.isGiven then some r.foreignKey else found))
    (noKey : h.foreignKey.isGiven = false) :
    ∃ key key', ofBelongsTo d nameA a.fields r written nameB = .ok key ∧
      ofInverse d nameB h h.kind nameA (some (nameA, a)) = .ok key' ∧
      (key'.key = key.key ↔ key.source ≠ .default ∨
        ForeignKey.defaultName written = ForeignKey.defaultName nameB) := by
  unfold ofBelongsTo ofInverse
  dsimp only
  rw [noKey, if_neg Bool.false_ne_true, keyBack, search]
  dsimp only [bind, Except.bind]
  by_cases given : r.foreignKey.isGiven = true
  · rw [if_pos given, if_pos given]
    exact ⟨_, _, rfl, rfl, by simp⟩
  · rw [if_neg given, if_neg given]
    cases found with
    | some name => exact ⟨_, _, rfl, rfl, by simp⟩
    | none => exact ⟨_, _, rfl, rfl, by simp [fallback, eq_comm]⟩

namespace ResolvedRelation

variable {fields : List Field} {r : Relation} {entity target written : String}

/-- A belongs-to relation has the key that is found for it. -/
lemma ofRelation_belongsTo (belongsTo : r.kind = .belongsTo) (isTarget : r.target = .text written)
    (means : d.resolve written = some target) {key : ResolvedKey}
    (ok : ResolvedKey.ofBelongsTo d entity fields r written target = .ok key) :
    ∃ out diagnostics, ofRelation d entity fields r = .ok (out, diagnostics) ∧
      out.foreignKey = key.key ∧ out.keySource = key.source := by
  rw [ofRelation, isTarget]
  dsimp only [Value.asText, bind, Except.bind]
  rw [if_pos belongsTo, means, Option.getD_some, ok]
  exact ⟨_, _, rfl, rfl, rfl⟩

/-- A relation without a join entity has the key that is found for it on the other side. -/
lemma ofRelation_inverse (kind : r.kind = .hasMany ∨ r.kind = .hasOne) (noJoin : r.through = .null)
    (isTarget : r.target = .text written) (means : d.resolve written = some target)
    {key : ResolvedKey}
    (ok : ResolvedKey.ofInverse d entity r r.kind target (d.get? written) = .ok key) :
    ∃ out diagnostics, ofRelation d entity fields r = .ok (out, diagnostics) ∧
      out.foreignKey = key.key := by
  have notBelongsTo : r.kind ≠ .belongsTo := by rcases kind with kind | kind <;> simp [kind]
  have notManyToMany : ¬ r.isManyToMany = true := by
    rcases kind with kind | kind <;> simp [Relation.isManyToMany, kind, noJoin, Value.isNull]
  rw [ofRelation, isTarget]
  dsimp only [Value.asText, bind, Except.bind]
  rw [if_neg notBelongsTo, if_neg notManyToMany, means, Option.getD_some, ok]
  exact ⟨_, _, rfl, rfl⟩

/-- Where an entity has one belongs-to relation to another, and that one a relation back without a
key of its own, both ends have the same key unless it has to be made up and the target is written in
a way that gives another default name. -/
theorem foreignKey_eq_iff (typed : ∀ e ∈ entities, e.WellTyped Value.IsNumber)
    (built : Directory.build entities options = .ok d)
    {a b : Entity} (memA : a ∈ entities) (memB : b ∈ entities) {nameA nameB : String}
    (isNameA : a.name = .text nameA) (isNameB : b.name = .text nameB)
    {before after : List Relation} {r : Relation} (split : a.relations = before ++ r :: after)
    (belongsTo : r.kind = .belongsTo) {written : String} (target : r.target = .text written)
    (means : d.resolve written = some nameB)
    (only : ∀ other ∈ before ++ after, other.kind = .belongsTo → ¬ other.Means d nameB)
    {h : Relation} (kind : h.kind = .hasMany ∨ h.kind = .hasOne)
    (noKey : h.foreignKey.isGiven = false) (noJoin : h.through = .null) (back : h.Means d nameA) :
    ∃ r' h' onR onH, ofRelation d nameA a.fields r = .ok (r', onR) ∧
      ofRelation d nameB b.fields h = .ok (h', onH) ∧
      (h'.foreignKey = r'.foreignKey ↔ r'.keySource ≠ .default ∨
        ForeignKey.defaultName written = ForeignKey.defaultName nameB) := by
  have lists : d.Lists entities :=
    ((Directory.build_ensures (fun e mem => (typed e mem).name) options).of_eq_ok built).2
  have known : nameB ∈ d.names := lists.mem_names.2 ⟨b, memB, isNameB⟩
  obtain ⟨found, search, _⟩ :=
    (ForeignKey.find_within (d := d) (typed a memA).fields nameB).exists_ok
  have keyBack :=
    ForeignKey.findBack_of_only lists known (split ▸ (typed a memA).relations) belongsTo
    ⟨written, target, means⟩ only search
  rw [← split] at keyBack
  obtain ⟨writtenBack, targetBack, meansBack⟩ := back
  have holder : d.get? writtenBack = some (nameA, a) := by
    obtain ⟨name, mem⟩ := lists.exists_entry memA
    obtain rfl : name = nameA := by simpa [isNameA] using (lists.named _ mem).symm
    exact lists.get?_of_resolve mem meansBack
  obtain ⟨key, key', ok, ok', agree⟩ := ResolvedKey.key_eq_iff nameA written search keyBack noKey
  obtain ⟨r', onR, resolved, isKey, isSource⟩ := ofRelation_belongsTo belongsTo target means ok
  obtain ⟨h', onH, resolvedBack, isKeyBack⟩ :=
    ofRelation_inverse kind noJoin targetBack meansBack (holder ▸ ok')
  refine ⟨r', h', onR, onH, resolved, resolvedBack, ?_⟩
  rw [isKey, isKeyBack, isSource]
  exact agree

/-! ### An example -/

/-- A comment belongs to a blog post, whose name is written without its capitals. -/
def comment : Entity where
  name := .text "comment"
  relations := [{ name := .text "post", kind := .belongsTo, target := .text "blogpost" }]

def blogPost : Entity where
  name := .text "BlogPost"
  relations := [{ name := .text "comments", kind := .hasMany, target := .text "comment" }]

lemma comment_wellTyped : ∀ e ∈ [comment, blogPost], e.WellTyped Value.IsNumber := by
  simp only [List.forall_mem_cons, List.not_mem_nil, false_imp_iff, implies_true, and_true]
  refine ⟨⟨⟨_, rfl⟩, rfl, ?_, ?_, ?_, ?_, ?_⟩, ⟨_, rfl⟩, rfl, ?_, ?_, ?_, ?_, ?_⟩
  all_goals simp [comment, blogPost]
  all_goals exact ⟨⟨_, rfl⟩, .inl rfl⟩

lemma comment_resolve : (Directory.build [comment, blogPost] {}).toOption.map (fun d =>
      (d.resolve "blogpost", d.resolve "comment")) = some (some "BlogPost", some "comment") := by
  decide +kernel

/-- The key of a comment to a post is not the one that the post expects. -/
theorem comment_key_eq_iff : ∃ d r' h' onR onH, Directory.build [comment, blogPost] {} = .ok d ∧
    ofRelation d "comment" []
      { name := .text "post", kind := .belongsTo, target := .text "blogpost" } = .ok (r', onR) ∧
    ofRelation d "BlogPost" []
      { name := .text "comments", kind := .hasMany, target := .text "comment" } = .ok (h', onH) ∧
    (h'.foreignKey = r'.foreignKey ↔ r'.keySource ≠ .default) := by
  have resolved := comment_resolve
  cases built : Directory.build [comment, blogPost] {} with
  | error fault => simp [built, Except.toOption] at resolved
  | ok d =>
    simp only [built, Except.toOption, Option.map_some, Option.some.injEq,
      Prod.mk.injEq] at resolved
    have only : comment.relations =
      [] ++ { name := .text "post", kind := .belongsTo, target := .text "blogpost" } :: [] := rfl
    obtain ⟨r', h', onR, onH, isR, isH, agree⟩ := foreignKey_eq_iff (b := blogPost)
      (h := { name := .text "comments", kind := .hasMany, target := .text "comment" })
      comment_wellTyped built (by simp) (by simp) rfl rfl only rfl rfl resolved.1
      (by simp) (.inl rfl)
      rfl rfl ⟨_, rfl, resolved.2⟩
    have different : ForeignKey.defaultName "blogpost" ≠ ForeignKey.defaultName "BlogPost" := by
      decide +kernel
    exact ⟨d, r', h', onR, onH, rfl, isR, isH, by rw [agree, or_iff_left different]⟩

/-- In the example each target means the other entity, and yet the two ends have different keys. -/
theorem comment_keys_ne :
    (Directory.build [comment, blogPost] {}).toOption.map (fun d =>
      (d.resolve "blogpost", d.resolve "comment")) = some (some "BlogPost", some "comment") ∧
    (AnalysisResult.analyze [comment, blogPost] {}).toOption.map (fun result =>
      result.schemas.map fun schema => (schema.name, schema.relations.map (·.foreignKey.text?))) =
    some [("BlogPost", [some "blogPostId"]), ("comment", [some "blogpostId"])] := by
  refine ⟨comment_resolve, ?_⟩
  decide +kernel

end ResolvedRelation

end EntityModel
