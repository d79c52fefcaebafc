import EntityModel.Proofs.Analysis.Relations

/-!
# What the search for a key finds

The search for the key of a relation, told without its steps. Among fields it finds the first
reference to the entity, or else the first field with a customary name. In an entity across it finds
what a belongs-to relation back declares, before it looks among the fields. A declared key is not
searched for, and where nothing is found the key gets a default name (`KeySource.Chooses`).
-/

namespace EntityModel

open Outcome

attribute [local irreducible] FieldKind.lookup

variable {bound : Value → Prop} {d : Directory} {fields : List Field} {relations : List Relation}

/-! ### Pointing at an entity -/

/-- Whether the field is a reference to the entity of a name. -/
def Field.refersTo (d : Directory) (name : String) (f : Field) : Bool :=
  f.kind = some .reference && f.target.text?.any (d.isMeant · name)

/-- Whether the name of the field is, in whatever case, customary for a key to the entity of a
name. -/
def Field.isCustomaryFor (name : String) (f : Field) : Bool :=
  f.name.text?.any fun s => (ForeignKey.candidates name).contains (Text.lowercase s)

/-- Whether the relation is a belongs-to relation to the entity of a name. -/
def Relation.belongsBackTo (d : Directory) (name : String) (r : Relation) : Bool :=
  r.kind = .belongsTo && r.target.text?.any (d.isMeant · name)

def Field.bare (name : String) : Field := { name := .text name }

/-- A field of which only the name is declared is no reference. -/
lemma Field.kind_bare (name : String) : (bare name).kind ≠ some .reference := by
  have other : FieldKind.lookup "string" = some .string := by with_unfolding_all rfl
  change FieldKind.lookup "string" ≠ some .reference
  simp [other]

lemma Field.bare_wellTyped (name : String) : (bare name).WellTyped bound :=
  wellTyped_mk.2 ⟨⟨⟨name, rfl⟩, .inl rfl, fun reference => absurd reference (kind_bare name),
    by simp, .inl rfl, .inl rfl, .inl rfl⟩, by simp, by simp⟩

lemma Field.bare_refersTo (shown name : String) : (bare shown).refersTo d name = false := by
  simp [refersTo, kind_bare]

/-! ### Searches -/

namespace ForeignKey

/-- The key among fields: the name of the first reference to the entity, or else of the first field
with a customary name. -/
def among (d : Directory) (name : String) (fields : List Field) : Option Value :=
  ((fields.find? (·.refersTo d name)).or (fields.find? (·.isCustomaryFor name))).map (·.name)

/-- The key in an entity across: the one that the first belongs-to relation back declares, or else
the one among the fields. -/
def across (d : Directory) (source : String) (holder : Entity) : Option Value :=
  ((holder.relations.filter (·.belongsBackTo d source)).findSome? fun back =>
    if back.foreignKey.isGiven then some back.foreignKey else among d source holder.fields).or
      (among d source holder.fields)

/-- The first reference field to an entity is found, without a fault. -/
lemma findReference_eq (typed : ∀ f ∈ fields, f.WellTyped bound) (name : String) :
    findReference d name fields =
      .ok ((fields.find? (·.refersTo d name)).map (·.name)) := by
  induction fields with
  | nil => rfl
  | cons f rest ih =>
    obtain ⟨first, others⟩ := List.forall_mem_cons.1 typed
    rw [findReference, ih others, List.find?_cons]
    by_cases reference : f.kind = some .reference
    · have given := first.attributes.referenced reference
      obtain ⟨written, target⟩ := first.attributes.target.isText given
      have refers : f.refersTo d name = d.isMeant written name := by
        simp [Field.refersTo, reference, target, Value.text?]
      rw [given, decide_eq_true reference, target, refers, Bool.true_and, if_pos rfl, Value.asText,
        ok_bind]
      cases d.isMeant written name <;> rfl
    · have other : f.refersTo d name = false := by simp [Field.refersTo, reference]
      rw [decide_eq_false reference, other]
      rfl

/-- The first field with a customary name is found, without a fault. -/
lemma findNamed_eq (typed : ∀ f ∈ fields, f.WellTyped bound) (name : String) :
    findNamed (candidates name) fields =
      .ok ((fields.find? (·.isCustomaryFor name)).map (·.name)) := by
  induction fields with
  | nil => rfl
  | cons f rest ih =>
    obtain ⟨first, others⟩ := List.forall_mem_cons.1 typed
    obtain ⟨written, isName⟩ := first.attributes.name
    have customary : f.isCustomaryFor name =
        (candidates name).contains (Text.lowercase written) := by
      simp [Field.isCustomaryFor, isName, Value.text?]
    rw [findNamed, ih others, List.find?_cons, customary, isName]
    rw [Value.asText, ok_bind]
    cases (candidates name).contains (Text.lowercase written) with
    | true => simp [isName, pure, Except.pure]
    | false => rfl

/-- The search among well-typed fields has an answer. -/
lemma find_eq (typed : ∀ f ∈ fields, f.WellTyped bound) (name : String) :
    find d fields name = .ok (among d name fields) := by
  rw [find, findReference_eq typed, findNamed_eq typed, ok_bind, among]
  cases fields.find? (·.refersTo d name) <;> rfl

/-- The search among belongs-to relations back: a relation without a key of its own stands for what
is found among the fields. -/
lemma findBack_eq_findSome? (texts : ∀ r ∈ relations, r.WellTyped) {source : String}
    {found : Option Value} (search : find d fields source = .ok found) :
    findBack d fields source relations =
      .ok ((relations.filter (·.belongsBackTo d source)).findSome? fun back =>
        if back.foreignKey.isGiven then some back.foreignKey else found) := by
  induction relations with
  | nil => rfl
  | cons back rest ih =>
    obtain ⟨text, texts⟩ := List.forall_mem_cons.1 texts
    obtain ⟨written, target⟩ := text.target
    have points : back.belongsBackTo d source =
        (decide (back.kind = .belongsTo) && d.isMeant written source) := by
      simp [Relation.belongsBackTo, target, Value.text?]
    rw [findBack, ih texts, List.filter_cons, points, target, search]
    dsimp only [Value.asText, bind, Except.bind]
    by_cases belongsTo : back.kind = .belongsTo
    · rw [if_pos belongsTo, decide_eq_true belongsTo, Bool.true_and]
      by_cases meant : d.isMeant written source = true
      · rw [if_pos meant, if_pos meant, List.findSome?_cons]
        by_cases given : back.foreignKey.isGiven = true
        · rw [if_pos given, if_pos given]
          rfl
        · rw [if_neg given, if_neg given]
          cases found <;> rfl
      · rw [if_neg meant, if_neg meant]
    · rw [if_neg belongsTo, decide_eq_false belongsTo, Bool.false_and, if_neg Bool.false_ne_true]

/-! ### What is found -/

variable {name source : String} {holder : Entity}

lemma among_eq_none_iff :
    among d name fields = none ↔
      ∀ f ∈ fields, f.refersTo d name = false ∧ f.isCustomaryFor name = false := by
  simp only [among, Option.map_eq_none_iff, Option.or_eq_none_iff, List.find?_eq_none,
    Bool.not_eq_true, forall_and]

/-- A key found among fields is the name of one of them. -/
lemma mem_of_among {key : Value} (found : among d name fields = some key) :
    ∃ f ∈ fields, key = f.name := by
  obtain ⟨f, first, rfl⟩ := Option.map_eq_some_iff.1 found
  rcases Option.or_eq_some_iff.1 first with first | ⟨-, first⟩
  · exact ⟨f, List.mem_of_find?_eq_some first, rfl⟩
  · exact ⟨f, List.mem_of_find?_eq_some first, rfl⟩

/-- A reference to the entity goes before all customary names. -/
lemma among_of_refersTo {f : Field} (first : fields.find? (·.refersTo d name) = some f) :
    among d name fields = some f.name := by
  rw [among, first]
  rfl

/-- Without a key that is declared on a relation back the key is the one among the fields. -/
lemma across_of_undeclared (undeclared : ∀ back ∈ holder.relations,
      back.belongsBackTo d source = true → back.foreignKey.isGiven = false) :
    across d source holder = among d source holder.fields := by
  unfold across
  cases found : (holder.relations.filter (·.belongsBackTo d source)).findSome? fun back =>
      if back.foreignKey.isGiven then some back.foreignKey else among d source holder.fields with
  | none => rfl
  | some key =>
    obtain ⟨back, mem, isKey⟩ := List.exists_of_findSome?_eq_some found
    rw [List.mem_filter] at mem
    rw [undeclared back mem.1 mem.2, if_neg Bool.false_ne_true] at isKey
    rw [isKey]
    rfl

/-- No key is found at the other end if no field and no relation there gives one. -/
lemma across_eq_none_iff :
    across d source holder = none ↔ among d source holder.fields = none ∧
      ∀ back ∈ holder.relations,
        back.belongsBackTo d source = true → back.foreignKey.isGiven = false := by
  constructor
  · intro nothing
    obtain ⟨noBack, noField⟩ := Option.or_eq_none_iff.1 nothing
    refine ⟨noField, fun back mem points => ?_⟩
    have absent := List.findSome?_eq_none_iff.1 noBack back (List.mem_filter.2 ⟨mem, points⟩)
    by_contra given
    rw [Bool.not_eq_false] at given
    rw [if_pos given] at absent
    exact Option.some_ne_none _ absent
  · rintro ⟨noField, undeclared⟩
    rw [across_of_undeclared undeclared, noField]

/-- What is found in an entity across is a field of it or declared on a belongs-to relation back. -/
lemma mem_of_across {key : Value} (found : across d source holder = some key) :
    (∃ f ∈ holder.fields, key = f.name) ∨
      ∃ back ∈ holder.relations, back.belongsBackTo d source = true ∧
        back.foreignKey.isGiven = true ∧ key = back.foreignKey := by
  rcases Option.or_eq_some_iff.1 found with ofBack | ⟨-, ofField⟩
  · obtain ⟨back, mem, isKey⟩ := List.exists_of_findSome?_eq_some ofBack
    rw [List.mem_filter] at mem
    by_cases given : back.foreignKey.isGiven = true
    · rw [if_pos given, Option.some.injEq] at isKey
      exact .inr ⟨back, mem.1, mem.2, given, isKey.symm⟩
    · rw [if_neg given] at isKey
      exact .inl (mem_of_among isKey)
  · exact .inl (mem_of_among ofField)

end ForeignKey

/-! ### The choice of a key -/

/-- A key is the declared one, or else the one that is found, or else a default name. -/
inductive KeySource.Chooses (declared : Value) (found : Option Value) (defaultName : String) :
    KeySource → Value → Prop where
  | explicit (given : declared.isGiven = true) :
    Chooses declared found defaultName .explicit declared
  | inferred {key : Value} (absent : declared.isGiven = false) (isFound : found = some key) :
    Chooses declared found defaultName .inferred key
  | default (absent : declared.isGiven = false) (nothing : found = none) :
    Chooses declared found defaultName .default (.text defaultName)

namespace ResolvedKey

/-- A belongs-to relation takes its key from its declaration, its own fields or the default. -/
lemma ofBelongsTo_chooses (typed : ∀ f ∈ fields, f.WellTyped bound) (entity : String) (r : Relation)
    (written target : String) :
    ∃ key, ofBelongsTo d entity fields r written target = .ok key ∧
      KeySource.Chooses r.foreignKey (ForeignKey.among d target fields)
        (ForeignKey.defaultName written) key.source key.key := by
  rw [ofBelongsTo, ForeignKey.find_eq typed]
  cases given : r.foreignKey.isGiven with
  | true => exact ⟨_, rfl, .explicit given⟩
  | false =>
    cases found : ForeignKey.among d target fields with
    | some key => exact ⟨_, rfl, .inferred given rfl⟩
    | none => exact ⟨_, rfl, .default given rfl⟩

/-- A relation with its key at the other end takes it from its declaration, from there or the
default. -/
lemma ofInverse_chooses {holder : Option (String × Entity)}
    (typed : ∀ entry, holder = some entry → entry.2.WellTyped bound) (entity : String)
    (r : Relation)
    (kind : RelationKind) (target : String) :
    ∃ key, ofInverse d entity r kind target holder = .ok key ∧
      KeySource.Chooses r.foreignKey (holder.bind fun entry => ForeignKey.across d entity entry.2)
        (ForeignKey.defaultName entity) key.source key.key := by
  unfold ofInverse
  cases given : r.foreignKey.isGiven with
  | true => exact ⟨_, rfl, .explicit given⟩
  | false =>
    cases holder with
    | none => exact ⟨_, rfl, .default given rfl⟩
    | some entry =>
      have search := ForeignKey.find_eq (d := d) (typed entry rfl).fields entity
      dsimp only
      rw [ForeignKey.findBack_eq_findSome? (typed entry rfl).relations search, search,
        Option.bind_some, ForeignKey.across]
      generalize List.findSome? _ _ = back
      cases back with
      | some key => exact ⟨_, rfl, .inferred given rfl⟩
      | none =>
        cases ForeignKey.among d entity entry.2.fields with
        | some key => exact ⟨_, rfl, .inferred given rfl⟩
        | none => exact ⟨_, rfl, .default given rfl⟩

end ResolvedKey

/-! ### The two sides of a key -/

namespace Relation

/-- The join entity of a many-to-many relation, if it is known. -/
def joinEntity (d : Directory) (r : Relation) : Option Entity :=
  if r.isManyToMany && r.through.isGiven then
    (r.through.text?.bind d.get?).map (·.2)
  else none

/-- The entity that holds the key of a relation: the declaring entity of a belongs-to relation, and
of the others the join entity if one is known, or else the target. -/
def holder (d : Directory) (e : Entity) (r : Relation) : Option Entity :=
  if r.kind = .belongsTo then some e
  else (r.joinEntity d).or ((r.target.text?.bind d.get?).map (·.2))

/-- The entity that the key points at: the target of a belongs-to relation, as it is meant or else
as it is written, and of the others the declaring entity. -/
def otherSide (d : Directory) (entity written : String) (r : Relation) : String :=
  if r.kind = .belongsTo then (d.resolve written).getD written else entity

/-- The name that a default key is made of: the target of a belongs-to relation as it is written,
and of the others the name of the declaring entity. -/
def namesake (entity written : String) (r : Relation) : String :=
  if r.kind = .belongsTo then written else entity

def foundKey (d : Directory) (e : Entity) (entity written : String) (r : Relation) : Option Value :=
  (r.holder d e).bind fun holder =>
    if r.kind = .belongsTo then ForeignKey.among d (r.otherSide d entity written) holder.fields
    else ForeignKey.across d entity holder

end Relation

/-- The join side has an answer, and its holder is the join entity or else the target. -/
lemma JoinSide.exists_ofRelation (typed : ∀ entry ∈ d.entities, entry.2.WellTyped bound)
    {r : Relation} (wellTyped : r.WellTyped) (manyToMany : r.isManyToMany = true) (entity : String)
    {written : String} (isTarget : r.target = .text written) (target : String) :
    ∃ join, ofRelation d entity r written target = .ok join ∧
      (∀ entry, join.holder = some entry → entry.2.WellTyped bound) ∧
      join.holder.map (·.2) =
        (r.joinEntity d).or ((r.target.text?.bind d.get?).map (·.2)) := by
  have held : ∀ reference entry, d.get? reference = some entry → entry.2.WellTyped bound :=
    fun _ entry found => typed entry (Directory.get?_mem found)
  unfold ofRelation Relation.joinEntity
  rw [manyToMany, Bool.true_and]
  cases given : r.through.isGiven with
  | false => exact ⟨_, rfl, held written, by simp [isTarget, Value.text?]⟩
  | true =>
    obtain ⟨through, isThrough⟩ := wellTyped.through.isText given
    rw [isThrough]
    dsimp only [Value.asText, Value.text?, bind, Except.bind]
    simp only [if_true, Option.bind_some]
    cases found : d.get? through with
    | none => exact ⟨_, rfl, held written, by simp [isTarget]⟩
    | some entry =>
      dsimp only
      have search := ForeignKey.find_eq (d := d) (held through entry found).fields target
      rcases Bool.eq_false_or_eq_true r.otherKey.isGiven with given | absent
      · refine ⟨_, by rw [given]; rfl, fun e same => ?_, rfl⟩
        exact Option.some.inj same ▸ held through entry found
      · refine ⟨_, by rw [absent, search]; rfl, fun e same => ?_, rfl⟩
        exact Option.some.inj same ▸ held through entry found

namespace ResolvedRelation

/-- A well-typed relation is resolved, and its key is the declared one, or else the one found in its
holder, or else the default name. -/
theorem ofRelation_chooses (typed : ∀ entry ∈ d.entities, entry.2.WellTyped bound) {e : Entity}
    (declaring : ∀ f ∈ e.fields, f.WellTyped bound) (entity : String) {r : Relation}
    (wellTyped : r.WellTyped) {written : String} (isTarget : r.target = .text written) :
    ∃ out diagnostics, ofRelation d entity e.fields r = .ok (out, diagnostics) ∧
      KeySource.Chooses r.foreignKey (r.foundKey d e entity written)
        (ForeignKey.defaultName (r.namesake entity written)) out.keySource out.foreignKey := by
  rw [ofRelation, isTarget]
  dsimp only [Value.asText, bind, Except.bind]
  unfold Relation.foundKey Relation.holder Relation.otherSide Relation.namesake
  by_cases belongsTo : r.kind = .belongsTo
  · obtain ⟨key, ok, chooses⟩ := ResolvedKey.ofBelongsTo_chooses declaring entity r written
      ((d.resolve written).getD written)
    simp only [if_pos belongsTo]
    rw [ok]
    exact ⟨_, _, rfl, chooses⟩
  · simp only [if_neg belongsTo]
    by_cases manyToMany : r.isManyToMany = true
    · obtain ⟨join, joined, held, isHolder⟩ := JoinSide.exists_ofRelation typed wellTyped manyToMany
        entity isTarget ((d.resolve written).getD written)
      obtain ⟨key, ok, chooses⟩ := ResolvedKey.ofInverse_chooses (d := d) held entity r .manyToMany
        ((d.resolve written).getD written)
      rw [if_pos manyToMany, joined, ← isHolder, Option.bind_map]
      dsimp only
      rw [ok]
      exact ⟨_, _, rfl, chooses⟩
    · have noJoin : r.joinEntity d = none := by simp [Relation.joinEntity, manyToMany]
      have held : ∀ entry, d.get? written = some entry → entry.2.WellTyped bound :=
        fun entry found => typed entry (Directory.get?_mem found)
      obtain ⟨key, ok, chooses⟩ := ResolvedKey.ofInverse_chooses (d := d) held entity r r.kind
        ((d.resolve written).getD written)
      rw [if_neg manyToMany, ok, noJoin, Option.none_or, isTarget, Value.text?, Option.bind_some,
        Option.bind_map]
      exact ⟨_, _, rfl, chooses⟩

end ResolvedRelation

end EntityModel
