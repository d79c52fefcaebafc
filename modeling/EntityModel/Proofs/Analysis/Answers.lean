import EntityModel.Proofs.Analysis.Closed
import EntityModel.Proofs.Resolution

/-!
# Directories that answer alike

The analysis of an entity reads a directory only through its answers: what a reference means, which
entity is found for it, whether there is an entity of a name, and what its table is. What is asked
are the references that are written in the entities of the directory, the types that procedures
return, and the entity's own name. So an entity has the same schema and the same diagnostics, or the
same fault, in any two directories that answer alike wherever they are asked.
-/

namespace EntityModel

open Outcome

attribute [local irreducible] FieldKind.lookup

/-! ### What is asked -/

/-- The relation has a reference as its target or as its join entity. -/
def Relation.Writes (r : Relation) (reference : String) : Prop :=
  r.target = .text reference ∨ (r.through.isGiven = true ∧ r.through = .text reference)

/-- A reference field or a relation of the entity has a reference written in it. -/
def Entity.Writes (e : Entity) (reference : String) : Prop :=
  (∃ f ∈ e.fields, f.PointsAt reference) ∨ ∃ r ∈ e.relations, r.Writes reference

/-- A procedure of the entity returns an element type, or a list of it. -/
def Entity.Returns (e : Entity) (element : String) : Prop :=
  ∃ p ∈ e.procedures, (TypeExpression.ofText p.returns).element = element

def Relation.written (r : Relation) : List String :=
  r.target.text?.toList ++ if r.through.isGiven then r.through.text?.toList else []

def Entity.written (e : Entity) : List String :=
  (e.fields.filterMap fun f => if f.kind = some .reference then f.target.text? else none) ++
    e.relations.flatMap Relation.written

lemma Relation.mem_written {r : Relation} {reference : String} :
    reference ∈ r.written ↔ r.Writes reference := by
  unfold written Writes
  split_ifs with given <;> simp [given, Value.text?_eq_some_iff]

lemma Entity.mem_written {e : Entity} {reference : String} :
    reference ∈ e.written ↔ e.Writes reference := by
  simp [written, Writes, Field.PointsAt, Relation.mem_written, Value.text?_eq_some_iff]

/-- Two directories of the same options give the same answers to the references and the names that
are asked for. -/
structure Directory.AnswersAlike (asked named : String → Prop) (d d' : Directory) : Prop where
  options : d'.options = d.options
  resolve : ∀ reference, asked reference → d'.resolve reference = d.resolve reference
  get? : ∀ reference, asked reference → d'.get? reference = d.get? reference
  contains : ∀ name, named name → d'.contains name = d.contains name
  tableFor : ∀ name, named name → d'.tableFor name = d.tableFor name

variable {asked named : String → Prop} {d d' : Directory}

section

variable (alike : d.AnswersAlike asked named d')

include alike

lemma Directory.AnswersAlike.isMeant {reference : String} (isAsked : asked reference)
    (name : String) : d'.isMeant reference name = d.isMeant reference name := by
  unfold Directory.isMeant
  rw [alike.resolve reference isAsked, alike.options]

/-! ### Foreign keys -/

namespace ForeignKey

variable {fields : List Field}
  (hf : ∀ f ∈ fields, ∀ reference, f.PointsAt reference → asked reference)

include hf

/-- Two directories that mean the same by each reference asked for find the same field. -/
lemma findReference_alike (target : String) :
    findReference d' target fields = findReference d target fields := by
  induction fields with
  | nil => rfl
  | cons f rest ih =>
    obtain ⟨first, others⟩ := List.forall_mem_cons.1 hf
    rw [findReference, findReference, ih others]
    split_ifs with points
    · cases written : f.target.asText with
      | error fault => rfl
      | ok reference =>
        have isAsked : asked reference := by
          rw [Bool.and_eq_true, decide_eq_true_eq] at points
          exact first reference ⟨points.1, f.target.asText_ensures.of_eq_ok written⟩
        rw [ok_bind, ok_bind, alike.isMeant isAsked]
    · rfl

lemma find_alike (target : String) : find d' fields target = find d fields target := by
  unfold find
  rw [findReference_alike alike hf]

/-- The relation that points back is looked up only by references of the relations in question. -/
lemma findBack_alike (source : String) {relations : List Relation}
    (hr : ∀ r ∈ relations, ∀ reference, r.Writes reference → asked reference) :
    findBack d' fields source relations = findBack d fields source relations := by
  induction relations with
  | nil => rfl
  | cons back rest ih =>
    obtain ⟨first, others⟩ := List.forall_mem_cons.1 hr
    rw [findBack, findBack, ih others, find_alike alike hf]
    split
    · cases written : back.target.asText with
      | error fault => rfl
      | ok reference =>
        have isAsked : asked reference :=
          first reference (.inl (back.target.asText_ensures.of_eq_ok written))
        rw [ok_bind, ok_bind, alike.isMeant isAsked]
    · rfl

end ForeignKey

/-! ### Relations -/

variable {e : Entity} (he : ∀ reference, e.Writes reference → asked reference)
  (all : ∀ entry ∈ d.entities, ∀ reference, entry.2.Writes reference → asked reference)

section

omit alike

include he

lemma Entity.asked_of_pointsAt :
    ∀ f ∈ e.fields, ∀ reference, f.PointsAt reference → asked reference :=
  fun f mem reference points => he reference (.inl ⟨f, mem, points⟩)

lemma Entity.asked_of_writes :
    ∀ r ∈ e.relations, ∀ reference, r.Writes reference → asked reference :=
  fun r mem reference writes => he reference (.inr ⟨r, mem, writes⟩)

end

namespace ResolvedKey

include he in
lemma ofBelongsTo_alike (entity : String) (r : Relation) (written target : String) :
    ofBelongsTo d' entity e.fields r written target =
      ofBelongsTo d entity e.fields r written target := by
  unfold ofBelongsTo
  rw [ForeignKey.find_alike alike (Entity.asked_of_pointsAt he)]

/-- The holder of a key is asked for what is written in it. -/
lemma ofInverse_alike (entity : String) (r : Relation) (kind : RelationKind) (target : String)
    {holder : Option (String × Entity)}
    (held : ∀ entry, holder = some entry → ∀ reference, entry.2.Writes reference →
      asked reference) :
    ofInverse d' entity r kind target holder = ofInverse d entity r kind target holder := by
  unfold ofInverse
  cases holder with
  | none => rfl
  | some entry =>
    have fields := Entity.asked_of_pointsAt (held entry rfl)
    simp only [ForeignKey.findBack_alike alike fields entity
      (Entity.asked_of_writes (held entry rfl)), ForeignKey.find_alike alike fields]

end ResolvedKey

include all

omit alike in
lemma Directory.asked_of_get? {reference : String} :
    ∀ entry, d.get? reference = some entry → ∀ written, entry.2.Writes written → asked written :=
  fun entry found => all entry (Directory.get?_mem found)

/-- A join side depends on a directory only through the references of its relation. -/
lemma JoinSide.ofRelation_alike (entity : String) {r : Relation}
    (hr : ∀ reference, r.Writes reference → asked reference) {written : String}
    (isTarget : r.target = .text written) (target : String) :
    ofRelation d' entity r written target = ofRelation d entity r written target := by
  unfold ofRelation
  rw [alike.get? written (hr written (.inl isTarget))]
  dsimp only
  split
  · rename_i given
    cases isThrough : r.through.asText with
    | error fault => rfl
    | ok through =>
      have isAsked : asked through :=
        hr through (.inr ⟨given, r.through.asText_ensures.of_eq_ok isThrough⟩)
      rw [ok_bind, ok_bind, alike.get? through isAsked]
      cases found : d.get? through with
      | none => rfl
      | some entry =>
        have fields := Entity.asked_of_pointsAt (Directory.asked_of_get? all entry found)
        dsimp only
        rw [ForeignKey.find_alike alike fields]
  · rfl

omit alike all in
/-- What holds the other side of a join is an entity that some reference means. -/
lemma JoinSide.ofRelation_holder (entity : String) (r : Relation) (written target : String) :
    Ensures anyFault (fun join => ∀ entry, join.holder = some entry →
      ∃ reference, d.get? reference = some entry) (ofRelation d entity r written target) := by
  unfold ofRelation
  dsimp only
  split
  · refine (within_any _).bind fun through _ => ?_
    cases found : d.get? through with
    | none => exact fun entry held => ⟨written, held⟩
    | some entry =>
      refine Ensures.ite_bind (P := fun _ => True) (fun _ => trivial) (fun _ => within_any _)
        fun key _ => ?_
      exact fun _ held => ⟨through, found.trans held⟩
  · exact fun entry held => ⟨written, held⟩

namespace ResolvedRelation

include he

/-- A relation of an entity is resolved alike wherever its references mean the same. -/
lemma ofRelation_alike (entity : String) {r : Relation} (mem : r ∈ e.relations) :
    ofRelation d' entity e.fields r = ofRelation d entity e.fields r := by
  have hr := Entity.asked_of_writes he r mem
  unfold ofRelation
  cases isTarget : r.target.asText with
  | error fault => rfl
  | ok written =>
    have text := r.target.asText_ensures.of_eq_ok isTarget
    have isAsked := hr written (.inl text)
    simp only [ok_bind, alike.resolve written isAsked, alike.get? written isAsked,
      ResolvedKey.ofBelongsTo_alike alike he, JoinSide.ofRelation_alike alike all entity hr text,
      ResolvedKey.ofInverse_alike alike entity r _ _ (Directory.asked_of_get? all)]
    generalize (d.resolve written).getD written = target
    cases joined : JoinSide.ofRelation d entity r written target with
    | error fault => rfl
    | ok join =>
      have held : ∀ entry, join.holder = some entry →
          ∀ reference, entry.2.Writes reference → asked reference := by
        intro entry holds
        obtain ⟨reference, found⟩ :=
          (JoinSide.ofRelation_holder entity r written target).of_eq_ok joined entry holds
        exact Directory.asked_of_get? all entry found
      simp only [ok_bind, ResolvedKey.ofInverse_alike alike entity r _ _ held]

lemma ofRelations_alike (entity : String) {relations : List Relation}
    (sub : relations ⊆ e.relations) :
    ofRelations d' entity e.fields relations = ofRelations d entity e.fields relations := by
  induction relations with
  | nil => rfl
  | cons r rest ih =>
    obtain ⟨first, others⟩ := List.cons_subset.1 sub
    rw [ofRelations, ofRelations, ofRelation_alike alike he all entity first, ih others]

end ResolvedRelation

omit all

/-! ### Dependencies, procedures and schemas -/

namespace Schema

/-- Dependencies are found alike wherever the targets of the fields mean the same. -/
lemma fieldDependencies_alike (entity : String) {fields : List ResolvedField}
    (hf : ∀ f ∈ fields, ∀ reference, f.refTarget = .text reference → asked reference)
    (found : List String) :
    fieldDependencies d' entity fields found = fieldDependencies d entity fields found := by
  induction fields generalizing found with
  | nil => rfl
  | cons f rest ih =>
    obtain ⟨first, others⟩ := List.forall_mem_cons.1 hf
    rw [fieldDependencies, fieldDependencies]
    split_ifs with given
    · cases written : f.refTarget.asText with
      | error fault => rfl
      | ok reference =>
        have isAsked := first reference (f.refTarget.asText_ensures.of_eq_ok written)
        simp only [ok_bind, alike.resolve reference isAsked, ih others]
    · exact ih others found

end Schema

namespace TypedProcedure

lemma returnTypeOf_alike {t : TypeExpression} (isNamed : named t.element) :
    returnTypeOf d' t = returnTypeOf d t := by
  unfold returnTypeOf
  rw [alike.contains _ isNamed, alike.tableFor _ isNamed]

/-- Procedures are typed alike where the names that they return are known alike. -/
lemma ofProcedures_alike (owner : Option Value) {procedures : List Procedure}
    (hp : ∀ p ∈ procedures, named (TypeExpression.ofText p.returns).element) :
    ofProcedures d' owner procedures = ofProcedures d owner procedures := by
  induction procedures with
  | nil => rfl
  | cons p rest ih =>
    obtain ⟨first, others⟩ := List.forall_mem_cons.1 hp
    have same : ofProcedure d' owner p = ofProcedure d owner p := by
      simp only [ofProcedure, returnTypeOf_alike alike first]
    rw [ofProcedures, ofProcedures, same, ih others]

end TypedProcedure

omit alike in
/-- A resolved field that has a target has it from a reference field. -/
lemma ResolvedField.asked_of_resolves {fields : List Field} {outs : List ResolvedField}
    (hf : ∀ f ∈ fields, ∀ reference, f.PointsAt reference → asked reference)
    (h : List.Forall₂ (fun f => Resolves f.name f) fields outs) :
    ∀ out ∈ outs, ∀ reference, out.refTarget = .text reference → asked reference := by
  intro out mem reference written
  obtain ⟨f, isField, resolves⟩ := exists_of_mem_right h mem
  by_cases points : f.kind = some .reference
  · exact hf f isField reference ⟨points, (resolves.reference points).symm.trans written⟩
  · rw [resolves.other points] at written
    cases written

/-- An entity has the same schema and the same diagnostics, or the same fault, in two directories
that answer alike: to the references that are written in the entity and in those of the directory,
to the types that its procedures return, and to its name. -/
theorem Schema.ofEntity_alike {name : String}
    (he : ∀ reference, e.Writes reference → asked reference)
    (all : ∀ entry ∈ d.entities, ∀ reference, entry.2.Writes reference → asked reference)
    (hp : ∀ element, e.Returns element → named element) (isNamed : named name) :
    ofEntity d' name e = ofEntity d name e := by
  have fields := Entity.asked_of_pointsAt he
  have relations := ResolvedRelation.ofRelations_alike alike he all name (List.Subset.refl _)
  have procedures := TypedProcedure.ofProcedures_alike alike (some (.text name))
    fun p mem => hp _ ⟨p, mem, rfl⟩
  have table := alike.tableFor name isNamed
  have plural : d'.plural name = d.plural name := by
    unfold Directory.plural
    rw [alike.options]
  unfold ofEntity
  cases resolved : ResolvedField.ofFields e.fields with
  | error fault => rfl
  | ok outs =>
    have asks := ResolvedField.asked_of_resolves fields
      ((ResolvedField.ofFields_resolves e.fields).of_eq_ok resolved)
    have depends : ∀ relations, dependencies d' name outs relations =
        dependencies d name outs relations := by
      intro relations
      unfold dependencies
      rw [fieldDependencies_alike alike name asks]
    simp only [ok_bind, relations, depends, procedures, table, plural, alike.options]

end

/-! ### Directories that are built -/

namespace Directory

variable {entities entities' : List Entity} {e : Entity} {options : Options} {name : String}

/-- The table that the options of the directory give to an entity. -/
def ownTable (d : Directory) (name : String) : Value :=
  (d.options.tableFor name).orElse (.text (d.plural name))

/-- Each entity has the table that the options give it. -/
def Tabled (d : Directory) : Prop := d.tables = d.names.map fun name => (name, d.ownTable name)

/-- An entity more keeps the tables in step with the names. -/
lemma tabled_add (h : d.Tabled) : Ensures anyFault Tabled (d.add e) := by
  unfold add
  refine .step fun name => ?_
  split
  · trivial
  · rw [ensures_pure]
    have names : (d.entities ++ [(name, e)]).map (·.1) = d.names ++ [name] := by
      simp [Directory.names]
    change d.tables ++ [_] = ((d.entities ++ [(name, e)]).map (·.1)).map _
    rw [names, List.map_append, show d.tables = _ from h]
    rfl

/-- Whatever the entities are, each has the table that the options give it. -/
theorem build_tabled (entities : List Entity) (options : Options) :
    Ensures anyFault Tabled (build entities options) := by
  have foldlM : ∀ {d : Directory}, d.Tabled → Ensures anyFault Tabled (entities.foldlM add d) := by
    induction entities with
    | nil => exact id
    | cons e rest ih =>
      intro d h
      rw [List.foldlM_cons]
      exact (tabled_add h).bind fun d' h' => ih h'
  exact foldlM rfl

/-- The table of a name is its own if the name is known, and otherwise there is none. -/
lemma Tabled.tableFor (h : d.Tabled) (name : String) :
    d.tableFor name = if name ∈ d.names then d.ownTable name else .null := by
  have found : ∀ names : List String, (names.map fun name => (name, d.ownTable name)).lookup name =
      if name ∈ names then some (d.ownTable name) else none := by
    intro names
    induction names with
    | nil => rfl
    | cons first rest ih =>
      rw [List.map_cons, List.lookup_cons, ih]
      by_cases same : name = first
      · simp [same]
      · simp [same, beq_eq_false_iff_ne.2 same]
  unfold Directory.tableFor tableFor?
  rw [show d.tables = _ from h, found]
  split_ifs <;> rfl

/-- What is known of a directory that is built from entities. -/
structure Built (entities : List Entity) (options : Options) (d : Directory) : Prop where
  options : d.options = options
  lists : d.Lists entities
  indexed : d.Indexed
  tabled : d.Tabled

/-- A directory that can be built at all is known. -/
theorem built_of_build (built : build entities options = .ok d) : d.Built entities options := by
  obtain ⟨same, lists⟩ := (build_ensures (isText_of_build built) options).of_eq_ok built
  exact ⟨same, lists, (build_indexed entities options).of_eq_ok built,
    (build_tabled entities options).of_eq_ok built⟩

lemma Lists.find?_eq_some_iff (h : d.Lists entities) :
    d.find? name = some e ↔ (name, e) ∈ d.entities := by
  constructor
  · exact mem_of_lookup
  · exact fun mem => h.find?_of_mem mem

/-- A directory lists the entities in the order in which they are declared. -/
lemma Lists.entities_eq (h : d.Lists entities) :
    d.entities = entities.filterMap fun e => e.name.text?.map fun name => (name, e) := by
  rw [← h.listed, List.filterMap_map]
  refine List.filterMap_some.symm.trans (List.filterMap_congr fun entry mem => ?_)
  rw [Function.comp_apply, h.named entry mem]
  rfl

/-- Two directories of the same options answer alike where references mean the same, and where they
have the same entities under the names that are asked for or meant. -/
theorem Built.answersAlike (h : d.Built entities options) (h' : d'.Built entities' options)
    (resolve : ∀ reference, asked reference → d'.resolve reference = d.resolve reference)
    (means : ∀ reference, asked reference → ∀ name, d.resolve reference = some name → named name)
    (entries : ∀ name, named name → ∀ e, (name, e) ∈ d'.entities ↔ (name, e) ∈ d.entities) :
    d.AnswersAlike asked named d' := by
  have options : d'.options = d.options := h'.options.trans h.options.symm
  have names : ∀ name, named name → (name ∈ d'.names ↔ name ∈ d.names) := by
    intro name isNamed
    unfold Directory.names
    simp [entries name isNamed]
  have find : ∀ name, named name → d'.find? name = d.find? name := by
    intro name isNamed
    refine Option.ext fun e => ?_
    rw [h'.lists.find?_eq_some_iff, h.lists.find?_eq_some_iff, entries name isNamed]
  refine ⟨options, resolve, fun reference isAsked => ?_, fun name isNamed => ?_,
    fun name isNamed => ?_⟩
  · unfold get?
    rw [resolve reference isAsked]
    cases meant : d.resolve reference with
    | none => rfl
    | some name =>
      change (d'.find? name).bind _ = (d.find? name).bind _
      rw [find name (means reference isAsked name meant)]
  · rw [Bool.eq_iff_iff, contains_iff, contains_iff, names name isNamed]
  · have own : d'.ownTable name = d.ownTable name := by
      unfold ownTable Directory.plural
      rw [options]
    rw [h'.tabled.tableFor, h.tabled.tableFor, own]
    simp only [names name isNamed]

end Directory

end EntityModel
