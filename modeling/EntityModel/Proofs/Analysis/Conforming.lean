import EntityModel.Analysis.Result
import EntityModel.Proofs.Analysis.Directory
import EntityModel.Proofs.Analysis.KeptRelations
import EntityModel.Proofs.Analysis.RereadFields
import EntityModel.Proofs.CreationOrder.Steps
import EntityModel.Proofs.Declaration.Portable

/-!
# Conforming schemas

The slots of a schema are of their declared types, as those of the declarations are from which it is
made, and more is known of some of them: a target, a local field and a join key are names if they
are there at all, and lists that may be missing are not empty (`AnalysisResult.analyze_conforms`).
-/

namespace EntityModel

open Outcome

attribute [local irreducible] FieldKind.lookup

/-! ### Parts of a schema -/

/-- The attributes of a resolved field are of their declared types. -/
structure ResolvedAttributes.Conforms (a : ResolvedAttributes) : Prop where
  nullable : a.nullable.IsFlag
  unique : a.unique.IsFlag
  readonly : a.readonly.IsFlag
  default : ∀ v, a.default = some v → v.IsJson
  refTarget : a.refTarget.IsNameOrNull
  enumValues : ∀ vs, a.enumValues = some vs → vs ≠ [] ∧ ∀ v ∈ vs, v.IsText
  min : a.min.IsPlain
  max : a.max.IsPlain
  pattern : a.pattern.IsTextOrNull
  description : a.description.IsText

/-- The attributes of a resolved field and of all fields inside it are of their declared types; an
object has parts if it has any list of them. -/
inductive ResolvedField.Conforms : ResolvedField → Prop where
  | mk {a : ResolvedAttributes} {items : Option ResolvedField} {shape : Option (List ResolvedField)}
      (own : a.Conforms) (inItems : ∀ item, items = some item → Conforms item)
      (nonempty : shape ≠ some [])
      (inShape : ∀ parts, shape = some parts → ∀ part ∈ parts, Conforms part) :
      Conforms ⟨a, items, shape⟩

/-- The slots of a resolved relation are of their declared types. -/
structure ResolvedRelation.Conforms (r : ResolvedRelation) : Prop where
  name : r.name.IsText
  foreignKey : r.foreignKey.IsText
  localField : r.localField.IsNameOrNull
  eager : r.eager.IsFlag
  orderBy : ∀ o, r.orderBy = some o → ∀ e ∈ o.keys, (∃ column, e.1 = .text column) ∧ e.2.IsText
  limit : r.limit.IsIntOrNull
  through : r.through ≠ some ""
  otherKey : r.otherKey.IsNameOrNull

/-- The slots of a planned index are of their declared types. -/
structure PlannedIndex.Conforms (i : PlannedIndex) : Prop where
  name : i.name.IsText
  table : i.table.IsText
  fields : ∀ v ∈ i.fields, v.IsText
  unique : i.unique.IsFlag
  using_ : i.using_.IsTextOrNull
  where_ : i.where_.IsTextOrNull
  concurrently : i.concurrently.IsFlag

/-- The slots of a typed argument are of their declared types. -/
structure TypedArgument.Conforms (a : TypedArgument) : Prop where
  name : a.name.IsText
  default : a.default.IsTextOrNull

/-- The slots of a typed procedure are of their declared types. -/
structure TypedProcedure.Conforms (p : TypedProcedure) : Prop where
  name : p.name.IsText
  args : ∀ a ∈ p.args, a.Conforms
  entity : ∀ e, p.entity = some e → e.2.IsText
  sql : p.sql.IsText
  language : p.language.IsText
  description : p.description.IsText

def EffectivePolicy.inOrder {α : Type} (given : Operation → Option α) : List (Operation × α) :=
  Operation.all.filterMap fun op => (given op).map (op, ·)

/-- The texts of the predicates and the query fragments of a policy stand in the order of the
operations, one at most for each. -/
structure EffectivePolicy.Conforms (p : EffectivePolicy) : Prop where
  scope : ∀ s ∈ p.scope, s.Conforms
  bypass : ∀ b ∈ p.bypass, b.Conforms
  predicates : ∃ source : Operation → Option String, p.predicates = inOrder source
  sql : ∃ fragment : Operation → Option Value,
    (∀ op v, fragment op = some v → v.IsText) ∧ p.sql = inOrder fragment

/-- The slots of a schema and of its parts are of their declared types. -/
structure Schema.Conforms (s : Schema) : Prop where
  tableName : s.tableName.IsText
  fields : ∀ f ∈ s.fields, f.Conforms
  relations : ∀ r ∈ s.relations, r.Conforms
  computed : ∀ c ∈ s.computed, c.name.IsText
  policy : s.policy.Conforms
  indexes : ∀ i ∈ s.indexes, i.Conforms
  procedures : ∀ p ∈ s.procedures, p.Conforms
  timestamps : s.timestamps.IsFlag
  tags : ∀ v ∈ s.tags, v.IsText
  module : s.module.IsTextOrNull
  group : s.group.IsTextOrNull
  metadata : ∀ e ∈ s.metadata, (∃ key, e.1 = .text key) ∧ e.2.IsJson
  description : s.description.IsText

/-! ### Fields -/

namespace ResolvedField

/-- A portable field is resolved to one that conforms, given its parts do. -/
lemma assemble_conforms {f : Field} (h : f.Portable) (name : Value) {items : Option ResolvedField}
    {shape : Option (List ResolvedField)} (inItems : ∀ item, items = some item → item.Conforms)
    (nonempty : shape ≠ some [])
    (inShape : ∀ parts, shape = some parts → ∀ part ∈ parts, part.Conforms) :
    Ensures anyFault Conforms (assemble name f (resolvedKind f) items shape) := by
  have attributes := h.conforms.attributes
  have sound := h.built.sound
  have target : Value.IsNameOrNull (if resolvedKind f = .reference then f.target else .null) := by
    split_ifs with is
    · have given := sound.targeted (kind_of_resolvedKind (by simp) is)
      exact .inr (attributes.target.isName given)
    · exact .inl rfl
  have values : ∀ vs, (if resolvedKind f = .enumeration then f.values else none) = some vs →
      vs ≠ [] ∧ ∀ v ∈ vs, v.IsText := by
    split_ifs with is
    · intro vs written
      have some := sound.valued (kind_of_resolvedKind (by simp) is)
      exact ⟨by simpa [written] using some, attributes.values vs written⟩
    · simp
  unfold assemble
  refine .step fun _ => .step fun _ => .step fun _ => ?_
  rw [ensures_pure]
  exact .mk ⟨attributes.nullable, attributes.unique, attributes.readonly, h.json.attributes.default,
    target, values, h.min, h.max, h.pattern, attributes.description⟩ inItems nonempty inShape

/-- What is resolved from a portable field conforms. -/
theorem ofKind_conforms {f : Field} (h : f.Portable) (name : Value) :
    Ensures anyFault Conforms (ofKind f name (resolvedKind f)) := by
  induction f using Field.induction_on generalizing name with
  | mk a items shape inItems inShape =>
  have elements : Ensures anyFault (fun items => ∀ item, items = some item → Conforms item)
      (ofItems items) := by
    cases items with
    | none => simp [ofItems, Ensures]
    | some item =>
      refine (inItems item rfl h.item (.text "item")).map ?_
      rintro _ conforms _ ⟨⟩
      exact conforms
  have parts : Ensures anyFault (fun shape => shape ≠ some [] ∧
      ∀ parts, shape = some parts → ∀ part ∈ parts, Conforms part) (ofShape shape) := by
    rcases shape with _ | _ | ⟨part, rest⟩
    · simp [ofShape, Ensures]
    · simp [ofShape, Ensures]
    · have each :
          ∀ f ∈ part :: rest, Ensures anyFault Conforms (ofKind f f.name (resolvedKind f)) :=
        fun f mem => inShape _ rfl f mem (h.part mem) f.name
      rw [ofShape, ofFields_eq_mapM]
      refine (Ensures.mapM (R := fun _ => Conforms) each).map fun results all => ⟨?_, ?_⟩
      · cases all with
        | cons => simp
      · rintro _ ⟨⟩ result mem
        obtain ⟨_, _, conforms⟩ := exists_of_mem_right all mem
        exact conforms
  rw [ofKind_mk]
  refine .ite_bind (fun _ => elements) (fun _ => by simp [Ensures]) fun items inItems => ?_
  refine .ite_bind (fun _ => parts) (fun _ => by simp [Ensures]) fun shape inShape => ?_
  exact assemble_conforms h name inItems inShape.1 inShape.2

lemma ofFields_conforms {fs : List Field} (h : ∀ f ∈ fs, f.Portable) :
    Ensures anyFault (fun results => ∀ f ∈ results, f.Conforms) (ofFields fs) := by
  rw [ofFields_eq_mapM]
  exact Ensures.forall_mapM fun f mem => ofKind_conforms (h f mem) f.name

end ResolvedField

/-! ### The directory -/

namespace Directory

/-- The entities of the directory are portable, their names are not empty, and each has a table. -/
structure Portable (d : Directory) : Prop where
  entities : ∀ entry ∈ d.entities, entry.1 ≠ "" ∧ entry.2.Portable
  tabled : d.tables.map (·.1) = d.names
  tables : ∀ entry ∈ d.tables, entry.2.IsText
  options : d.options.Conforms

lemma isText_of_lookup {tables : List (String × Value)} (texts : ∀ entry ∈ tables, entry.2.IsText)
    {name : String} (mem : name ∈ tables.map (·.1)) : ((tables.lookup name).getD .null).IsText := by
  cases found : tables.lookup name with
  | none =>
    obtain ⟨entry, isEntry, rfl⟩ := List.mem_map.1 mem
    simpa using List.lookup_eq_none_iff.1 found entry isEntry
  | some table =>
    obtain ⟨before, after, split, _⟩ := List.lookup_eq_some_iff.1 found
    exact texts (name, table) (by simp [split])

lemma Portable.tableFor {d : Directory} (h : d.Portable) {name : String}
    (known : name ∈ d.names) : (d.tableFor name).IsText :=
  isText_of_lookup h.tables (h.tabled ▸ known)

/-- A portable entity keeps a directory portable. -/
lemma Portable.add {d : Directory} (h : d.Portable) {e : Entity} (portable : e.Portable) :
    Ensures anyFault Portable (d.add e) := by
  obtain ⟨name, nonempty, named⟩ := portable.name
  unfold Directory.add
  rw [named]
  change Ensures anyFault Portable (if _ then _ else _)
  split_ifs
  · trivial
  · have given : ((d.options.tableFor name).orElse (.text (d.plural name))).IsText := by
      unfold Value.orElse
      split_ifs with given
      · exact (Entries.isTextOrNull_find? h.options _).isText given
      · exact ⟨_, rfl⟩
    refine ⟨?_, ?_, ?_, h.options⟩
    · rintro entry mem
      rcases List.mem_append.1 mem with mem | mem
      · exact h.entities entry mem
      · obtain rfl := List.mem_singleton.1 mem
        exact ⟨nonempty, portable⟩
    · simp [names, h.tabled]
    · rintro entry mem
      rcases List.mem_append.1 mem with mem | mem
      · exact h.tables entry mem
      · obtain rfl := List.mem_singleton.1 mem
        exact given

/-- The directory of portable entities is portable. -/
lemma build_portable {entities : List Entity} (h : ∀ e ∈ entities, e.Portable) {options : Options}
    (conforms : options.Conforms) : Ensures anyFault Portable (build entities options) := by
  have start : Portable { options } := ⟨by simp, rfl, by simp, conforms⟩
  unfold build
  generalize ({ options } : Directory) = d at start
  induction entities generalizing d with
  | nil => exact start
  | cons e rest ih =>
    obtain ⟨first, others⟩ := List.forall_mem_cons.1 h
    rw [List.foldlM_cons]
    exact (start.add first).bind fun next portable => ih others next portable

end Directory

variable {d : Directory}

/-! ### Relations -/

lemma ForeignKey.defaultName_isName (target : String) :
    Value.IsName (.text (defaultName target)) := by
  refine ⟨_, ?_, rfl⟩
  simp [defaultName]

/-- Whatever others may take from a portable entity for a key is a name. -/
lemma Entity.Portable.offers {e : Entity} (portable : e.Portable) : e.Offers Value.IsName where
  fields _ mem := (portable.field mem).name
  keys r mem := (portable.conforms.relations r mem).foreignKey.isName

namespace ResolvedRelation

/-- A relation that conforms is resolved to one that conforms. -/
lemma ofRelation_conforms (h : d.Portable) {fields : List Field}
    (portable : ∀ f ∈ fields, f.Portable)
    (entity : String) {r : Relation} (conforms : r.Conforms) :
    Ensures anyFault (fun out => out.1.Conforms) (ofRelation d entity fields r) := by
  refine (ofRelation_keeps ForeignKey.defaultName_isName
    (fun entry mem => (h.entities entry mem).2.offers) (fun f mem => (portable f mem).name) entity
    conforms.foreignKey.isName fun _ => conforms.otherKey.isName).mono fun out kept => ?_
  obtain ⟨kept, -⟩ := kept
  have localField : out.1.localField.IsNameOrNull := by
    rcases kept.localField with none | same
    · exact .inl none
    · exact .inr (same ▸ kept.foreignKey)
  have through : out.1.through ≠ some "" := by
    intro empty
    rcases kept.through "" empty with known | ⟨given, isEmpty⟩
    · obtain ⟨entry, mem, isEmpty⟩ := List.mem_map.1 known
      exact (h.entities entry mem).1 isEmpty
    · simp [isEmpty, Value.isGiven, Scalar.isGiven] at given
  exact ⟨kept.name ▸ conforms.name, kept.foreignKey.isText, localField, kept.eager ▸ conforms.eager,
    kept.orderBy ▸ conforms.orderBy, kept.limit ▸ conforms.limit, through, kept.otherKey⟩

/-- What is resolved from conforming relations conforms. -/
lemma ofRelations_conforms (h : d.Portable) {fields : List Field}
    (portable : ∀ f ∈ fields, f.Portable) (entity : String) {relations : List Relation}
    (conforms : ∀ r ∈ relations, r.Conforms) :
    Ensures anyFault (fun out => ∀ r ∈ out.1, r.Conforms)
      (ofRelations d entity fields relations) := by
  induction relations with
  | nil => simp [ofRelations, Ensures]
  | cons r rest ih =>
    obtain ⟨first, others⟩ := List.forall_mem_cons.1 conforms
    unfold ofRelations
    refine (ofRelation_conforms h portable entity first).bind fun out own => ?_
    refine (ih others).bind fun outs more => ?_
    exact List.forall_mem_cons.2 ⟨own, more⟩

end ResolvedRelation

/-! ### Procedures, computed properties and indexes -/

namespace TypedProcedure

/-- Arguments that conform are typed as ones that conform. -/
lemma typeArguments_conforms (owner procedure : Value) {args : List Argument}
    (conforms : ∀ a ∈ args, a.Conforms) :
    Ensures anyFault (fun out => ∀ a ∈ out.1, a.Conforms) (typeArguments owner procedure args) := by
  induction args with
  | nil => simp [typeArguments, Ensures]
  | cons a rest ih =>
    obtain ⟨first, others⟩ := List.forall_mem_cons.1 conforms
    have own : Ensures anyFault (fun out => out.1.Conforms) (typeArgument owner procedure a) :=
      .step fun _ => ⟨first.name, first.default⟩
    unfold typeArguments
    refine own.bind fun out own => (ih others).bind fun outs more => ?_
    exact List.forall_mem_cons.2 ⟨own, more⟩

/-- The entity that is returned has a table. -/
lemma isText_of_returnTypeOf (h : d.Portable) (t : TypeExpression) {e : String × Value}
    (returned : (returnTypeOf d t).entity = some e) : e.2.IsText := by
  by_cases void : t.isVoid = true
  · simp [returnTypeOf, void] at returned
  · by_cases known : d.contains t.element = true
    · obtain rfl : (t.element, d.tableFor t.element) = e := by
        simpa [returnTypeOf, void, known] using returned
      exact h.tableFor (Directory.contains_iff.1 known)
    · simp [returnTypeOf, void, known] at returned

lemma ofProcedure_conforms (h : d.Portable) (owner : Option Value) {p : Procedure}
    (conforms : p.Conforms) :
    Ensures anyFault (fun out => out.1.Conforms) (ofProcedure d owner p) := by
  unfold ofProcedure
  refine (typeArguments_conforms _ _ conforms.args).bind fun out args => ?_
  exact ⟨conforms.name, args, fun e => isText_of_returnTypeOf h _, conforms.sql, conforms.language,
    conforms.description⟩

/-- Procedures that conform are typed as ones that conform. -/
lemma ofProcedures_conforms (h : d.Portable) (owner : Option Value) {procedures : List Procedure}
    (conforms : ∀ p ∈ procedures, p.Conforms) :
    Ensures anyFault (fun out => ∀ p ∈ out.1, p.Conforms) (ofProcedures d owner procedures) := by
  induction procedures with
  | nil => simp [ofProcedures, Ensures]
  | cons p rest ih =>
    obtain ⟨first, others⟩ := List.forall_mem_cons.1 conforms
    unfold ofProcedures
    refine (ofProcedure_conforms h owner first).bind fun out own => ?_
    refine (ih others).bind fun outs more => ?_
    exact List.forall_mem_cons.2 ⟨own, more⟩

end TypedProcedure

lemma TypedComputed.ofComputed_name (c : Computed) :
    Ensures anyFault (fun out => out.name = c.name) (ofComputed c) := by
  unfold ofComputed make
  refine .ite_bind (fun _ => within_any _) (fun _ => within_any _) fun known _ => ?_
  cases known with
  | some _ => rfl
  | none => exact .step fun _ => rfl

lemma PlannedIndex.ofIndex_conforms {table : Value} (isText : table.IsText) {i : Index}
    (conforms : i.Conforms) : Ensures anyFault Conforms (ofIndex table i) := by
  have named : Ensures anyFault Value.IsText (.text <$> declaredName table i.fields) :=
    (within_any _).map fun name _ => ⟨name, rfl⟩
  unfold ofIndex
  refine .ite_bind (fun given => ensures_pure.2 (conforms.name.isText given)) (fun _ => named)
    fun name isName => ?_
  exact ⟨isName, isText, conforms.fields, conforms.unique, conforms.using_, conforms.where_,
    conforms.concurrently⟩

namespace IndexPlan

/-- Indexes that are added for fields conform if each of them would. -/
lemma cover_conforms {index : String → PlannedIndex} (all : ∀ name, (index name).Conforms)
    (wanted : ResolvedField → Bool) (fields : List ResolvedField) {plan : List PlannedIndex}
    (conforms : ∀ i ∈ plan, i.Conforms) : ∀ i ∈ cover index wanted fields plan, i.Conforms := by
  unfold cover
  induction fields generalizing plan with
  | nil => exact conforms
  | cons f rest ih =>
    rw [List.foldl_cons]
    split_ifs
    · exact ih (List.forall_mem_append.2 ⟨conforms, List.forall_mem_singleton.2 (all f.name)⟩)
    · exact ih conforms

/-- A plan conforms where its table is a text and the declared indexes conform. -/
lemma make_conforms {table : Value} (isText : table.IsText) (fields : List ResolvedField)
    {declared : List Index} (conforms : ∀ i ∈ declared, i.Conforms) :
    Ensures anyFault (fun plan => ∀ i ∈ plan, i.Conforms) (make table fields declared) := by
  have field (name : String) : ∀ v ∈ [Value.text name], v.IsText :=
    List.forall_mem_singleton.2 ⟨name, rfl⟩
  have reference (name : String) : (PlannedIndex.ofReference table name).Conforms :=
    ⟨⟨_, rfl⟩, isText, field name, ⟨_, rfl⟩, .inl rfl, .inl rfl, ⟨_, rfl⟩⟩
  have unique (name : String) : (PlannedIndex.ofUnique table name).Conforms :=
    ⟨⟨_, rfl⟩, isText, field name, ⟨_, rfl⟩, .inl rfl, .inl rfl, ⟨_, rfl⟩⟩
  unfold make
  refine (Ensures.forall_mapM (Q := PlannedIndex.Conforms) fun i mem => ?_).bind
    fun explicit planned => ?_
  · exact (PlannedIndex.ofIndex_conforms isText (conforms i mem)).bind fun planned own =>
      .step fun _ => own
  · exact cover_conforms unique _ _ (cover_conforms reference _ _ planned)

end IndexPlan

/-! ### Policies -/

namespace EffectivePolicy

/-- The effective form of a policy that conforms does so too. -/
lemma ofPolicy_conforms {p : Policy} (conforms : p.Conforms) : (ofPolicy p).Conforms where
  scope := conforms.scope
  bypass := conforms.bypass
  predicates := ⟨fun op => (p.predicate op).source?, rfl⟩
  sql := by
    refine ⟨fun op => if (p.fragment op).isGiven then some (p.fragment op) else none, ?_, ?_⟩
    · intro op v given
      dsimp only at given
      have isText : (p.fragment op).IsTextOrNull := Entries.isTextOrNull_find? conforms.sql _
      split_ifs at given with isGiven
      obtain rfl := Option.some.inj given
      exact isText.isText isGiven
    · unfold ofPolicy inOrder
      dsimp only
      congr 1
      funext op
      split_ifs <;> rfl

lemma ofOption_conforms {policy : Option Policy} (conforms : ∀ p, policy = some p → p.Conforms) :
    (ofOption policy).Conforms := by
  cases policy with
  | some p => exact ofPolicy_conforms (conforms p rfl)
  | none => exact ⟨by simp [ofOption], by simp [ofOption], ⟨fun _ => none, rfl⟩,
      ⟨fun _ => none, by simp, rfl⟩⟩

end EffectivePolicy

/-! ### Schemas -/

namespace Schema

/-- The schema of a portable entity conforms. -/
theorem ofEntity_conforms (h : d.Portable) {entry : String × Entity} (mem : entry ∈ d.entities) :
    Ensures anyFault (fun out => out.1.Conforms) (ofEntity d entry.1 entry.2) := by
  obtain ⟨name, e⟩ := entry
  have portable := (h.entities _ mem).2
  have conforms := portable.conforms
  have fields : ∀ f ∈ e.fields, f.Portable := fun f mem => portable.field mem
  have table : (d.tableFor name).IsText := h.tableFor (List.mem_map_of_mem mem)
  have computed : ∀ c ∈ e.computed, Ensures anyFault (fun out => out.name.IsText)
      (TypedComputed.ofComputed c) := fun c mem =>
    (TypedComputed.ofComputed_name c).mono fun out same => same ▸ (conforms.computed c mem).name
  have metadata : ∀ entry ∈ e.metadata, (∃ key, entry.1 = .text key) ∧ entry.2.IsJson :=
    fun entry mem => ⟨conforms.metadata entry mem, portable.json.metadata entry mem⟩
  unfold ofEntity
  refine (ResolvedField.ofFields_conforms fields).bind fun resolved fields' => ?_
  refine (ResolvedRelation.ofRelations_conforms h fields name conforms.relations).bind
    fun related relations => ?_
  refine .step fun dependsOn => ?_
  refine (TypedProcedure.ofProcedures_conforms h _ conforms.procedures).bind
    fun typed procedures => ?_
  refine (Ensures.forall_mapM computed).bind fun properties named => ?_
  refine (IndexPlan.make_conforms table resolved conforms.indexes).bind fun plan indexes => ?_
  exact ⟨table, fields', relations, named, EffectivePolicy.ofOption_conforms conforms.policy,
    indexes, procedures, conforms.timestamps, conforms.tags, conforms.module, conforms.group,
    metadata,
    conforms.description⟩

/-- The schemas of portable entities conform. -/
lemma ofEntities_conforms (h : d.Portable) {entries : List (String × Entity)}
    (sub : entries ⊆ d.entities) :
    Ensures anyFault (fun out => ∀ s ∈ out.1, s.Conforms) (ofEntities d entries) := by
  induction entries with
  | nil => simp [ofEntities, Ensures]
  | cons entry rest ih =>
    unfold ofEntities
    refine (ofEntity_conforms h (sub List.mem_cons_self)).bind fun out own => ?_
    refine (ih fun x mem => sub (List.mem_cons_of_mem _ mem)).bind fun outs more => ?_
    exact List.forall_mem_cons.2 ⟨own, more⟩

end Schema

namespace AnalysisResult

/-- The schemas of portable entities conform. -/
theorem analyze_conforms {es : List Entity} (h : ∀ e ∈ es, e.Portable) {options : Options}
    (conforms : options.Conforms) :
    Ensures anyFault (fun r => ∀ s ∈ r.schemas, s.Conforms) (analyze es options) := by
  unfold analyze
  refine (Directory.build_portable h conforms).bind fun d portable => ?_
  unfold ofDirectory
  refine (Schema.ofEntities_conforms portable (List.Subset.refl _)).bind fun ⟨analyzed, _⟩ all => ?_
  have sorted : Ensures anyFault (fun out => out.1 ⊆ analyzed) (CreationOrder.sort analyzed) := by
    cases ordered : CreationOrder.sort analyzed with
    | error fault => trivial
    | ok out => exact CreationOrder.subset_of_sort ordered
  exact sorted.bind fun out sub => .step fun _ s mem => all s (sub mem)

end AnalysisResult

end EntityModel
