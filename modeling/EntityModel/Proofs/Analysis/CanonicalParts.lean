import EntityModel.Proofs.Analysis.CanonicalFields
import EntityModel.Proofs.Analysis.RereadRelations
import EntityModel.Proofs.Analysis.RereadSchemas

/-!
# Canonical parts of a schema

What the canonical text of a relation, an index, a procedure, a computed property or a policy shows
of it. Nothing is lost but the order of the columns by which related records are ordered: a relation
shows which columns there are and the direction of each.
-/

namespace EntityModel

open Value

/-! ### Words -/

lemma RelationKind.tag_inj {k l : RelationKind} : k.tag = l.tag ↔ k = l := by
  cases k <;> cases l <;> simp [RelationKind.tag]

lemma KeySource.word_inj {k l : KeySource} : k.word = l.word ↔ k = l := by
  cases k <;> cases l <;> simp [KeySource.word]

lemma IndexMethod.tag_inj {k l : IndexMethod} : k.tag = l.tag ↔ k = l := by
  cases k <;> cases l <;> simp [IndexMethod.tag]

lemma InferredType.tag_inj {k l : InferredType} : k.tag = l.tag ↔ k = l := by
  cases k <;> cases l <;> simp [InferredType.tag]

lemma Volatility.word_inj {k l : Volatility} : k.word = l.word ↔ k = l := by
  cases k <;> cases l <;> simp [Volatility.word]

lemma Security.word_inj {k l : Security} : k.word = l.word ↔ k = l := by
  cases k <;> cases l <;> simp [Security.word]

/-! ### Relations -/

/-- The columns and directions, sorted by columns. -/
def SortOrder.canonical (o : SortOrder) : SortOrder := { keys := (Entries.ofPairs o.keys).sorted }

namespace ResolvedRelation

/-- The relation with its order, if it has one with any columns, sorted by columns. -/
def canonical (r : ResolvedRelation) : ResolvedRelation :=
  { r with orderBy := (r.orderBy.filter fun o => !o.keys.isEmpty).map SortOrder.canonical }

/-- The slots of the document form of a relation. -/
def slots (r : ResolvedRelation) : List (String × Option Value) :=
  [("name", some r.name), ("kind", some (.text r.kind.tag)), ("target", some (.text r.target)),
    ("target_pascal", some (.text r.targetPascal)), ("foreign_key", some r.foreignKey),
    ("fk_source", some (.text r.keySource.word)), ("target_known", some (.bool r.targetKnown)),
    ("eager", some r.eager), ("local_field", r.localField.ifGiven),
    ("order_by", (r.orderBy.filter fun o => !o.keys.isEmpty).map SortOrder.encode),
    ("limit", r.limit.ifPresent), ("through", r.through.map .text),
    ("other_key", r.otherKey.ifGiven)]

/-- A resolved relation is written as a record of its filled slots. -/
lemma encode_eq_record {r : ResolvedRelation} (h : r.Conforms) :
    r.encode = .record (filled r.slots) := by
  have through : (r.through.filter fun s => !s.isEmpty) = r.through := by
    cases given : r.through with
    | none => rfl
    | some s =>
      have nonempty : s ≠ "" := fun empty => h.through (given.trans (congrArg some empty))
      simp [Option.filter, nonempty]
  rw [encode_eq, through]
  simp [slots]

theorem Conforms.isJson {r : ResolvedRelation} (h : r.Conforms) : r.encode.IsJson := by
  have order : Writes ((r.orderBy.filter fun o => !o.keys.isEmpty).map SortOrder.encode) := by
    refine writes_map fun o given => ?_
    have merged := Entries.forall_ofPairs (K := fun k => ∃ column, k = .text column) (P := IsText)
      (h.orderBy o (Option.filter_eq_some_iff.1 given).1)
    exact .map (fun e mem => (merged e mem).1) fun e mem => (merged e mem).2.isPlain.isJson
  rw [encode_eq_record h]
  refine isJson_record_filled ?_
  simp only [slots, List.forall_mem_cons, List.not_mem_nil, false_imp_iff, implies_true,
    writes_text, writes_bool, true_and, and_true]
  exact ⟨h.name.isPlain.isJson.writes, h.foreignKey.isPlain.isJson.writes,
    h.eager.isPlain.isJson.writes, h.localField.isTextOrNull.isPlain.isJson.writes_ifGiven, order,
    h.limit.isPlain.isJson.writes_ifPresent, writes_map fun s _ => (isPlain_text s).isJson,
    h.otherKey.isTextOrNull.isPlain.isJson.writes_ifGiven⟩

/-- Conforming relations have the same sorted document form just if they have the same canonical
form. -/
theorem Conforms.sorted_encode_iff {r s : ResolvedRelation} (hr : r.Conforms) (hs : s.Conforms) :
    r.encode.sorted = s.encode.sorted ↔ r.canonical = s.canonical := by
  have order : ((r.orderBy.filter fun o => !o.keys.isEmpty).map SortOrder.encode).map Value.sorted =
        ((s.orderBy.filter fun o => !o.keys.isEmpty).map SortOrder.encode).map Value.sorted ↔
      (r.orderBy.filter fun o => !o.keys.isEmpty).map SortOrder.canonical =
        (s.orderBy.filter fun o => !o.keys.isEmpty).map SortOrder.canonical := by
    rw [Option.map_map, Option.map_map]
    exact option_map_eq_map_iff_of_forall fun o _ p _ => by
      simp [SortOrder.encode, SortOrder.canonical]
  have through : (r.through.map Value.text).map Value.sorted =
      (s.through.map Value.text).map Value.sorted ↔ r.through = s.through := by
    cases r.through <;> cases s.through <;> simp
  rw [encode_eq_record hr, encode_eq_record hs,
    sorted_record_filled_iff (by simp [slots]) (by simp [slots])]
  simp only [slots, List.map_cons, List.map_nil, List.cons.injEq, order, through, Option.map_some,
    Option.some.injEq, sorted_scalar, scalar.injEq, Scalar.text.injEq, Scalar.bool.injEq,
    RelationKind.tag_inj, KeySource.word_inj, hr.name.isPlain.sorted_eq_iff hs.name.isPlain,
    hr.foreignKey.isPlain.sorted_eq_iff hs.foreignKey.isPlain,
    hr.eager.isPlain.sorted_eq_iff hs.eager.isPlain, hr.localField.ifGiven_eq_iff hs.localField,
    hr.limit.isPlain.ifPresent_eq_iff hs.limit.isPlain, hr.otherKey.ifGiven_eq_iff hs.otherKey,
    canonical, ResolvedRelation.mk.injEq]
  tauto

end ResolvedRelation

/-! ### Indexes and computed properties -/

namespace PlannedIndex

def slots (i : PlannedIndex) : List (String × Option Value) :=
  [("name", some i.name), ("table", some i.table), ("fields", some (.list i.fields)),
    ("type", some (.text i.method.tag)), ("unique", some i.unique),
    ("auto_generated", some (.bool i.generated)), ("using", i.using_.ifGiven),
    ("where", i.where_.ifGiven), ("concurrently", i.concurrently.ifGiven)]

lemma encode_eq_record {i : PlannedIndex} (h : i.Conforms) :
    i.encode = .record (filled i.slots) := by
  obtain ⟨flag, isFlag⟩ := h.concurrently
  unfold encode
  cases flag <;> simp [slots, isFlag]

theorem Conforms.isJson {i : PlannedIndex} (h : i.Conforms) : i.encode.IsJson := by
  rw [encode_eq_record h]
  refine isJson_record_filled ?_
  simp only [slots, List.forall_mem_cons, List.not_mem_nil, false_imp_iff, implies_true,
    writes_text, writes_bool, true_and, and_true]
  exact ⟨h.name.isPlain.isJson.writes, h.table.isPlain.isJson.writes,
    (isJson_texts h.fields).writes, h.unique.isPlain.isJson.writes,
    h.using_.isPlain.isJson.writes_ifGiven, h.where_.isPlain.isJson.writes_ifGiven,
    h.concurrently.isPlain.isJson.writes_ifGiven⟩

/-- Conforming indexes have the same sorted document form just if they are the same, where what is
empty is not given. -/
theorem Conforms.sorted_encode_iff {i j : PlannedIndex} (hi : i.Conforms) (hj : j.Conforms) :
    i.encode.sorted = j.encode.sorted ↔ i.tidied = j.tidied := by
  rw [encode_eq_record hi, encode_eq_record hj,
    sorted_record_filled_iff (by simp [slots]) (by simp [slots])]
  simp only [slots, List.map_cons, List.map_nil, List.cons.injEq, Option.map_some,
    Option.some.injEq, sorted_scalar, scalar.injEq, Scalar.text.injEq, Scalar.bool.injEq,
    IndexMethod.tag_inj, sorted_texts_eq_iff hi.fields hj.fields,
    hi.name.isPlain.sorted_eq_iff hj.name.isPlain, hi.table.isPlain.sorted_eq_iff hj.table.isPlain,
    hi.unique.isPlain.sorted_eq_iff hj.unique.isPlain,
    hi.using_.isPlain.ifGiven_eq_iff hj.using_.isPlain .null rfl,
    hi.where_.isPlain.ifGiven_eq_iff hj.where_.isPlain .null rfl,
    hi.concurrently.ifGiven_eq_iff hj.concurrently, tidied, PlannedIndex.mk.injEq]
  tauto

end PlannedIndex

namespace TypedComputed

/-- The slots of the document form of a computed property. -/
def slots (c : TypedComputed) : List (String × Option Value) :=
  [("name", some c.name), ("type", some (.text c.type.tag)),
    ("python_type", some (.text c.type.codeType)), ("inferred", some (.bool c.inferred))]

lemma encode_eq_record (c : TypedComputed) : c.encode = .record (filled c.slots) := rfl

lemma isJson_encode {c : TypedComputed} (name : c.name.IsText) : c.encode.IsJson := by
  rw [encode_eq_record]
  refine isJson_record_filled ?_
  simp only [slots, List.forall_mem_cons, List.not_mem_nil, false_imp_iff, implies_true,
    writes_text, writes_bool, and_true]
  exact name.isPlain.isJson.writes

/-- Computed fields are told apart by their sorted documents. -/
lemma sorted_encode_iff {c d : TypedComputed} (hc : c.name.IsText) (hd : d.name.IsText) :
    c.encode.sorted = d.encode.sorted ↔ c = d := by
  obtain ⟨name, type, inferred⟩ := c
  obtain ⟨name', type', inferred'⟩ := d
  rw [encode_eq_record, encode_eq_record,
    sorted_record_filled_iff (by simp [slots]) (by simp [slots])]
  simp only [slots, List.map_cons, List.map_nil, List.cons.injEq, Option.map_some,
    Option.some.injEq, sorted_scalar, scalar.injEq, Scalar.text.injEq, Scalar.bool.injEq,
    InferredType.tag_inj, hc.isPlain.sorted_eq_iff hd.isPlain, TypedComputed.mk.injEq]
  constructor
  · rintro ⟨rfl, rfl, -, rfl, -⟩
    exact ⟨rfl, rfl, rfl⟩
  · rintro ⟨rfl, rfl, rfl⟩
    exact ⟨rfl, rfl, rfl, rfl, trivial⟩

end TypedComputed

/-! ### Procedures -/

namespace TypedArgument

/-- The slots of the document form of an argument. -/
def slots (a : TypedArgument) : List (String × Option Value) :=
  [("name", some a.name), ("type", some (.text a.type)), ("python_type", some (.text a.codeType)),
    ("storage_type", some (.text a.columnType)), ("default", a.default.ifPresent)]

lemma encode_eq_record (a : TypedArgument) : a.encode = .record (filled a.slots) := by
  simp [encode, slots]

theorem Conforms.isJson {a : TypedArgument} (h : a.Conforms) : a.encode.IsJson := by
  rw [encode_eq_record]
  refine isJson_record_filled ?_
  simp only [slots, List.forall_mem_cons, List.not_mem_nil, false_imp_iff, implies_true,
    writes_text, true_and, and_true]
  exact ⟨h.name.isPlain.isJson.writes, h.default.isPlain.isJson.writes_ifPresent⟩

/-- Typed arguments are told apart by their sorted documents. -/
theorem Conforms.sorted_encode_iff {a b : TypedArgument} (ha : a.Conforms) (hb : b.Conforms) :
    a.encode.sorted = b.encode.sorted ↔ a = b := by
  obtain ⟨name, type, codeType, columnType, default⟩ := a
  obtain ⟨name', type', codeType', columnType', default'⟩ := b
  rw [encode_eq_record, encode_eq_record,
    sorted_record_filled_iff (by simp [slots]) (by simp [slots])]
  simp only [slots, List.map_cons, List.map_nil, List.cons.injEq, Option.map_some,
    Option.some.injEq, sorted_scalar, scalar.injEq, Scalar.text.injEq,
    ha.name.isPlain.sorted_eq_iff hb.name.isPlain,
    ha.default.isPlain.ifPresent_eq_iff hb.default.isPlain, TypedArgument.mk.injEq, and_true]

end TypedArgument

namespace TypedProcedure

/-- The slots of the document form of a procedure. -/
def slots (p : TypedProcedure) : List (String × Option Value) :=
  [("name", some p.name), ("args", some (.list (p.args.map TypedArgument.encode))),
    ("returns", some (.text p.returns)), ("return_type", some (.text p.returnType.element)),
    ("is_array", some (.bool p.returnType.isArray)), ("is_void", some (.bool p.returnType.isVoid)),
    ("is_entity", some (.bool p.entity.isSome)), ("storage_type", some (.text p.columnType)),
    ("python_type", some (.text p.codeType)), ("language", some p.language),
    ("volatility", some (.text p.volatility.word)), ("security", some (.text p.security.word)),
    ("entity", p.entity.map fun e => .text e.1), ("table", p.entity.map (·.2)),
    ("sql", p.sql.ifGiven), ("description", p.description.ifGiven)]

lemma encode_eq_record (p : TypedProcedure) : p.encode = .record (filled p.slots) := by
  unfold encode
  cases given : p.entity <;> simp [slots, given]

theorem Conforms.isJson {p : TypedProcedure} (h : p.Conforms) : p.encode.IsJson := by
  have args : (Value.list (p.args.map TypedArgument.encode)).IsJson :=
    .list (List.forall_mem_map.2 fun a mem => (h.args a mem).isJson)
  rw [encode_eq_record]
  refine isJson_record_filled ?_
  simp only [slots, List.forall_mem_cons, List.not_mem_nil, false_imp_iff, implies_true,
    writes_text, writes_bool, true_and, and_true]
  exact ⟨h.name.isPlain.isJson.writes, args.writes, h.language.isPlain.isJson.writes,
    writes_map fun e _ => (isPlain_text e.1).isJson,
    writes_map fun e given => (h.entity e given).isPlain.isJson,
    h.sql.isPlain.isJson.writes_ifGiven, h.description.isPlain.isJson.writes_ifGiven⟩

/-- Typed procedures are told apart by their sorted documents. -/
theorem Conforms.sorted_encode_iff {p q : TypedProcedure} (hp : p.Conforms) (hq : q.Conforms) :
    p.encode.sorted = q.encode.sorted ↔ p = q := by
  have args : (Value.list (p.args.map TypedArgument.encode)).sorted =
      (Value.list (q.args.map TypedArgument.encode)).sorted ↔ p.args = q.args :=
    sorted_list_map_eq_iff_eq fun a mem b mem' =>
      (hp.args a mem).sorted_encode_iff (hq.args b mem')
  have entity : (p.entity.map fun e => Value.text e.1).map Value.sorted =
        (q.entity.map fun e => Value.text e.1).map Value.sorted ∧
      (p.entity.map (·.2)).map Value.sorted = (q.entity.map (·.2)).map Value.sorted ↔
        p.entity = q.entity := by
    cases givenP : p.entity <;> cases givenQ : q.entity <;> simp [Prod.ext_iff]
    case some.some e f =>
      exact fun _ => (hp.entity e givenP).isPlain.sorted_eq_iff (hq.entity f givenQ).isPlain
  have expression : p.returnType = q.returnType ↔
      p.returnType.element = q.returnType.element ∧
      p.returnType.isArray = q.returnType.isArray := by
    cases p.returnType
    cases q.returnType
    simp
  rw [encode_eq_record, encode_eq_record,
    sorted_record_filled_iff (by simp [slots]) (by simp [slots])]
  simp only [slots, List.map_cons, List.map_nil, List.cons.injEq, args, Option.map_some,
    Option.some.injEq, sorted_scalar, scalar.injEq, Scalar.text.injEq, Scalar.bool.injEq,
    Volatility.word_inj, Security.word_inj, hp.name.isPlain.sorted_eq_iff hq.name.isPlain,
    hp.language.isPlain.sorted_eq_iff hq.language.isPlain, hp.sql.ifGiven_eq_iff hq.sql,
    hp.description.ifGiven_eq_iff hq.description]
  constructor
  · rintro ⟨name, args, returns, element, isArray, -, -, column, code, language, volatility,
      security, entity', table, sql, description, -⟩
    cases p
    cases q
    simp only [TypedProcedure.mk.injEq]
    exact ⟨name, args, returns, expression.2 ⟨element, isArray⟩, column, code,
      entity.1 ⟨entity', table⟩, sql, language, volatility, security, description⟩
  · rintro rfl
    simp

end TypedProcedure

/-! ### Policies -/

namespace Scope

/-- The slots of the document form of a scope rule. -/
def slots (s : Scope) : List (String × Option Value) :=
  [("field", some s.field), ("context_key", some s.contextKey)]

lemma encode_eq_record (s : Scope) : s.encode = .record (filled s.slots) := rfl

lemma Conforms.isJson {s : Scope} (h : s.Conforms) : s.encode.IsJson := by
  rw [encode_eq_record]
  refine isJson_record_filled ?_
  simp only [slots, List.forall_mem_cons, List.not_mem_nil, false_imp_iff, implies_true, and_true]
  exact ⟨h.field.isPlain.isJson.writes, h.contextKey.isPlain.isJson.writes⟩

/-- Scope rules are told apart by their sorted documents. -/
lemma Conforms.sorted_encode_iff {s t : Scope} (hs : s.Conforms) (ht : t.Conforms) :
    s.encode.sorted = t.encode.sorted ↔ s = t := by
  obtain ⟨field, contextKey⟩ := s
  obtain ⟨field', contextKey'⟩ := t
  rw [encode_eq_record, encode_eq_record,
    sorted_record_filled_iff (by simp [slots]) (by simp [slots])]
  simp only [slots, List.map_cons, List.map_nil, List.cons.injEq, Option.map_some,
    Option.some.injEq, hs.field.isPlain.sorted_eq_iff ht.field.isPlain,
    hs.contextKey.isPlain.sorted_eq_iff ht.contextKey.isPlain, Scope.mk.injEq, and_true]

end Scope

namespace Bypass

/-- The slots of the document form of a bypass condition. -/
def slots (b : Bypass) : List (String × Option Value) :=
  [("context_key", some b.contextKey), ("values", some (.list b.values))]

lemma encode_eq_record (b : Bypass) : b.encode = .record (filled b.slots) := rfl

lemma Conforms.isJson {b : Bypass} (h : b.Conforms) : b.encode.IsJson := by
  rw [encode_eq_record]
  refine isJson_record_filled ?_
  simp only [slots, List.forall_mem_cons, List.not_mem_nil, false_imp_iff, implies_true, and_true]
  exact ⟨h.contextKey.isPlain.isJson.writes, (isJson_texts h.values).writes⟩

/-- Bypass conditions are told apart by their sorted documents. -/
lemma Conforms.sorted_encode_iff {b c : Bypass} (hb : b.Conforms) (hc : c.Conforms) :
    b.encode.sorted = c.encode.sorted ↔ b = c := by
  obtain ⟨contextKey, values⟩ := b
  obtain ⟨contextKey', values'⟩ := c
  rw [encode_eq_record, encode_eq_record,
    sorted_record_filled_iff (by simp [slots]) (by simp [slots])]
  simp only [slots, List.map_cons, List.map_nil, List.cons.injEq, Option.map_some,
    Option.some.injEq, hb.contextKey.isPlain.sorted_eq_iff hc.contextKey.isPlain,
    sorted_texts_eq_iff hb.values hc.values, Bypass.mk.injEq, and_true]

end Bypass

/-- Functions of an operation agree if they do on each of the four. -/
lemma Operation.funext_iff {α : Type} {f g : Operation → α} : f = g ↔
    f .select = g .select ∧ f .insert = g .insert ∧ f .update = g .update ∧
    f .delete = g .delete := by
  constructor
  · rintro rfl
    exact ⟨rfl, rfl, rfl, rfl⟩
  · rintro ⟨select, insert, update, delete⟩
    funext op
    cases op <;> assumption

namespace EffectivePolicy

/-- What there is for some of the operations, under their names. -/
def byOperation {α : Type} (form : α → Value) (given : List (Operation × α)) : Value :=
  .record (given.map fun (op, a) => (op.name, form a))

section

variable {α : Type} {form : α → Value} {given given' : Operation → Option α}

/-- What is given for operations is written in the order of the operations. -/
lemma byOperation_inOrder : byOperation form (inOrder given) =
    .record (filled (Operation.all.map fun op => (op.name, (given op).map form))) := by
  have parts (ops : List Operation) :
      ((ops.filterMap fun op => (given op).map (op, ·)).map fun (op, a) => (op.name, form a)) =
        filled (ops.map fun op => (op.name, (given op).map form)) := by
    induction ops with
    | nil => rfl
    | cons op rest ih =>
      rw [List.map_cons, filled_cons, ← ih, List.filterMap_cons]
      cases given op <;> rfl
  rw [byOperation, inOrder, parts]

lemma isJson_byOperation (json : ∀ op a, given op = some a → (form a).IsJson) :
    (byOperation form (inOrder given)).IsJson := by
  rw [byOperation_inOrder]
  refine isJson_record_filled (List.forall_mem_map.2 fun op _ => ?_)
  exact writes_map fun a => json op a

/-- What there is for each operation can be told from the record of it. -/
lemma sorted_byOperation_iff (same : ∀ op a, given op = some a → ∀ b, given' op = some b →
      ((form a).sorted = (form b).sorted ↔ a = b)) :
    (byOperation form (inOrder given)).sorted = (byOperation form (inOrder given')).sorted ↔
      inOrder given = inOrder given' := by
  refine ⟨fun forms => ?_, fun parts => by rw [parts]⟩
  have distinct : (Operation.all.map Operation.name).Nodup := by decide
  rw [byOperation_inOrder, byOperation_inOrder, sorted_record_filled_iff (by simp)
    (by rw [List.map_map]; exact distinct), List.map_map, List.map_map] at forms
  refine List.filterMap_congr fun op mem => ?_
  have slot : ((given op).map form).map Value.sorted = ((given' op).map form).map Value.sorted :=
    List.map_inj_left.1 forms op mem
  rw [Option.map_map, Option.map_map] at slot
  have equal := (@option_map_eq_map_iff_of_forall _ _ _ (Value.sorted ∘ form) id _ _
    fun a given b given' => same op a given b given').1 slot
  rw [Option.map_id] at equal
  exact congrArg (Option.map (op, ·)) equal

end

def slots (p : EffectivePolicy) : List (String × Option Value) :=
  [("enabled", some (.bool p.enabled)), ("select", some (.bool (p.controlled .select))),
    ("insert", some (.bool (p.controlled .insert))),
    ("update", some (.bool (p.controlled .update))),
    ("delete", some (.bool (p.controlled .delete))),
    ("scope", some (.list (p.scope.map Scope.encode))),
    ("bypass", some (.list (p.bypass.map Bypass.encode))),
    ("predicates", some (byOperation .text p.predicates)), ("sql", some (byOperation id p.sql))]

lemma encode_eq_record (p : EffectivePolicy) : p.encode = .record (filled p.slots) := rfl

theorem Conforms.isJson {p : EffectivePolicy} (h : p.Conforms) : p.encode.IsJson := by
  have scope : (Value.list (p.scope.map Scope.encode)).IsJson :=
    .list (List.forall_mem_map.2 fun s mem => (h.scope s mem).isJson)
  have bypass : (Value.list (p.bypass.map Bypass.encode)).IsJson :=
    .list (List.forall_mem_map.2 fun b mem => (h.bypass b mem).isJson)
  have predicates : (byOperation .text p.predicates).IsJson := by
    obtain ⟨source, isSource⟩ := h.predicates
    rw [isSource]
    exact isJson_byOperation fun op s _ => (isPlain_text s).isJson
  have sql : (byOperation id p.sql).IsJson := by
    obtain ⟨fragment, texts, isFragment⟩ := h.sql
    rw [isFragment]
    exact isJson_byOperation fun op v given => (texts op v given).isPlain.isJson
  rw [encode_eq_record]
  refine isJson_record_filled ?_
  simp only [slots, List.forall_mem_cons, List.not_mem_nil, false_imp_iff, implies_true,
    writes_bool, true_and, and_true]
  exact ⟨scope.writes, bypass.writes, predicates.writes, sql.writes⟩

/-- Effective policies are told apart by their sorted documents. -/
theorem Conforms.sorted_encode_iff {p q : EffectivePolicy} (hp : p.Conforms) (hq : q.Conforms) :
    p.encode.sorted = q.encode.sorted ↔ p = q := by
  have scope : (Value.list (p.scope.map Scope.encode)).sorted =
      (Value.list (q.scope.map Scope.encode)).sorted ↔ p.scope = q.scope :=
    sorted_list_map_eq_iff_eq fun s mem t mem' =>
      (hp.scope s mem).sorted_encode_iff (hq.scope t mem')
  have bypass : (Value.list (p.bypass.map Bypass.encode)).sorted =
      (Value.list (q.bypass.map Bypass.encode)).sorted ↔ p.bypass = q.bypass :=
    sorted_list_map_eq_iff_eq fun b mem c mem' =>
      (hp.bypass b mem).sorted_encode_iff (hq.bypass c mem')
  have predicates : (byOperation .text p.predicates).sorted =
      (byOperation .text q.predicates).sorted ↔ p.predicates = q.predicates := by
    obtain ⟨source, isSource⟩ := hp.predicates
    obtain ⟨source', isSource'⟩ := hq.predicates
    rw [isSource, isSource']
    exact sorted_byOperation_iff fun op s _ t _ => by simp
  have sql : (byOperation id p.sql).sorted = (byOperation id q.sql).sorted ↔ p.sql = q.sql := by
    obtain ⟨fragment, texts, isFragment⟩ := hp.sql
    obtain ⟨fragment', texts', isFragment'⟩ := hq.sql
    rw [isFragment, isFragment']
    exact sorted_byOperation_iff fun op v given w given' =>
      (texts op v given).isPlain.sorted_eq_iff (texts' op w given').isPlain
  rw [encode_eq_record, encode_eq_record,
    sorted_record_filled_iff (by simp [slots]) (by simp [slots])]
  simp only [slots, List.map_cons, List.map_nil, List.cons.injEq, Option.map_some,
    Option.some.injEq, sorted_scalar, scalar.injEq, Scalar.bool.injEq, scope, bypass,
    predicates, sql]
  constructor
  · rintro ⟨-, select, insert, update, delete, scope, bypass, predicates, sql, -⟩
    cases p
    cases q
    simp only [EffectivePolicy.mk.injEq]
    exact ⟨Operation.funext_iff.2 ⟨select, insert, update, delete⟩, scope, bypass, predicates, sql⟩
  · rintro rfl
    simp

end EffectivePolicy

end EntityModel
