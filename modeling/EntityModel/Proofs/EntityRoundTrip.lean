import EntityModel.Proofs.Declaration.FieldRoundTrip
import EntityModel.Proofs.Declaration.PartsRoundTrip

/-!
# Entities through their documents

Writing an entity and reading it back brings it into a normal form, in one step: what is read is
accepted by the constructors, and written and read once more it does not change.
-/

namespace EntityModel

open Outcome

namespace Entity

/-- The constructors accept the entity and everything declared on it. -/
structure Built (e : Entity) : Prop where
  own : e.checked = .ok e
  fields : ∀ f ∈ e.fields, f.Built
  relations : ∀ r ∈ e.relations, r.checked = .ok r
  policy : ∀ p, e.policy = some p → p.Built
  indexes : ∀ i ∈ e.indexes, i.checked = .ok i
  procedures : ∀ p ∈ e.procedures, p.Built

/-- The entity has a name, and its parts have distinct names. -/
structure Sound (e : Entity) : Prop where
  named : e.name.isGiven = true
  fields : checkNames .field e.name [] (e.fields.map (·.name)) = .ok ()
  relations : checkNames .relation e.name [] (e.relations.map (·.name)) = .ok ()
  procedures : checkNames .procedure e.name [] (e.procedures.map (·.name)) = .ok ()

/-- An entity passes its checks just where it is sound. -/
lemma checked_eq_ok_iff (e : Entity) : checked e = .ok e ↔ e.Sound := by
  unfold checked
  dsimp only
  rw [guard_eq_ok_iff, bind_eq_ok_iff]
  constructor
  · rintro ⟨named, _, fields, rest⟩
    obtain ⟨_, relations, rest⟩ := bind_eq_ok_iff.1 rest
    obtain ⟨_, procedures, _⟩ := bind_eq_ok_iff.1 rest
    exact ⟨by simpa using named, fields, relations, procedures⟩
  · intro ⟨named, fields, relations, procedures⟩
    refine ⟨by simpa using named, (), fields, ?_⟩
    rw [relations, procedures]
    rfl

/-- A sound entity is sound after reading. -/
lemma Sound.reread {e : Entity} (sound : e.Sound) : e.reread.Sound := by
  have fields : e.reread.fields.map (·.name) = e.fields.map (·.name) := by
    simp [Entity.reread]
  have relations : e.reread.relations.map (·.name) = e.relations.map (·.name) := by
    simp [Entity.reread, Relation.reread]
  have procedures : e.reread.procedures.map (·.name) = e.procedures.map (·.name) := by
    simp [Entity.reread, Procedure.reread]
  refine ⟨sound.named, ?_, ?_, ?_⟩
  · rw [fields]
    exact sound.fields
  · rw [relations]
    exact sound.relations
  · rw [procedures]
    exact sound.procedures

/-- The constructors accept what is read back. -/
theorem Built.reread {e : Entity} (built : e.Built) : e.reread.Built where
  own := (checked_eq_ok_iff _).2 ((checked_eq_ok_iff e).1 built.own).reread
  fields := by
    intro f mem
    obtain ⟨own, isField, rfl⟩ := List.mem_map.1 mem
    have built := built.fields own isField
    rw [← Field.withName_reread_name]
    exact built.reread built.sound.named
  relations := by
    intro r mem
    obtain ⟨own, isRelation, rfl⟩ := List.mem_map.1 mem
    exact Relation.checked_reread (built.relations own isRelation)
  policy := by
    intro p isPolicy
    obtain ⟨own, given, rfl⟩ := Option.map_eq_some_iff.1 isPolicy
    exact (built.policy own (Option.eq_some_of_filter_eq_some given)).reread
  indexes := by
    intro i mem
    obtain ⟨own, isIndex, rfl⟩ := List.mem_map.1 mem
    exact Index.checked_reread (built.indexes own isIndex)
  procedures := by
    intro p mem
    obtain ⟨own, isProcedure, rfl⟩ := List.mem_map.1 mem
    exact (built.procedures own isProcedure).reread

/-- Reading an entity back once more changes nothing. -/
theorem reread_reread (e : Entity) : e.reread.reread = e.reread := by
  have fields : (e.fields.map Field.reread).map Field.reread = e.fields.map Field.reread := by
    simp [Field.reread_reread]
  have relations : (e.relations.map Relation.reread).map Relation.reread =
      e.relations.map Relation.reread := by
    simp [Relation.reread_reread]
  have computed : (e.computed.map Computed.reread).map Computed.reread =
      e.computed.map Computed.reread := by
    simp [Computed.reread_reread]
  have indexes : (e.indexes.map Index.reread).map Index.reread = e.indexes.map Index.reread := by
    simp [Index.reread_reread]
  have procedures : (e.procedures.map Procedure.reread).map Procedure.reread =
      e.procedures.map Procedure.reread := by
    simp [Procedure.reread_reread]
  have policy : (((e.policy.filter (·.encode.isGiven)).map Policy.reread).filter
      (·.encode.isGiven)).map Policy.reread =
        (e.policy.filter (·.encode.isGiven)).map Policy.reread := by
    cases e.policy with
    | none => rfl
    | some p =>
      cases given : p.encode.isGiven <;>
        simp [Option.filter, given, Policy.encode_reread, Policy.reread_reread]
  unfold reread
  simp only [fields, relations, computed, indexes, procedures, policy, Value.isGiven_bool,
    Value.orElse_orElse]

/-! ### Reading back -/

/-- A section that is written if it has parts is read back where it is. -/
@[simp] lemma lookup_encodeSome (key written : String) (forms : List Value) :
    (encodeSome written forms).lookup key =
      if key == written && !forms.isEmpty then some (.list forms) else none := by
  unfold encodeSome
  cases forms with
  | nil => simp
  | cons form rest =>
    rw [if_neg (by simp), List.lookup_cons]
    cases key == written <;> rfl

/-- The entries of the document form of an entity. -/
def entries (e : Entity) : List (String × Value) :=
  [("name", e.name), ("fields", .list (e.fields.map Field.encode))] ++
    encodeSome "relations" (e.relations.map Relation.encode) ++
    encodeSome "computed" (e.computed.map Computed.encode) ++
    optionalEntry "rls" (e.policy.map Policy.encode) ++
    encodeSome "indexes" (e.indexes.map Index.encode) ++
    encodeSome "rpc" (e.procedures.map Procedure.encode) ++
    (if e.timestamps.isGiven then [] else [("timestamps", .bool false)]) ++
    encodeSome "tags" e.tags ++
    (if e.module.isGiven then [("module", e.module)] else []) ++
    (if e.group.isGiven then [("group", e.group)] else []) ++
    (if e.metadata.isEmpty then [] else [("metadata", .map e.metadata)]) ++
    (if e.description.isGiven then [("description", e.description)] else [])

lemma encode_eq (e : Entity) : e.encode = .record e.entries := by
  unfold encode entries
  cases e.policy <;> rfl

variable {α : Type} {parts : List (String × Value)} {key shorthand : String} {forms : List Value}
  {results : List α}

/-- A section is read from the entry under its key. -/
lemma decodeNamed_record {decode : Value → Value → Outcome α}
    (listed : ((parts.lookup key).getD .null).orElse (.list []) = .list forms)
    (read : forms.mapM (decode .null) = .ok results) :
    decodeNamed key shorthand decode (.record parts) = .ok results := by
  rw [decodeNamed, Value.optional_record, ok_bind, listed]
  exact read

lemma decodeListed_record {decode : Value → Outcome α}
    (listed : (parts.lookup key).getD (.list []) = .list forms)
    (read : forms.mapM decode = .ok results) :
    decodeListed key decode (.record parts) = .ok results := by
  rw [decodeListed, Value.entryOr_record, ok_bind, listed]
  exact read

lemma timestamps_getD (v : Value) :
    (if v.isGiven then none else some (Value.bool false)).getD (.bool true) = .bool v.isGiven := by
  cases v.isGiven <;> rfl

/-- A policy that its constructor accepts is read back from its form. -/
lemma decodePolicy_eq {policy : Option Policy} (built : ∀ p, policy = some p → p.Built) :
    let written := (policy.map Policy.encode).getD .null
    (if written.isGiven then some <$> Policy.decode written else pure none) =
      .ok ((policy.filter (·.encode.isGiven)).map Policy.reread) := by
  cases policy with
  | none => rfl
  | some p =>
    cases given : p.encode.isGiven with
    | false => simp [given, Option.filter, pure, Except.pure]
    | true => simp [given, Option.filter, Policy.decode_encode (built p rfl)]

lemma ite_bind_of_eq {c : Prop} [Decidable c] {x y : Outcome α} {a : α} {β : Type}
    (read : (if c then x else y) = .ok a) (next : α → Outcome β) :
    (if c then x >>= next else y >>= next) = next a := by
  split_ifs at read ⊢ <;> rw [read] <;> rfl

/-- What is read back from the document form of an entity that the constructors accept. -/
theorem decode_encode {e : Entity} (built : e.Built) : decode e.encode = .ok e.reread := by
  have fields := mapM_map_eq_ok e.fields fun f mem => by
    simpa [Field.withName_reread_name] using Field.decode_encode (built.fields f mem) .null
  have relations := mapM_map_eq_ok e.relations fun r mem =>
    Relation.decode_encode (built.relations r mem)
  have computed := mapM_map_eq_ok e.computed fun c _ => c.decode_encode
  have indexes := mapM_map_eq_ok e.indexes fun i mem => Index.decode_encode (built.indexes i mem)
  have procedures := mapM_map_eq_ok e.procedures fun p mem =>
    Procedure.decode_encode (built.procedures p mem)
  have name : (Value.record e.entries).entry "name" = .ok e.name := by simp [entries]
  have policy : e.entries.lookup "rls" = e.policy.map Policy.encode := by
    simp [entries, List.lookup_append, List.lookup_cons]
  have named := ((checked_eq_ok_iff e).1 built.own).named
  rw [encode_eq]
  unfold decode
  rw [decodeNamed_record (by simp [entries, List.lookup_cons]) fields,
    decodeNamed_record (by simp [entries, List.lookup_append, List.lookup_cons,
      Value.orElse_getD_ite_nil]) relations,
    decodeListed_record (by simp [entries, List.lookup_append, List.lookup_cons,
      Value.getD_ite_nil]) computed,
    decodeListed_record (by simp [entries, List.lookup_append, List.lookup_cons,
      Value.getD_ite_nil]) indexes,
    decodeNamed_record (by simp [entries, List.lookup_append, List.lookup_cons,
      Value.orElse_getD_ite_nil]) procedures]
  simp only [Value.optional_record, name, ok_bind, policy]
  rw [ite_bind_of_eq (decodePolicy_eq built.policy)]
  have tags := Value.getD_ite_nil e.tags id
  rw [List.map_id] at tags
  simp [entries, List.lookup_append, List.lookup_cons, Value.getD_ite_isGiven, named,
    timestamps_getD, tags, Value.getD_ite_empty, Value.toEntries]
  exact built.reread.own

/-- An entity that the constructors accept is written and read back in a normal form: what is read
is read once more without a change. -/
theorem decode_encode_normalizes {e : Entity} (built : e.Built) :
    decode e.encode = .ok e.reread ∧ decode e.reread.encode = .ok e.reread := by
  constructor
  · exact decode_encode built
  · rw [decode_encode built.reread, reread_reread]

/-! ### An example -/

/-- A text of bounded length. -/
def street : Field :=
  { name := "street", constraints := some { min := .int 1, max := .int 80 } }

/-- An array whose elements have a name of their own and an empty list of parts. -/
def rooms : Field :=
  { name := "rooms", type := "array",
    items := some { name := "room", type := "object", shape := some [] } }

/-- An author whose declaration is not in normal form: texts that are empty, constraints without a
bound, elements of arrays under names of their own, a column twice in an order, a policy without
rules. -/
def author : Entity where
  name := "author"
  fields := [
    { name := "mood", type := "enum", values := some ["calm", "cross"], hint := .text "",
      constraints := some {} },
    { name := "homes", type := "array",
      items := some { name := "home", type := "object", shape := some [street, rooms] } }]
  relations := [{
    name := "posts", kind := .hasMany, target := "post", through := .text "",
    orderBy := some {
      keys := [(.text "at", "desc"), (.text "title", "asc"), (.text "at", "ASC")]
      listed := true } }]
  computed := [{ name := "age", type := .text "" }]
  policy := some {}
  indexes := [{ fields := ["mood"], where_ := .text "" }]
  procedures := [{
    name := "publish", returns := "post[]", args := [{ name := "id", type := "uuid" }] }]

/-- The constructor accepts the author. -/
lemma author_built : author.Built := by
  have street : street.Built := by
    apply Field.Built.mk rfl
    · rintro _ ⟨⟩
      rfl
    · simp
    · simp
  have rooms : rooms.Built := by
    apply Field.Built.mk rfl
    · simp
    · rintro _ ⟨⟩
      exact .mk rfl (by simp) (by simp) (by simp)
    · simp
  have home : Field.Built
      { name := "home", type := "object", shape := some [Entity.street, Entity.rooms] } :=
    .mk rfl (by simp) (by simp) (by simp [street, rooms])
  constructor
  · rfl
  · refine List.forall_mem_cons.2 ⟨?_, ?_⟩
    · exact .mk rfl (by rintro _ ⟨⟩; rfl) (by simp) (by simp)
    · exact List.forall_mem_singleton.2 (.mk rfl (by simp) (by rintro _ ⟨⟩; exact home) (by simp))
  · exact List.forall_mem_singleton.2 rfl
  · rintro _ ⟨⟩
    rfl
  · exact List.forall_mem_singleton.2 rfl
  · exact List.forall_mem_singleton.2 rfl

/-- The author is read back once and for all. -/
theorem author_normalizes : author.Built ∧
    decode author.encode = .ok author.reread ∧ decode author.reread.encode = .ok author.reread :=
  ⟨author_built, decode_encode_normalizes author_built⟩

end Entity

end EntityModel
