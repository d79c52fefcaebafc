import EntityModel.Proofs.Declaration.Reread
import EntityModel.Proofs.Outcome
import EntityModel.Proofs.Value.Record

/-!
# Reading back the documents of the other parts

Each part of an entity's declaration that its constructor accepts is read back from its document
form as its `reread` says, and what is read is accepted again. An order is written as a mapping, so
it is read back with each column once.
-/

namespace EntityModel

open Outcome

/-! ### Mappings out of pairs -/

namespace Entries

/-- No key stands before one that counts as the same. -/
def Distinct (entries : Entries) : Prop := entries.Pairwise fun a b => a.1.same b.1 = false

lemma put_of_absent {key : Scalar} {entries : Entries} (value : Value)
    (absent : ∀ e ∈ entries, e.1.same key = false) :
    put key value entries = entries ++ [(key, value)] := by
  induction entries with
  | nil => rfl
  | cons entry rest ih =>
    obtain ⟨first, others⟩ := List.forall_mem_cons.1 absent
    rw [put, if_neg (by simp [first]), ih others, List.cons_append]

/-- A key that is put stands there already, or comes last. -/
lemma keys_put (key : Scalar) (value : Value) (entries : Entries) :
    (put key value entries).map (·.1) = entries.map (·.1) ∨
      (∀ e ∈ entries, e.1.same key = false) ∧
      put key value entries = entries ++ [(key, value)] := by
  induction entries with
  | nil => exact .inr ⟨by simp, rfl⟩
  | cons entry rest ih =>
    rw [put]
    by_cases here : entry.1.same key = true
    · rw [if_pos here]
      exact .inl rfl
    · rw [if_neg here]
      rcases ih with same | ⟨absent, last⟩
      · exact .inl (by rw [List.map_cons, same, List.map_cons])
      · exact .inr ⟨List.forall_mem_cons.2 ⟨by simpa using here, absent⟩, by rw [last]; rfl⟩

/-- Keys stay distinct when a value is put under a key. -/
lemma distinct_put {key : Scalar} {value : Value} {entries : Entries}
    (distinct : Distinct entries) :
    Distinct (put key value entries) := by
  unfold Distinct at distinct ⊢
  rcases keys_put key value entries with same | ⟨absent, last⟩
  · rw [← List.pairwise_map (f := fun e : Scalar × Value => e.1)
      (R := fun a b => a.same b = false)] at distinct ⊢
    rwa [same]
  · rw [last, List.pairwise_append]
    exact ⟨distinct, by simp, fun a mem b last => by
      obtain rfl := List.mem_singleton.1 last
      exact absent a mem⟩

lemma distinct_foldl_put {pairs entries : Entries} (distinct : Distinct entries) :
    Distinct (pairs.foldl (fun entries pair => put pair.1 pair.2 entries) entries) := by
  induction pairs generalizing entries with
  | nil => exact distinct
  | cons pair rest ih => exact ih (distinct_put distinct)

lemma distinct_ofPairs (pairs : Entries) : Distinct (ofPairs pairs) :=
  distinct_foldl_put List.Pairwise.nil

/-- Entries with distinct keys are put one behind the other. -/
lemma foldl_put_of_distinct {pairs entries : Entries} (distinct : Distinct (entries ++ pairs)) :
    pairs.foldl (fun entries pair => put pair.1 pair.2 entries) entries = entries ++ pairs := by
  induction pairs generalizing entries with
  | nil => simp
  | cons pair rest ih =>
    have absent : ∀ e ∈ entries, e.1.same pair.1 = false := fun e mem =>
      (List.pairwise_append.1 distinct).2.2 e mem pair List.mem_cons_self
    rw [List.foldl_cons, put_of_absent pair.2 absent, ih (by simpa using distinct)]
    simp

lemma ofPairs_of_distinct {pairs : Entries} (distinct : Distinct pairs) : ofPairs pairs = pairs :=
  foldl_put_of_distinct distinct

@[simp] lemma ofPairs_ofPairs (pairs : Entries) : ofPairs (ofPairs pairs) = ofPairs pairs :=
  ofPairs_of_distinct (distinct_ofPairs pairs)

/-- Properties of the keys and of the values are those of the keys and the values in the mapping. -/
lemma forall_put {K : Scalar → Prop} {P : Value → Prop} {key : Scalar} {value : Value}
    {entries : Entries} (here : K key ∧ P value) (all : ∀ e ∈ entries, K e.1 ∧ P e.2) :
    ∀ e ∈ put key value entries, K e.1 ∧ P e.2 := by
  induction entries with
  | nil => simpa [put] using here
  | cons entry rest ih =>
    obtain ⟨first, others⟩ := List.forall_mem_cons.1 all
    rw [put]
    split_ifs
    · exact List.forall_mem_cons.2 ⟨⟨first.1, here.2⟩, others⟩
    · exact List.forall_mem_cons.2 ⟨first, ih others⟩

/-- What holds of all pairs holds of the mapping made from them. -/
lemma forall_ofPairs {K : Scalar → Prop} {P : Value → Prop} {pairs : Entries}
    (all : ∀ e ∈ pairs, K e.1 ∧ P e.2) : ∀ e ∈ ofPairs pairs, K e.1 ∧ P e.2 := by
  suffices h : ∀ entries : Entries, (∀ e ∈ entries, K e.1 ∧ P e.2) →
      ∀ e ∈ pairs.foldl (fun entries pair => put pair.1 pair.2 entries) entries, K e.1 ∧ P e.2 from
    h [] (by simp)
  induction pairs with
  | nil => exact fun _ h => h
  | cons pair rest ih =>
    obtain ⟨first, others⟩ := List.forall_mem_cons.1 all
    exact fun entries h => ih others _ (forall_put first h)

lemma isEmpty_put (key : Scalar) (value : Value) (entries : Entries) :
    (put key value entries).isEmpty = false := by
  cases entries with
  | nil => rfl
  | cons entry rest =>
    rw [put]
    split_ifs <;> rfl

/-- Only no pairs at all make an empty mapping. -/
lemma isEmpty_ofPairs (pairs : Entries) : (ofPairs pairs).isEmpty = pairs.isEmpty := by
  suffices h : ∀ entries : Entries,
      (pairs.foldl (fun entries pair => put pair.1 pair.2 entries) entries).isEmpty =
        (entries.isEmpty && pairs.isEmpty) from h []
  induction pairs with
  | nil => simp
  | cons pair rest ih =>
    intro entries
    rw [List.foldl_cons, ih, isEmpty_put]
    simp

end Entries

/-! ### Relations -/

namespace SortOrder

/-- Directions are accepted where each is written as one of the two, in any case. -/
lemma checkDirections_eq_ok_iff (keys : Entries) : checkDirections keys = .ok () ↔
    ∀ e ∈ keys, ∃ written, e.2 = .text written ∧
      (Text.lowercase written = "asc" ∨ Text.lowercase written = "desc") := by
  induction keys with
  | nil => simp [checkDirections]
  | cons entry rest ih =>
    obtain ⟨column, direction⟩ := entry
    rw [checkDirections, bind_eq_ok_iff, List.forall_mem_cons, ← ih]
    dsimp only
    constructor
    · rintro ⟨written, isText, checked⟩
      split_ifs at checked with word
      · refine ⟨⟨written, ?_, by simpa using word⟩, checked⟩
        cases direction with
        | scalar s => cases s <;> simp_all [Value.asText, wrongKind]
        | list | map => simp [Value.asText, wrongKind] at isText
      · simp [refuse] at checked
    · rintro ⟨⟨written, rfl, word⟩, checked⟩
      exact ⟨written, rfl, by rw [if_pos (by simpa using word)]; exact checked⟩

/-- The columns of an accepted order are still accepted when merged. -/
lemma checkDirections_merged {o : SortOrder} (checked : checkDirections o.keys = .ok ()) :
    checkDirections o.merged.keys = .ok () := by
  rw [checkDirections_eq_ok_iff] at checked ⊢
  have merged := Entries.forall_ofPairs (K := fun _ => True) (P := fun direction =>
    ∃ written, direction = .text written ∧
      (Text.lowercase written = "asc" ∨ Text.lowercase written = "desc"))
    fun e mem => ⟨trivial, checked e mem⟩
  exact fun e mem => (merged e mem).2

@[simp] lemma merged_merged (o : SortOrder) : o.merged.merged = o.merged := by
  simp [merged]

end SortOrder

namespace Relation

/-- The relation has a name and a target, and its order and its limit make sense. -/
structure Sound (r : Relation) : Prop where
  named : r.name.isGiven = true
  targeted : r.target.isGiven = true
  directed : ∀ o, r.orderBy = some o → SortOrder.checkDirections o.keys = .ok ()
  limited : r.limit.isNull = true ∨ Value.before r.limit (.int 0) = .ok false

/-- A relation passes its checks just where it is sound. -/
lemma checked_eq_ok_iff (r : Relation) : checked r = .ok r ↔ r.Sound := by
  have limit : (do
      if !r.limit.isNull then
        if ← Value.before r.limit (.int 0) then refuse (.negativeLimit r.limit)
      return r) = (.ok r : Outcome Relation) ↔
        r.limit.isNull = true ∨ Value.before r.limit (.int 0) = .ok false := by
    by_cases null : r.limit.isNull = true
    · simp [null, pure, Except.pure]
    · cases before : Value.before r.limit (.int 0) with
      | error fault => simp [null]; exact nofun
      | ok negative => cases negative <;> simp [null, refuse, pure, Except.pure]; exact nofun
  unfold checked
  dsimp only at limit ⊢
  rw [guard_eq_ok_iff, guard_eq_ok_iff]
  constructor
  · rintro ⟨named, targeted, rest⟩
    cases order : r.orderBy with
    | none =>
      rw [order] at rest
      exact ⟨by simpa using named, by simpa using targeted, by simp [order], limit.1 rest⟩
    | some o =>
      rw [order] at rest
      obtain ⟨_, directed, rest⟩ := bind_eq_ok_iff.1 rest
      exact ⟨by simpa using named, by simpa using targeted, by simpa [order] using directed,
        limit.1 rest⟩
  · rintro ⟨named, targeted, directed, limited⟩
    refine ⟨by simpa using named, by simpa using targeted, ?_⟩
    cases order : r.orderBy with
    | none => exact limit.2 limited
    | some o => exact bind_eq_ok_iff.2 ⟨(), directed o order, limit.2 limited⟩

/-- A sound relation is sound after reading. -/
lemma Sound.reread {r : Relation} (sound : r.Sound) : r.reread.Sound where
  named := sound.named
  targeted := sound.targeted
  directed o isOrder := by
    obtain ⟨own, given, rfl⟩ := Option.map_eq_some_iff.1 isOrder
    have directed := sound.directed own (Option.eq_some_of_filter_eq_some given)
    exact SortOrder.checkDirections_merged directed
  limited := sound.limited

/-- Reading a second time changes nothing. -/
lemma reread_reread (r : Relation) : r.reread.reread = r.reread := by
  have order : r.reread.givenOrder.map SortOrder.merged = r.givenOrder.map SortOrder.merged := by
    change ((r.givenOrder.map SortOrder.merged).filter fun o => !o.keys.isEmpty).map _ = _
    cases order : r.givenOrder with
    | none => rfl
    | some o =>
      have given : o.keys.isEmpty = false := by
        simpa using (Option.filter_eq_some_iff.1 order).2
      have still : o.merged.keys.isEmpty = false := (Entries.isEmpty_ofPairs _).trans given
      rw [Option.map_some, Option.filter, still]
      simp
  unfold reread at order ⊢
  simp [order]

/-- The entries of the document form of a relation. -/
def entries (r : Relation) : List (String × Value) :=
  [("name", r.name), ("kind", .text r.kind.tag), ("target", r.target)] ++
    (if r.foreignKey.isGiven then [("foreign_key", r.foreignKey)] else []) ++
    (if r.eager.isGiven then [("eager", .bool true)] else []) ++
    optionalEntry "order_by" (r.givenOrder.map SortOrder.encode) ++
    (if r.limit.isNull then [] else [("limit", r.limit)]) ++
    (if r.through.isGiven then [("through", r.through)] else []) ++
    (if r.otherKey.isGiven then [("other_key", r.otherKey)] else [])

lemma encode_eq (r : Relation) : r.encode = .record r.entries := by
  unfold encode entries
  cases r.givenOrder <;> rfl

lemma isGiven_tag (kind : RelationKind) : Value.isGiven (.text kind.tag) = true := by
  cases kind <;> rfl

lemma parse_tag (kind : RelationKind) : RelationKind.parse kind.tag = .ok kind := by
  cases kind <;> rfl

/-- The order of a relation is read back merged from its form. -/
lemma decodeOrder_givenOrder (r : Relation) :
    decodeOrder ((r.givenOrder.map SortOrder.encode).getD .null) =
      .ok (r.givenOrder.map SortOrder.merged) := by
  cases order : r.givenOrder with
  | none => rfl
  | some o =>
    have given : o.encode.isGiven = true := by
      have some : o.keys.isEmpty = false := by simpa using (Option.filter_eq_some_iff.1 order).2
      rw [SortOrder.encode, Value.isGiven_map, Entries.isEmpty_ofPairs, some]
      rfl
    rw [decodeOrder, Option.map_some, Option.getD_some, if_pos given]
    rfl

/-- A relation that passes its checks is read back from its document form. -/
theorem decode_encode {r : Relation} (built : checked r = .ok r) :
    decode .null r.encode = .ok r.reread := by
  have sound := ((checked_eq_ok_iff r).1 built).reread
  have kind := parse_tag r.kind
  have order := decodeOrder_givenOrder r
  rw [encode_eq, decode]
  simp [entries, decodeKind, List.lookup_append, List.lookup_cons, Value.getD_ite_isGiven,
    Value.getD_ite_flag, Value.getD_ite_isNull, isGiven_tag, Value.asText, kind, order]
  exact (checked_eq_ok_iff _).2 sound

lemma checked_reread {r : Relation} (built : checked r = .ok r) : checked r.reread = .ok r.reread :=
  (checked_eq_ok_iff _).2 ((checked_eq_ok_iff r).1 built).reread

end Relation

/-! ### Indexes -/

namespace Index

lemma member_tag (method : IndexMethod) : IndexMethod.member (.text method.tag) = .ok method := by
  cases method <;> rfl

lemma checked_eq_ok_iff (i : Index) : checked i = .ok i ↔ i.fields ≠ [] := by
  unfold checked
  cases i.fields <;> simp [refuse]

lemma checked_reread {i : Index} (built : checked i = .ok i) : checked i.reread = .ok i.reread :=
  (checked_eq_ok_iff _).2 ((checked_eq_ok_iff i).1 built)

lemma reread_reread (i : Index) : i.reread.reread = i.reread := by
  simp [reread]

/-- An index that passes its checks is read back from its document form. -/
theorem decode_encode {i : Index} (built : checked i = .ok i) : decode i.encode = .ok i.reread := by
  have method := member_tag i.method
  rw [encode, decode]
  simp [List.lookup_append, List.lookup_cons, Value.getD_ite_isGiven, Value.getD_ite_flag,
    method]
  exact checked_reread built

end Index

/-! ### Computed properties -/

namespace Computed

lemma reread_reread (c : Computed) : c.reread.reread = c.reread := by
  simp [reread]

/-- A computed property is read back from its document form. -/
theorem decode_encode (c : Computed) : decode c.encode = .ok c.reread := by
  rw [encode, decode]
  · simp [List.lookup_append, List.lookup_cons, Value.getD_ite_isGiven]
    rfl
  · simp [Value.record]

end Computed

/-! ### Procedures -/

namespace Argument

/-- An argument is read back from its document form as it is. -/
theorem decode_encode (a : Argument) : decode a.encode = .ok a := by
  rw [encode, decode]
  simp [List.lookup_cons, Value.getD_ite_isNull]

end Argument

namespace Procedure

/-- The constructor accepts the procedure as it is. -/
def Built (p : Procedure) : Prop :=
  make p.name (.text p.returns) p.args p.sql p.language (.text p.volatility.word)
    (.text p.security.word) p.description = .ok p

/-- The procedure has a name and a return expression that is not blank. -/
structure Sound (p : Procedure) : Prop where
  named : p.name.isGiven = true
  given : Value.isGiven (.text p.returns) = true
  returning : (Text.trim p.returns.toList).isEmpty = false

/-- The constructor accepts a procedure just where it is sound. -/
lemma built_iff (p : Procedure) : p.Built ↔ p.Sound := by
  have volatility : Volatility.ofWord? (.text p.volatility.word) = some p.volatility := by
    cases p.volatility <;> rfl
  have security : Security.ofWord? (.text p.security.word) = some p.security := by
    cases p.security <;> rfl
  unfold Built make
  rw [volatility, security]
  dsimp only [Value.asText]
  rw [guard_eq_ok_iff, guard_eq_ok_iff, ok_bind, guard_eq_ok_iff]
  constructor
  · intro ⟨named, given, returning, _⟩
    exact ⟨by simpa using named, by simpa using given, by simpa using returning⟩
  · intro ⟨named, given, returning⟩
    exact ⟨by simpa using named, by simpa using given, by simpa using returning, rfl⟩

lemma Built.reread {p : Procedure} (built : p.Built) : p.reread.Built := by
  rw [built_iff] at built ⊢
  exact ⟨built.named, built.given, built.returning⟩

lemma reread_reread (p : Procedure) : p.reread.reread = p.reread := by
  simp [Procedure.reread]

/-- A procedure that the constructor accepts is read back from its document form. -/
theorem decode_encode {p : Procedure} (built : p.Built) : decode .null p.encode = .ok p.reread := by
  have args := mapM_map_eq_ok p.args (g := id) fun a _ => a.decode_encode
  have accepted := built.reread
  rw [List.map_id] at args
  rw [encode, decode, decodeArgs]
  simp [List.lookup_append, List.lookup_cons, Value.getD_ite_isGiven, args]
  exact accepted

end Procedure

/-! ### Policies -/

lemma Scope.decode_encode (s : Scope) : decode s.encode = .ok s := by
  rw [encode, decode]
  simp [List.lookup_cons]

lemma Bypass.decode_encode (b : Bypass) : decode b.encode = .ok b := by
  rw [encode, decode]
  simp [List.lookup_cons]

namespace Predicate

def form : Predicate → Option Value
  | written (.text s) => some (.text s)
  | _ => none

/-- What is read from the form of a predicate is the predicate after reading. -/
lemma written_form (p : Predicate) : written (p.form.getD .null) = p.reread := by
  cases p with
  | function body => rfl
  | written v =>
    cases v with
    | scalar s => cases s <;> rfl
    | list | map => rfl

/-- A predicate has the same form after reading. -/
lemma form_reread (p : Predicate) : p.reread.form = p.form := by
  cases p with
  | function body => rfl
  | written v =>
    cases v with
    | scalar s => cases s <;> rfl
    | list | map => rfl

lemma reread_reread (p : Predicate) : p.reread.reread = p.reread := by
  cases p with
  | function body => rfl
  | written v =>
    cases v with
    | scalar s => cases s <;> rfl
    | list | map => rfl

end Predicate

namespace Policy

/-- The constructor accepts the policy's query fragments. -/
def Built (p : Policy) : Prop := p.withFragments (.map p.sql) = .ok p

/-- The constructor accepts a policy if its query fragments are read as they are. -/
lemma built_iff (p : Policy) : p.Built ↔ readFragments (.map p.sql) = .ok p.sql := by
  unfold Built withFragments
  rw [bind_eq_ok_iff]
  constructor
  · rintro ⟨sql, read, same⟩
    rw [read, ← congrArg Policy.sql (Except.ok.inj same)]
  · intro read
    exact ⟨p.sql, read, rfl⟩

lemma Built.reread {p : Policy} (built : p.Built) : p.reread.Built :=
  (built_iff _).2 ((built_iff p).1 built)

lemma reread_reread (p : Policy) : p.reread.reread = p.reread := by
  simp [Policy.reread, Predicate.reread_reread]

/-- The document form of a policy, with an optional entry for each predicate. -/
lemma encode_eq (p : Policy) : p.encode = .record (
    (if p.scope.isEmpty then [] else [("scope", .list (p.scope.map Scope.encode))]) ++
    (if p.bypass.isEmpty then [] else [("bypass", .list (p.bypass.map Bypass.encode))]) ++
    (optionalEntry "select" p.select.form ++ (optionalEntry "insert" p.insert.form ++
      (optionalEntry "update" p.update.form ++ optionalEntry "delete" p.delete.form))) ++
    (if p.sql.isEmpty then [] else [("sql", .map p.sql)])) := by
  have entry (op : Operation) : (match p.predicate op with
      | .written (.text s) => some (op.name, Value.text s)
      | _ => none) = (p.predicate op).form.map fun v => (op.name, v) := by
    unfold Predicate.form
    split <;> rfl
  have forms : (Operation.all.filterMap fun op => (p.predicate op).form.map fun v => (op.name, v)) =
      optionalEntry "select" p.select.form ++ (optionalEntry "insert" p.insert.form ++
        (optionalEntry "update" p.update.form ++ optionalEntry "delete" p.delete.form)) := by
    simp only [Operation.all, List.filterMap_cons, List.filterMap_nil, predicate]
    cases p.select.form <;> cases p.insert.form <;> cases p.update.form <;>
      cases p.delete.form <;> rfl
  rw [encode, ← forms]
  congr 3
  exact List.filterMap_congr fun op _ => entry op

/-- What is read back has the same document form. -/
lemma encode_reread (p : Policy) : p.reread.encode = p.encode := by
  rw [encode_eq, encode_eq]
  simp only [Policy.reread, Predicate.form_reread]
  rfl

/-- A policy that the constructor accepts is read back from its document form. -/
theorem decode_encode {p : Policy} (built : p.Built) : decode p.encode = .ok p.reread := by
  have scope := mapM_map_eq_ok p.scope (g := id) fun s _ => s.decode_encode
  have bypass := mapM_map_eq_ok p.bypass (g := id) fun b _ => b.decode_encode
  have accepted := built.reread
  rw [List.map_id] at scope bypass
  rw [encode_eq, decode]
  simp [List.lookup_append, List.lookup_cons, Operation.name, Value.getD_ite_nil,
    Value.getD_ite_empty, Predicate.written_form, scope, bypass]
  exact accepted

end Policy
end EntityModel
