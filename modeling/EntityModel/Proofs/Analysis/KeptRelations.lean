import EntityModel.Proofs.Analysis.Relations

/-!
# What a resolved relation keeps

Resolving a relation changes nothing that its declaration says: name, order, limit and declared keys
stay as they were written. A key that is not declared is found or made: it is the name of a field,
the declared key of a belongs-to relation that points back, or a default name. So what holds of all
of these holds of the keys of every resolved relation (`ResolvedRelation.ofRelation_keeps`).
-/

namespace EntityModel

open Outcome

attribute [local irreducible] FieldKind.lookup

variable {d : Directory} {P : Value → Prop}

/-- What others may take from an entity for a key has a property: the names of its fields, and the
keys that its relations declare. -/
structure Entity.Offers (P : Value → Prop) (e : Entity) : Prop where
  fields : ∀ f ∈ e.fields, P f.name
  keys : ∀ r ∈ e.relations, r.foreignKey.isGiven = true → P r.foreignKey

/-! ### Found keys -/

namespace ForeignKey

def Holds (P : Value → Prop) (found : Option Value) : Prop := ∀ key, found = some key → P key

lemma holds_none : Holds P none := nofun

lemma holds_some {key : Value} (h : P key) : Holds P (some key) := by
  rintro _ ⟨⟩
  exact h

variable {fields : List Field} (names : ∀ f ∈ fields, P f.name)

include names

/-- A reference field that is found has a name with the property that names have. -/
lemma findReference_holds (target : String) :
    Ensures anyFault (Holds P) (findReference d target fields) := by
  induction fields with
  | nil => exact holds_none
  | cons f rest ih =>
    obtain ⟨first, others⟩ := List.forall_mem_cons.1 names
    unfold findReference
    split_ifs
    · refine .step fun _ => ?_
      split_ifs
      · exact holds_some first
      · exact ih others
    · exact ih others

/-- A field found by a customary name has a name with the property that names have. -/
lemma findNamed_holds (listed : List String) :
    Ensures anyFault (Holds P) (findNamed listed fields) := by
  induction fields with
  | nil => exact holds_none
  | cons f rest ih =>
    obtain ⟨first, others⟩ := List.forall_mem_cons.1 names
    unfold findNamed
    refine .step fun _ => ?_
    split_ifs
    · exact holds_some first
    · exact ih others

lemma find_holds (target : String) : Ensures anyFault (Holds P) (find d fields target) := by
  unfold find
  refine (findReference_holds names target).bind fun found holds => ?_
  cases found with
  | some _ => exact holds
  | none => exact findNamed_holds names _

/-- A key that is found at the other end has the property of names and declared keys. -/
lemma findBack_holds (source : String) {relations : List Relation}
    (keys : ∀ r ∈ relations, r.foreignKey.isGiven = true → P r.foreignKey) :
    Ensures anyFault (Holds P) (findBack d fields source relations) := by
  induction relations with
  | nil => exact holds_none
  | cons back rest ih =>
    obtain ⟨first, others⟩ := List.forall_mem_cons.1 keys
    unfold findBack
    split
    · refine .step fun _ => ?_
      split_ifs with _ given
      · exact holds_some (first given)
      · refine (find_holds names source).bind fun found holds => ?_
        cases found with
        | some _ => exact holds
        | none => exact ih others
      · exact ih others
    · exact ih others

end ForeignKey

/-! ### Diagnostics -/

/-- The diagnostic is on a part of an entity, and says so in texts. -/
structure Diagnostic.On (entity : String) (subject : Value) (x : Diagnostic) : Prop where
  entity : x.entity = .text entity
  kind : x.kind ≠ .circularDependency
  subject : x.subject = subject
  message : x.message.IsText
  suggestion : x.suggestion.IsText

/-! ### Keys of a relation -/

namespace ResolvedKey

/-- The key is the declared one, if there is one, and has a property; the diagnostics on it are on
the relation. -/
structure Keeps (P : Value → Prop) (entity : String) (r : Relation) (k : ResolvedKey) : Prop where
  declared : r.foreignKey.isGiven = true → k.key = r.foreignKey
  key : P k.key
  diagnostics : ∀ x ∈ k.diagnostics, x.On entity r.name

variable {entity : String} {r : Relation}

lemma keeps_declared (h : P r.foreignKey) : Keeps P entity r ⟨r.foreignKey, .explicit, []⟩ :=
  ⟨fun _ => rfl, h, by simp⟩

lemma keeps_found {key : Value} (missing : ¬ r.foreignKey.isGiven = true) (h : P key) :
    Keeps P entity r ⟨key, .inferred, []⟩ := ⟨fun given => absurd given missing, h, by simp⟩

lemma keeps_fallback {target default reason : String} {kind : RelationKind}
    (missing : ¬ r.foreignKey.isGiven = true) (h : P (.text default)) :
    Keeps P entity r (fallback entity r.name kind target default reason) :=
  ⟨fun is => absurd is missing, h,
    List.forall_mem_singleton.2 ⟨rfl, by simp, rfl, ⟨_, rfl⟩, ⟨_, rfl⟩⟩⟩

variable (made : ∀ name, P (.text (ForeignKey.defaultName name)))
  (own : r.foreignKey.isGiven = true → P r.foreignKey)

include made own

/-- A belongs-to relation has a declared key or one with the property of names. -/
lemma ofBelongsTo_keeps {fields : List Field} (names : ∀ f ∈ fields, P f.name)
    (written target : String) :
    Ensures anyFault (Keeps P entity r) (ofBelongsTo d entity fields r written target) := by
  unfold ofBelongsTo
  split_ifs with given
  · exact keeps_declared (own given)
  · refine (ForeignKey.find_holds names target).bind fun found holds => ?_
    cases found with
    | some key => exact keeps_found given (holds key rfl)
    | none => exact keeps_fallback given (made written)

/-- A relation whose key stands at the other end has a declared key or one found there. -/
lemma ofInverse_keeps {holder : Option (String × Entity)}
    (offers : ∀ entry, holder = some entry → entry.2.Offers P) (kind : RelationKind)
    (target : String) :
    Ensures anyFault (Keeps P entity r) (ofInverse d entity r kind target holder) := by
  unfold ofInverse
  dsimp only
  split_ifs with given
  · exact keeps_declared (own given)
  · cases holder with
    | none => exact keeps_fallback given (made entity)
    | some entry =>
      obtain ⟨names, keys⟩ := offers entry rfl
      refine (ForeignKey.findBack_holds names entity keys).bind fun back holds => ?_
      cases back with
      | some key => exact keeps_found given (holds key rfl)
      | none =>
        refine (ForeignKey.find_holds names entity).bind fun found holds => ?_
        cases found with
        | some key => exact keeps_found given (holds key rfl)
        | none => exact keeps_fallback given (made entity)

end ResolvedKey

/-! ### The join side -/

namespace JoinSide

/-- What is said of the join side of a relation: the join entity is one of the directory or stands
as it is written, the keys are held by an entity of the directory, and the other key is the declared
one, if there is one, and has a property. -/
structure Keeps (d : Directory) (P : Value → Prop) (entity : String) (r : Relation) (s : JoinSide) :
    Prop where
  through : ∀ name, s.through = some name →
    name ∈ d.names ∨ r.through.isGiven = true ∧ r.through = .text name
  holder : ∀ entry, s.holder = some entry → entry ∈ d.entities
  declared : r.otherKey.isGiven = true → ∀ key, s.otherKey = some key → key = r.otherKey
  otherKey : ForeignKey.Holds P s.otherKey
  diagnostics : ∀ x ∈ s.diagnostics, x.On entity r.name

variable {entity : String} {r : Relation} (own : r.otherKey.isGiven = true → P r.otherKey)

include own

/-- A resolved relation keeps what is declared, and its keys have the property of names. -/
lemma ofRelation_keeps (offers : ∀ entry ∈ d.entities, entry.2.Offers P)
    (written target : String) :
    Ensures anyFault (Keeps d P entity r) (ofRelation d entity r written target) := by
  unfold ofRelation
  dsimp only
  split
  · rename_i given
    refine r.through.asText_ensures.bind fun through isText => ?_
    cases found : d.get? through with
    | none =>
      refine ⟨?_, fun _ => Directory.get?_mem, nofun, ForeignKey.holds_none, ?_⟩
      · rintro _ ⟨⟩
        exact .inr ⟨given, isText⟩
      · exact List.forall_mem_singleton.2 ⟨rfl, by simp, rfl, ⟨_, rfl⟩, ⟨_, rfl⟩⟩
    | some entry =>
      have mem := Directory.get?_mem found
      dsimp only
      refine Ensures.ite_bind (P := fun found => (r.otherKey.isGiven = true →
        ∀ key, found = some key → key = r.otherKey) ∧ ForeignKey.Holds P found) (fun given => ?_)
        (fun missing => ?_) fun key kept => ?_
      · exact ⟨fun _ key same => (Option.some.inj same).symm, ForeignKey.holds_some (own given)⟩
      · exact (ForeignKey.find_holds (offers _ mem).fields target).mono fun found holds =>
          ⟨fun given => absurd given missing, holds⟩
      · refine ⟨?_, ?_, kept.1, kept.2, by simp⟩
        · rintro _ ⟨⟩
          exact .inl (List.mem_map_of_mem mem)
        · rintro _ ⟨⟩
          exact mem
  · exact ⟨nofun, fun _ => Directory.get?_mem, nofun, ForeignKey.holds_none, by simp⟩

/-- The key of a join side is the declared one, or one with the property of names. -/
lemma Keeps.key {s : JoinSide} (h : s.Keeps d P entity r)
    (made : ∀ name, P (.text (ForeignKey.defaultName name))) (written : String) :
    (r.otherKey.isGiven = true → s.key r written = r.otherKey) ∧ P (s.key r written) := by
  unfold JoinSide.key
  cases found : s.otherKey with
  | some key => exact ⟨fun given => h.declared given key found, h.otherKey key found⟩
  | none =>
    dsimp only
    unfold Value.orElse
    split_ifs with given
    · exact ⟨fun _ => rfl, own given⟩
    · exact ⟨fun is => absurd is given, made written⟩

end JoinSide

/-! ### Relations -/

namespace ResolvedRelation

/-- What a resolved relation keeps of its declaration. Its keys are the declared ones, where there
are any, and have a property; only a many-to-many relation has another key. -/
structure Keeps (d : Directory) (P : Value → Prop) (r : Relation) (out : ResolvedRelation) : Prop
    extends Resolves d r out where
  pascal : out.targetPascal = Naming.singularPascal out.target
  eager : out.eager = r.eager
  orderBy : out.orderBy = r.orderBy
  limit : out.limit = r.limit
  foreignKey : P out.foreignKey
  declaredKey : r.foreignKey.isGiven = true → out.foreignKey = r.foreignKey
  localField : out.localField = .null ∨ out.localField = out.foreignKey
  through : ∀ name, out.through = some name →
    name ∈ d.names ∨ r.through.isGiven = true ∧ r.through = .text name
  otherKey : out.otherKey = .null ∨ P out.otherKey
  declaredOther : r.isManyToMany = true → r.otherKey.isGiven = true → out.otherKey = r.otherKey

/-- A relation keeps what it declares, and its diagnostics are on it. -/
theorem ofRelation_keeps (made : ∀ name, P (.text (ForeignKey.defaultName name)))
    (offers : ∀ entry ∈ d.entities, entry.2.Offers P) {fields : List Field}
    (names : ∀ f ∈ fields, P f.name) (entity : String) {r : Relation}
    (own : r.foreignKey.isGiven = true → P r.foreignKey)
    (other : r.isManyToMany = true → r.otherKey.isGiven = true → P r.otherKey) :
    Ensures anyFault (fun out => out.1.Keeps d P r ∧ ∀ x ∈ out.2, x.On entity r.name)
      (ofRelation d entity fields r) := by
  have held (reference : String) (entry : String × Entity) (found : d.get? reference = some entry) :
      entry.2.Offers P := offers entry (Directory.get?_mem found)
  unfold ofRelation
  refine r.target.asText_ensures.bind fun written isTarget => ?_
  dsimp only
  have onTarget : ∀ x ∈ (if (d.resolve written).isNone then [unknownTarget entity r.name written]
      else []), x.On entity r.name := by
    split_ifs
    · exact List.forall_mem_singleton.2 ⟨rfl, by simp [unknownTarget], rfl, ⟨_, rfl⟩, ⟨_, rfl⟩⟩
    · simp
  generalize (if (d.resolve written).isNone then [unknownTarget entity r.name written] else []) =
    unknown at onTarget
  split_ifs with belongsTo manyToMany
  · have single : r.isManyToMany = false := by simp [Relation.isManyToMany, belongsTo]
    refine (ResolvedKey.ofBelongsTo_keeps made own names _ _).bind fun key kept => ?_
    exact ⟨⟨⟨rfl, iff_of_true rfl belongsTo, written, isTarget, rfl, rfl⟩, rfl, rfl, rfl, rfl,
      kept.key, kept.declared, .inr rfl, by simp, .inl rfl, by simp [single]⟩,
      List.forall_mem_append.2 ⟨onTarget, kept.diagnostics⟩⟩
  · refine (JoinSide.ofRelation_keeps (other manyToMany) offers _ _).bind fun join joined => ?_
    refine (ResolvedKey.ofInverse_keeps made own
      (fun entry is => offers entry (joined.holder entry is)) _ _).bind fun key kept => ?_
    obtain ⟨declared, holds⟩ := joined.key (other manyToMany) made written
    exact ⟨⟨⟨rfl, iff_of_false (by simp) belongsTo, written, isTarget, rfl, rfl⟩, rfl, rfl, rfl,
      rfl, kept.key, kept.declared, .inl rfl, joined.through, .inr holds, fun _ => declared⟩,
      List.forall_mem_append.2
        ⟨List.forall_mem_append.2 ⟨onTarget, joined.diagnostics⟩, kept.diagnostics⟩⟩
  · refine (ResolvedKey.ofInverse_keeps made own (held written) _ _).bind fun key kept => ?_
    exact ⟨⟨⟨rfl, Iff.rfl, written, isTarget, rfl, rfl⟩, rfl, rfl, rfl, rfl, kept.key,
      kept.declared, .inl rfl, by simp, .inl rfl, fun is => absurd is manyToMany⟩,
      List.forall_mem_append.2 ⟨onTarget, kept.diagnostics⟩⟩

/-- What a relation keeps where nothing is asked of its keys. -/
lemma ofRelation_keeps_any (entity : String) (fields : List Field) (r : Relation) :
    Ensures anyFault
      (fun out => out.1.Keeps d (fun _ => True) r ∧ ∀ x ∈ out.2, x.On entity r.name)
      (ofRelation d entity fields r) :=
  ofRelation_keeps (fun _ => trivial) (fun _ _ => ⟨fun _ _ => trivial, fun _ _ _ => trivial⟩)
    (fun _ _ => trivial) entity (fun _ => trivial) fun _ _ => trivial

end ResolvedRelation

end EntityModel
