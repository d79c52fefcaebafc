import EntityModel.Proofs.Analysis.Results
import EntityModel.Proofs.Declaration.Accepted

/-!
# The analysis of accepted documents

Authoring problems do not stop an analysis. A document that is accepted has a result, whatever its
references, types and names mean or do not mean, as long as the values that an analysis reads are of
the types that are declared for them. Reading does not ask for those types: an enumeration of
numbers is accepted and cannot be analysed.
-/

namespace EntityModel

open Outcome

variable {bound : Value → Prop} {entities : List Entity} {data : Value}

/-! ### Values of declared types -/

/-- The attributes of a field that an analysis reads are of their declared types. -/
structure FieldAttributes.Typed (bound : Value → Prop) (a : FieldAttributes) : Prop where
  name : a.name.IsText
  target : a.target.IsTextOrNull
  values : ∀ vs, a.values = some vs → ∀ v ∈ vs, v.IsText
  low : (a.constraints.getD {}).min = .null ∨ bound (a.constraints.getD {}).min
  high : (a.constraints.getD {}).max = .null ∨ bound (a.constraints.getD {}).max
  hint : a.hint.IsTextOrNull

/-- The values that an analysis reads in the declaration of an entity are of their declared
types. -/
structure Entity.Typed (bound : Value → Prop) (e : Entity) : Prop where
  name : e.name.IsText
  fields : ∀ f ∈ e.fields, f.Everywhere (FieldAttributes.Typed bound)
  relations : ∀ r ∈ e.relations, r.WellTyped
  computed : ∀ c ∈ e.computed, c.WellTyped
  indexes : ∀ i ∈ e.indexes, ∀ v ∈ i.fields, v.IsText
  procedures : ∀ p ∈ e.procedures, ∀ a ∈ p.args, a.type.IsText

/-- With the targets that reading asks for, a field of typed attributes is well-typed. -/
lemma Field.wellTyped_of_typed {f : Field} (typed : f.Everywhere (FieldAttributes.Typed bound))
    (referenced : f.AllReferenced) : f.WellTyped bound := by
  induction typed with
  | mk own _ _ inItems inShape =>
    cases referenced with
    | mk target targetItems targetShape =>
      refine wellTyped_mk.2
        ⟨⟨own.name, own.target, target, own.values, own.low, own.high, own.hint⟩, ?_, ?_⟩
      · exact fun item isItem => inItems item isItem (targetItems item isItem)
      · exact fun parts isShape part mem =>
          inShape parts isShape part mem (targetShape parts isShape part mem)

/-- An accepted entity with typed slots is well-typed. -/
lemma Entity.Accepted.wellTyped {e : Entity} (accepted : e.Accepted) (typed : e.Typed bound) :
    e.WellTyped bound where
  name := typed.name
  named := accepted.named
  fields f mem := Field.wellTyped_of_typed (typed.fields f mem) (accepted.referenced f mem)
  relations := typed.relations
  computed := typed.computed
  indexes := typed.indexes
  procedures := typed.procedures

namespace AnalysisResult

/-- The entities of an accepted document whose values are of their declared types are analysed,
unless a bound is a number that cannot be read; if all bounds are finite numbers there is a
result. -/
theorem analyze_read (accepted : Document.read data = .ok entities)
    (typed : ∀ e ∈ entities, e.Typed Value.IsNumber) (options : Options) :
    Within Value.NumberFault (analyze entities options) ∧
      ((∀ e ∈ entities, e.Typed Value.IsFinite) →
        ∃ result, analyze entities options = .ok result) := by
  obtain ⟨all, distinct⟩ := (Document.read_ensures data).of_eq_ok accepted
  have distinct := distinct fun e mem => (typed e mem).name
  constructor
  · have wellTyped : ∀ e ∈ entities, e.WellTyped Value.IsNumber := fun e mem =>
      (all e mem).wellTyped (typed e mem)
    obtain ⟨_, _, _, ensures⟩ :=
      analyze_ensures (fun _ => Value.IsNumber.readable) wellTyped distinct
      options
    exact ensures.within
  · intro finite
    exact exists_analyze (fun e mem => (all e mem).wellTyped (finite e mem)) distinct options

/-! ### Examples -/

/-- A document full of mistakes that are let through: a type that is no type, a reference inside an
object to an entity that is not there, and a relation whose target and join entity are not there. -/
def careless : Value := .record [("entities", .list [.record [
  ("name", "post"),
  ("fields", .record [
    ("mood", "feeling"),
    ("place", .record [("type", "object"), ("shape", .list [
      .record [("name", "star"), ("type", "ref"), ("target", "galaxy")]])])]),
  ("relations", .list [.record [
    ("name", "tags"), ("kind", "manyToMany"), ("target", "tag"), ("through", "tagging")]])]])]

def carelessPost : Entity where
  name := "post"
  fields := [{ name := "mood", type := "feeling" },
    { name := "place", type := "object", shape := some [
      { name := "star", type := "ref", target := "galaxy" }] }]
  relations := [{ name := "tags", kind := .manyToMany, target := "tag", through := "tagging" }]

lemma carelessPost_typed : carelessPost.Typed bound := by
  have plain : ∀ name type target : String,
      FieldAttributes.Typed bound { name := name, type, target := target } :=
        fun name type target =>
    ⟨⟨name, rfl⟩, .inr ⟨target, rfl⟩, by simp, .inl rfl, .inl rfl, .inl rfl⟩
  have untargeted : ∀ name type : String, FieldAttributes.Typed bound { name := name, type } :=
    fun name type => ⟨⟨name, rfl⟩, .inl rfl, by simp, .inl rfl, .inl rfl, .inl rfl⟩
  have star : Field.Everywhere (FieldAttributes.Typed bound)
      { name := "star", type := "ref", target := "galaxy" } :=
    .mk (plain _ _ _) (by simp) (by simp)
  refine ⟨⟨_, rfl⟩, ?_, ?_, by simp [carelessPost], by simp [carelessPost], by simp [carelessPost]⟩
  · simp only [carelessPost, List.forall_mem_cons, List.not_mem_nil, false_imp_iff, implies_true,
      and_true]
    exact ⟨.mk (untargeted _ _) (by simp) (by simp), .mk (untargeted _ _) (by simp)
      (by simpa using star)⟩
  · simp only [carelessPost, List.forall_mem_cons, List.not_mem_nil, false_imp_iff, implies_true,
      and_true]
    exact ⟨⟨_, rfl⟩, .inr ⟨_, rfl⟩⟩

/-- The document is accepted, and its analysis answers. -/
theorem analyze_careless : ∃ result, Document.read careless = .ok [carelessPost] ∧
    analyze [carelessPost] {} = .ok result := by
  have accepted : Document.read careless = .ok [carelessPost] := rfl
  have typed : ∀ bound, ∀ e ∈ [carelessPost], e.Typed bound := fun bound => by
    simpa using carelessPost_typed
  obtain ⟨_, answer⟩ := analyze_read accepted (typed _) {}
  obtain ⟨result, ok⟩ := answer (typed _)
  exact ⟨result, accepted, ok⟩

/-- A document whose enumeration has numbers as its values. -/
def numbered : Value := .record [("entities", .list [.record [
  ("name", "a"),
  ("fields",
    .list [.record [("name", "s"), ("type", "enum"), ("values", .list [.int 1, .int 2])]])]])]

/-- The enumeration of numbers is accepted, and its analysis fails on a value of the wrong kind. -/
theorem analyze_numbered : ∃ entities, Document.read numbered = .ok entities ∧
    analyze entities {} = .error .wrongKind :=
  ⟨[{ name := "a", fields := [{ name := "s", type := "enum", values := some [.int 1, .int 2] }] }],
    rfl, rfl⟩

end AnalysisResult

end EntityModel
