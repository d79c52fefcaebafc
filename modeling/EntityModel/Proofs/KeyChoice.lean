import EntityModel.Proofs.Consistency
import EntityModel.Proofs.ForeignKeys

/-!
# The choice of a foreign key

Which key a relation gets, and why. A declared key is kept. Otherwise its holder is searched: the
declaring entity of a belongs-to relation, and of the others the join entity or the target. An
inferred key is always there, as a field or as a key declared on a belongs-to relation back. A key
is made up exactly if the holder is not known or has nothing that points at the other side. A
reference field to the other side goes before every field with a customary name, wherever these
stand.
-/

namespace EntityModel

open Outcome
open AnalysisResult (reference reference_wellTyped)

variable {d : Directory} {entities : List Entity} {options : Options} {e holder : Entity}
  {r : Relation} {name written : String}

/-! ### What is found in the holder -/

namespace Relation

/-- Nothing is found exactly if the holder is not known or has nothing that points at the other
side. -/
lemma foundKey_eq_none_iff :
    r.foundKey d e name written = none ↔ ∀ holder, r.holder d e = some holder →
      (∀ f ∈ holder.fields, f.refersTo d (r.otherSide d name written) = false ∧
        f.isCustomaryFor (r.otherSide d name written) = false) ∧
      (r.kind ≠ .belongsTo → ∀ back ∈ holder.relations,
        back.belongsBackTo d (r.otherSide d name written) = true →
        back.foreignKey.isGiven = false) := by
  rw [foundKey, Option.bind_eq_none_iff]
  refine forall₂_congr fun holder _ => ?_
  by_cases belongsTo : r.kind = .belongsTo
  · rw [if_pos belongsTo, ForeignKey.among_eq_none_iff]
    exact (and_iff_left fun other => absurd belongsTo other).symm
  · rw [if_neg belongsTo, ForeignKey.across_eq_none_iff, ForeignKey.among_eq_none_iff, otherSide,
      if_neg belongsTo]
    exact and_congr_right fun _ =>
      ⟨fun undeclared _ => undeclared, fun undeclared => undeclared belongsTo⟩

/-- What is found is a field of the holder or declared on a belongs-to relation back. -/
lemma exists_of_foundKey {key : Value} (found : r.foundKey d e name written = some key) :
    ∃ holder, r.holder d e = some holder ∧ ((∃ f ∈ holder.fields, key = f.name) ∨
      r.kind ≠ .belongsTo ∧ ∃ back ∈ holder.relations, back.belongsBackTo d name = true ∧
        back.foreignKey.isGiven = true ∧ key = back.foreignKey) := by
  obtain ⟨holder, isHolder, found⟩ := Option.bind_eq_some_iff.1 found
  refine ⟨holder, isHolder, ?_⟩
  by_cases belongsTo : r.kind = .belongsTo
  · rw [if_pos belongsTo] at found
    exact .inl (ForeignKey.mem_of_among found)
  · rw [if_neg belongsTo] at found
    exact (ForeignKey.mem_of_across found).imp_right fun back => ⟨belongsTo, back⟩

/-- Where no relation back declares a key, the first reference to the other side is what is
found. -/
lemma foundKey_of_refersTo (isHolder : r.holder d e = some holder)
    (undeclared : ∀ back ∈ holder.relations,
      back.belongsBackTo d (r.otherSide d name written) = true → back.foreignKey.isGiven = false)
    {f : Field} (first : holder.fields.find? (·.refersTo d (r.otherSide d name written)) = some f) :
    r.foundKey d e name written = some f.name := by
  rw [foundKey, isHolder, Option.bind_some]
  by_cases belongsTo : r.kind = .belongsTo
  · rw [if_pos belongsTo, ForeignKey.among_of_refersTo first]
  · rw [otherSide, if_neg belongsTo] at undeclared first
    rw [if_neg belongsTo, ForeignKey.across_of_undeclared undeclared,
      ForeignKey.among_of_refersTo first]

/-- A relation that needs no join entity has its key in the entity that its target means. -/
lemma holder_of_means (lists : d.Lists entities) {target : String × Entity}
    (mem : target ∈ d.entities) (notBelongsTo : r.kind ≠ .belongsTo)
    (noJoin : r.joinEntity d = none)
    (means : r.Means d target.1) : r.holder d e = some target.2 := by
  obtain ⟨written, isTarget, means⟩ := means
  rw [holder, if_neg notBelongsTo, noJoin, isTarget, Value.text?, Option.bind_some,
    lists.get?_of_resolve mem means]
  rfl

end Relation

/-! ### The choice -/

namespace ResolvedRelation

/-- Every relation of every entity is resolved, and its key is chosen in this way: a declared key is
kept as it is; an inferred key is a field of the holder or, on the other side of a belongs-to
relation, the key declared on that relation; the key is a default exactly if none is declared and
the holder is unknown or has nothing that points at the other side; and where the holder has a
reference to the other side, and no belongs-to relation to it that declares a key, the first such
reference is the key. -/
theorem foreignKey_chosen (typed : ∀ e ∈ entities, e.WellTyped Value.IsNumber)
    (built : Directory.build entities options = .ok d)
    (declaring : ∀ f ∈ e.fields, f.WellTyped Value.IsNumber) (wellTyped : r.WellTyped)
    (isTarget : r.target = .text written) (name : String) :
    ∃ out diagnostics, ofRelation d name e.fields r = .ok (out, diagnostics) ∧
      (r.foreignKey.isGiven = true → out.foreignKey = r.foreignKey ∧ out.keySource = .explicit) ∧
      (out.keySource = .inferred →
        ∃ holder, r.holder d e = some holder ∧ ((∃ f ∈ holder.fields, out.foreignKey = f.name) ∨
          r.kind ≠ .belongsTo ∧ ∃ back ∈ holder.relations, back.belongsBackTo d name = true ∧
            back.foreignKey.isGiven = true ∧ out.foreignKey = back.foreignKey)) ∧
      (out.keySource = .default ↔
        r.foreignKey.isGiven = false ∧ ∀ holder, r.holder d e = some holder →
          (∀ f ∈ holder.fields, f.refersTo d (r.otherSide d name written) = false ∧
            f.isCustomaryFor (r.otherSide d name written) = false) ∧
          (r.kind ≠ .belongsTo → ∀ back ∈ holder.relations,
            back.belongsBackTo d (r.otherSide d name written) = true →
              back.foreignKey.isGiven = false)) ∧
      (r.foreignKey.isGiven = false → ∀ holder, r.holder d e = some holder →
        (∀ back ∈ holder.relations, back.belongsBackTo d (r.otherSide d name written) = true →
          back.foreignKey.isGiven = false) →
        ∀ f, holder.fields.find? (·.refersTo d (r.otherSide d name written)) = some f →
          out.foreignKey = f.name ∧ out.keySource = .inferred) := by
  have lists : d.Lists entities :=
    ((Directory.build_ensures (fun e mem => (typed e mem).name) options).of_eq_ok built).2
  obtain ⟨out, diagnostics, ok, chooses⟩ := ofRelation_chooses
    (fun entry mem => typed _ (lists.mem_entities mem)) declaring name wellTyped isTarget
  refine ⟨out, diagnostics, ok, ?_⟩
  rw [← Relation.foundKey_eq_none_iff]
  generalize out.keySource = source, out.foreignKey = key at chooses ⊢
  cases chooses with
  | explicit given => simp [given]
  | inferred absent isFound =>
    refine ⟨by simp [absent], fun _ => Relation.exists_of_foundKey isFound, ?_, ?_⟩
    · simp [isFound]
    · intro _ holder isHolder undeclared f first
      rw [Relation.foundKey_of_refersTo isHolder undeclared first, Option.some.injEq] at isFound
      exact ⟨isFound.symm, rfl⟩
  | default absent nothing =>
    refine ⟨by simp [absent], by simp, by simp [absent, nothing], ?_⟩
    intro _ holder isHolder undeclared f first
    rw [Relation.foundKey_of_refersTo isHolder undeclared first] at nothing
    exact absurd nothing (Option.some_ne_none _)

/-! ### An example -/

/-- An article refers to its author in a field that stands behind one with a customary name. -/
def article : Entity where
  name := .text "article"
  fields := [.bare "userId", reference "writer" "Users"]

def articles : Relation where
  name := .text "articles"
  kind := .hasMany
  target := .text "Articles"

def articled : List Entity := [{ name := .text "user", relations := [articles] }, article]

lemma articled_resolve : (Directory.build articled {}).toOption.map (fun d =>
      ["Articles", "Users"].map d.resolve) = some [some "article", some "user"] := by
  rfl

lemma articles_wellTyped : articles.WellTyped := ⟨⟨_, rfl⟩, .inl rfl⟩

lemma articled_wellTyped : ∀ e ∈ articled, e.WellTyped Value.IsNumber := by
  simp only [articled, List.forall_mem_cons, List.not_mem_nil, false_imp_iff,
    implies_true, and_true]
  refine ⟨⟨⟨_, rfl⟩, rfl, by simp, by simpa using articles_wellTyped, by simp, by simp, by simp⟩,
    ⟨_, rfl⟩, rfl, ?_, by simp [article], by simp [article], by simp [article], by simp [article]⟩
  simp [article, Field.bare_wellTyped, reference_wellTyped]

/-- The articles of a user are found by the field that refers back. -/
theorem articles_foreignKey : ∃ d out diagnostics, Directory.build articled {} = .ok d ∧
    ofRelation d "user" [] articles = .ok (out, diagnostics) ∧
    out.foreignKey = .text "writer" ∧ out.keySource = .inferred := by
  obtain ⟨d, built, resolved⟩ := exists_eq_ok_of_toOption articled_resolve
  simp only [List.map_cons, List.map_nil, List.cons.injEq, and_true] at resolved
  have lists : d.Lists articled :=
    ((Directory.build_ensures (fun e mem => (articled_wellTyped e mem).name) {}).of_eq_ok built).2
  obtain ⟨out, diagnostics, ok, -, -, -, first⟩ := foreignKey_chosen
    (e := { name := .text "user", relations := [articles] }) articled_wellTyped built (by simp)
    articles_wellTyped rfl "user"
  have mem : ("article", article) ∈ d.entities := lists.entry_mem (by simp [articled]) rfl
  have known : "user" ∈ d.names := lists.mem_names.2 ⟨_, List.mem_cons_self, rfl⟩
  have meant := (lists.isMeant_iff known).2 resolved.2
  have refers : (reference "writer" "Users").refersTo d "user" = true := by
    have kind : (reference "writer" "Users").kind = some .reference := by rfl
    rw [Field.refersTo, kind]
    simpa [reference, Value.text?] using meant
  have found : article.fields.find? (·.refersTo d "user") = some (reference "writer" "Users") := by
    simp [article, Field.bare_refersTo, refers]
  have chosen := first rfl article
    (Relation.holder_of_means lists mem (by simp [articles]) rfl ⟨_, rfl, resolved.1⟩)
    (by simp [article]) _ found
  exact ⟨d, out, diagnostics, built, ok, chosen⟩

end ResolvedRelation

end EntityModel
