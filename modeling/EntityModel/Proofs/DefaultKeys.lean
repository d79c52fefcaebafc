import EntityModel.Proofs.CustomaryNames
import EntityModel.Proofs.KeyChoice
import EntityModel.Proofs.Naming.RunTogether

/-!
# Default keys

A key gets a default name where nothing in its holder points at the other side. The default is made
of the words of a name, and fields are looked for by the forms of a name as a whole. If the default
is among the names that are looked for, then no field has it already. This is so for names of one
word, but not for all names of several: a field `blogPostId` is not found for an entity `blog_post`.
-/

namespace EntityModel

open Outcome
open Text

variable {d : Directory} {entities : List Entity} {options : Options} {e : Entity} {r : Relation}
  {name base other written : String}

namespace ForeignKey

/-! ### Default names among customary names -/

lemma lowercase_defaultName (ascii : AllAscii base.toList) :
    lowercase (defaultName base) = Naming.runTogether base ++ "id" := by
  have camel : AllAscii (Naming.singularCamel base).toList :=
    (Naming.respells_singularCamel ascii).ascii
  have ending : lowercase "Id" = "id" := by rfl
  rw [defaultName, lowercase_append_of_allAscii camel (by decide), ending,
    Naming.lowercase_singularCamel ascii]

/-- The default name of a key finds a field just if the words of the name run together are one of
the forms of the name that is looked for. -/
lemma finds_defaultName_iff (ascii : AllAscii base.toList) :
    Finds d other (defaultName base) ↔ Naming.runTogether base ∈ stems other := by
  rw [finds_iff, lowercase_defaultName ascii, append_id_mem_candidates_iff, or_iff_left]
  -- no underscore is left where words are run together
  rintro ⟨stem, -, marked⟩
  have mark : '_' ∈ (Naming.runTogether base).toList := by simp [marked]
  exact absurd (Naming.isWord_runTogether ascii '_' mark).2 (by decide)

/-- The default name made of one word finds a field for every name with the same singular. -/
lemma finds_defaultName (ascii : AllAscii base.toList) (one : Naming.splitWords base = [base])
    (same : Naming.singularize base = Naming.singularize other) :
    Finds d other (defaultName base) := by
  rw [finds_defaultName_iff ascii, Naming.runTogether_of_splitWords_eq one, same]
  exact List.mem_cons_self

end ForeignKey

namespace ResolvedRelation

open ForeignKey

/-- Every relation of every entity is resolved. If its key is a default, then its holder has no
reference to the other side, and no field with the name of the default either, provided that this
name is one that finds a field. It does just if it is customary; for an ASCII name, just if its
words run together are one of the forms of the other side; and always if it has one word and the
same singular. -/
theorem not_isNamed_of_default (typed : ∀ e ∈ entities, e.WellTyped Value.IsNumber)
    (built : Directory.build entities options = .ok d)
    (declaring : ∀ f ∈ e.fields, f.WellTyped Value.IsNumber) (wellTyped : r.WellTyped)
    (isTarget : r.target = .text written) (isBase : r.namesake name written = base)
    (isOther : r.otherSide d name written = other) :
    ∃ out diagnostics, ofRelation d name e.fields r = .ok (out, diagnostics) ∧
      (out.keySource = .default → out.foreignKey = .text (defaultName base) ∧
        ∀ holder, r.holder d e = some holder → ∀ f ∈ holder.fields, f.refersTo d other = false ∧
          (Finds d other (defaultName base) → ¬ f.IsNamed (defaultName base))) ∧
      (Finds d other (defaultName base) ↔ lowercase (defaultName base) ∈ candidates other) ∧
      (AllAscii base.toList →
        (Finds d other (defaultName base) ↔ Naming.runTogether base ∈ stems other)) ∧
      (AllAscii base.toList → Naming.splitWords base = [base] →
        Naming.singularize base = Naming.singularize other → Finds d other (defaultName base)) := by
  have lists : d.Lists entities :=
    ((Directory.build_ensures (fun e mem => (typed e mem).name) options).of_eq_ok built).2
  obtain ⟨out, diagnostics, ok, chooses⟩ := ofRelation_chooses
    (fun entry mem => typed _ (lists.mem_entities mem)) declaring name wellTyped isTarget
  refine ⟨out, diagnostics, ok, ?_, finds_iff, finds_defaultName_iff, finds_defaultName⟩
  intro isDefault
  rw [isDefault, isBase] at chooses
  generalize out.foreignKey = key at chooses ⊢
  cases chooses with
  | default absent nothing =>
    refine ⟨rfl, fun holder isHolder f mem => ?_⟩
    have missed := (Relation.foundKey_eq_none_iff.1 nothing holder isHolder).1 f mem
    rw [isOther] at missed
    refine ⟨missed.1, fun finds isNamed => ?_⟩
    have customary := (Field.isCustomaryFor_of_isNamed isNamed).2 (finds_iff.1 finds)
    rw [missed.2] at customary
    exact Bool.false_ne_true customary

/-! ### Examples -/

def owner : Relation where
  name := .text "owner"
  kind := .belongsTo
  target := .text "Users"

/-- A note has no field for the key of its owner. -/
def note : Entity where
  name := .text "note"
  fields := [.bare "body"]
  relations := [owner]

def noted : List Entity := [{ name := .text "user" }, note]

lemma owner_wellTyped : owner.WellTyped := ⟨⟨_, rfl⟩, .inl rfl⟩

lemma noted_wellTyped : ∀ e ∈ noted, e.WellTyped Value.IsNumber := by
  simp only [noted, List.forall_mem_cons, List.not_mem_nil, false_imp_iff, implies_true, and_true]
  refine ⟨⟨⟨_, rfl⟩, rfl, by simp, by simp, by simp, by simp, by simp⟩,
    ⟨_, rfl⟩, rfl, ?_, ?_, by simp [note], by simp [note], by simp [note]⟩
  · simp [note, Field.bare_wellTyped]
  · simp [note, owner_wellTyped]

lemma owner_resolved : (Directory.build noted {}).toOption.map (fun d =>
      (d.resolve "Users", (ofRelation d "note" note.fields owner).toOption.map (·.1.keySource))) =
    some (some "user", some .default) := by
  rfl

/-- The owner of a note gets the default key, and no field of a note has its name. -/
theorem owner_not_isNamed : ∃ d out diagnostics, Directory.build noted {} = .ok d ∧
    ofRelation d "note" note.fields owner = .ok (out, diagnostics) ∧ out.keySource = .default ∧
    out.foreignKey = .text (defaultName "Users") ∧
    ∀ f ∈ note.fields, ¬ f.IsNamed (defaultName "Users") := by
  obtain ⟨d, built, shown⟩ := exists_eq_ok_of_toOption owner_resolved
  obtain ⟨resolved, shown⟩ := Prod.mk.inj shown
  obtain ⟨⟨out, diagnostics⟩, ok, isDefault⟩ := exists_eq_ok_of_toOption shown
  have isOther : owner.otherSide d "note" "Users" = "user" := by
    rw [Relation.otherSide, if_pos (by rfl), resolved, Option.getD_some]
  obtain ⟨_, _, same, passes, -, -, oneWord⟩ :=
    not_isNamed_of_default (e := note) noted_wellTyped built
    (by simp [note, Field.bare_wellTyped]) owner_wellTyped rfl rfl isOther
  obtain ⟨rfl, rfl⟩ := Prod.mk.inj (Except.ok.inj (ok.symm.trans same))
  obtain ⟨isKey, missed⟩ := passes isDefault
  have finds := oneWord (by decide) (by rfl) (by decide)
  exact ⟨d, out, diagnostics, built, ok, isDefault, isKey,
    fun f mem => (missed note rfl f mem).2 finds⟩

/-- A comment belongs to a blog post and has a field for its key. -/
def remark : Entity where
  name := .text "comment"
  fields := [.bare "blogPostId"]
  relations := [{ name := .text "post", kind := .belongsTo, target := .text "blog_post" }]

/-- In the example the key is the default, and yet a field of this name is there. -/
theorem remark_passes_field :
    (Field.bare "blogPostId").IsNamed (defaultName "blog_post") ∧
    (AnalysisResult.analyze [{ name := .text "blog_post" }, remark] {}).toOption.map (fun result =>
      result.schemas.map fun schema => (schema.name, schema.relations.map fun r =>
        (r.foreignKey.text?, r.keySource))) =
    some [("blog_post", []), ("comment", [(some "blogPostId", .default)])] := by
  constructor
  · exact ⟨_, rfl, by rfl⟩
  · decide +kernel

end ResolvedRelation

end EntityModel
