import EntityModel.Proofs.Analysis.Results

/-!
# Consistency of results

A run never contradicts itself: the checks on its result cannot fail. Entities that repeat a name
are refused; all others are presented, each once, unless a bound is a number that cannot be read.
-/

namespace EntityModel.AnalysisResult

open Outcome

variable {entities : List Entity}

lemma Presents.names_perm {d : Directory} {analyzed : List Schema} {cycles : List Diagnostic}
    {result : AnalysisResult} (h : Presents d analyzed cycles result) :
    result.names.Perm d.names := by
  rw [names, Directory.names, ← Schema.map_name_of_describes h.described]
  exact h.sorted.perm.map _

/-- Entities of which two have the same name are refused for the first that repeats one. -/
lemma analyze_of_repeated (texts : ∀ e ∈ entities, e.name.IsText)
    (repeated : ¬ (entities.map (·.name)).Nodup) (options : Options) :
    ∃ fault, analyze entities options = .error fault ∧ Directory.RepeatsName entities fault := by
  have built := Directory.build_ensures texts options
  cases outcome : Directory.build entities options with
  | ok d => exact absurd (built.of_eq_ok outcome).2.nodup_map_name repeated
  | error fault =>
    refine ⟨fault, ?_, built.of_eq_error outcome⟩
    rw [analyze, outcome]
    rfl

/-- Entities that repeat a name are refused for it. Other entities are all presented, each under its
name; the result never contradicts itself, and there is one as soon as all bounds are finite
numbers. -/
theorem analyze_names_perm_or_repeated (typed : ∀ e ∈ entities, e.WellTyped Value.IsNumber)
    (options : Options) :
    (¬ (entities.map (·.name)).Nodup →
      ∃ before e after, entities = before ++ e :: after ∧ (before.map (·.name)).Nodup ∧
        e.name ∈ before.map (·.name) ∧
        analyze entities options = .error (.failed (.duplicateEntity e.name))) ∧
    ((entities.map (·.name)).Nodup →
      (∀ text entity rule,
        analyze entities options ≠ .error (.failed (.invariant text entity rule))) ∧
      (∀ result, analyze entities options = .ok result →
        (result.names.map Value.text).Perm (entities.map (·.name)) ∧ result.names.Nodup) ∧
      ((∀ e ∈ entities, e.WellTyped Value.IsFinite) →
        ∃ result, analyze entities options = .ok result)) := by
  refine ⟨fun repeated => ?_, fun distinct => ?_⟩
  · obtain ⟨fault, refused, before, e, after, split, first, again, rfl⟩ :=
      analyze_of_repeated (fun e mem => (typed e mem).name) repeated options
    exact ⟨before, e, after, split, first, again, refused⟩
  · obtain ⟨d, _, lists, ensures⟩ := analyze_ensures (fun _ => Value.IsNumber.readable) typed
      distinct options
    refine ⟨?_, ?_, fun finite => exists_analyze finite distinct options⟩
    · intro text entity rule contradicts
      -- the only faults that are left are those of numbers
      exact ensures.of_eq_error contradicts
    · intro result ok
      obtain ⟨analyzed, cycles, presents⟩ := ensures.of_eq_ok ok
      have perm := presents.names_perm
      rw [lists.map_name]
      exact ⟨perm.map _, perm.nodup_iff.2 lists.distinct⟩

/-! ### An example -/

def reference (name target : String) : Field where
  name := .text name
  type := "ref"
  target := .text target

/-- Entities with all the mistakes that are let through: names in other spellings, targets and a
join entity that are not there, a reference to the entity itself, and a cycle. -/
def tangled : List Entity := [
  { name := .text "post"
    fields := [reference "author" "Users", reference "parent" "post", reference "place" "galaxy"]
    relations := [{
      name := .text "tags", kind := .manyToMany, target := .text "tag",
        through := .text "tagging" }] },
  { name := .text "user"
    relations := [{ name := .text "team", kind := .belongsTo, target := .text "TEAMS" }] },
  { name := .text "team", fields := [reference "owner" "user"] }]

lemma reference_wellTyped {bound : Value → Prop} {name target : String} (given : target ≠ "") :
    (reference name target).WellTyped bound := by
  refine Field.wellTyped_mk.2
    ⟨⟨⟨name, rfl⟩, .inr ⟨target, rfl⟩, fun _ => ?_, ?_, .inl rfl, .inl rfl, .inl rfl⟩, ?_, ?_⟩
  · simpa [Value.isGiven, Scalar.isGiven] using given
  all_goals simp

/-- The tangled entities are well-typed. -/
lemma tangled_wellTyped {bound : Value → Prop} : ∀ e ∈ tangled, e.WellTyped bound := by
  have post := @reference_wellTyped bound
  simp only [tangled, List.forall_mem_cons, List.not_mem_nil, false_imp_iff, implies_true, and_true]
  refine ⟨⟨⟨_, rfl⟩, rfl, ?_, ?_, ?_, ?_, ?_⟩, ⟨⟨_, rfl⟩, rfl, ?_, ?_, ?_, ?_, ?_⟩,
    ⟨_, rfl⟩, rfl, ?_, ?_, ?_, ?_, ?_⟩
  all_goals simp [post]
  all_goals exact ⟨⟨_, rfl⟩, by simp [Value.IsTextOrNull, Value.IsText]⟩

lemma tangled_distinct : (tangled.map (·.name)).Nodup := by simp [tangled]

/-- The tangled entities are accepted, each with one schema, but not twice over. -/
theorem analyze_tangled_perm :
    (∃ result, analyze tangled {} = .ok result ∧
      (result.names.map Value.text).Perm [.text "post", .text "user", .text "team"]) ∧
    ∃ e ∈ tangled, analyze (tangled ++ tangled) {} =
      .error (.failed (.duplicateEntity e.name)) := by
  have twice : ∀ e ∈ tangled ++ tangled, e.WellTyped Value.IsNumber := by
    simpa using tangled_wellTyped
  have repeated : ¬ ((tangled ++ tangled).map (·.name)).Nodup := by simp [tangled]
  constructor
  · obtain ⟨_, presents⟩ := analyze_names_perm_or_repeated tangled_wellTyped {}
    obtain ⟨_, all, answer⟩ := presents tangled_distinct
    obtain ⟨result, ok⟩ := answer tangled_wellTyped
    exact ⟨result, ok, (all result ok).1⟩
  · obtain ⟨refused, _⟩ := analyze_names_perm_or_repeated twice {}
    obtain ⟨before, e, after, split, _, _, error⟩ := refused repeated
    have mem : e ∈ tangled ++ tangled := by simp [split]
    exact ⟨e, by simpa using mem, error⟩

end EntityModel.AnalysisResult
