import EntityModel.Proofs.CreationOrder.Order

/-!
# Stability of the creation order

The search leaves schemas as they are that stand in a creation order already. Where no dependencies
close a cycle, the schemas that it has put in order are such schemas, and it leaves them as they are
when it meets them again (`sort_stable`).
-/

namespace EntityModel.CreationOrder

variable {schemas order done rest : List Schema} {diagnostics : List Diagnostic}

/-- Every dependency precedes the schemas that list it. -/
def InOrder (schemas : List Schema) : Prop :=
  ∀ schema ∈ schemas, ∀ d ∈ schema.dependsOn, Precedes schemas d schema.name

/-! ### Schemas in order -/

/-- A schema whose dependencies are all finished is put in order at once. -/
lemma run_of_finished {schema : Schema} (pending : List String)
    (other : ∀ d ∈ pending, d ≠ schema.name) (finished : ∀ d ∈ pending, d ∈ order.map (·.name))
    (sub : order ⊆ schemas) :
    run schemas ⟨[⟨schema, pending⟩], order, diagnostics⟩ =
      .ok ⟨[], order ++ [schema], diagnostics⟩ := by
  induction pending with
  | nil => rw [run_of_step (.finish ..), run_nil]
  | cons d pending ih =>
    have isFinished : d ∈ order.map (·.name) := finished d List.mem_cons_self
    have known : find? schemas d ≠ none := find?_ne_none (List.map_subset _ sub isFinished)
    obtain ⟨target, found⟩ := Option.ne_none_iff_exists'.1 known
    have notOpen : State.isOpen ⟨[⟨schema, d :: pending⟩], order, diagnostics⟩ d = false := by
      simpa [State.isOpen] using (other d List.mem_cons_self).symm
    rw [run_of_step (.skip _ _ _ _ _ _ _ found notOpen (State.isFinished_iff.2 isFinished))]
    exact ih (fun x hx => other x (List.mem_cons_of_mem _ hx))
      fun x hx => finished x (List.mem_cons_of_mem _ hx)

/-- What a schema in order depends on stands before it, and is not the schema itself. -/
lemma InOrder.before {schema : Schema} {d : String} (inOrder : InOrder (done ++ schema :: rest))
    (distinct : ((done ++ schema :: rest).map (·.name)).Nodup) (listed : d ∈ schema.dependsOn) :
    d ∈ done.map (·.name) ∧ d ≠ schema.name := by
  have precedes := inOrder schema (by simp) d listed
  have back := precedes.asymm distinct
  have mem : d ∈ (done ++ schema :: rest).map (·.name) := precedes.subset (by simp)
  have other : d ≠ schema.name := fun same => back (same ▸ same ▸ precedes)
  refine ⟨?_, other⟩
  rw [List.map_append, List.map_cons, List.mem_append, List.mem_cons] at mem
  rcases mem with before | same | after
  · exact before
  · exact absurd same other
  · have behind : Precedes (done ++ [schema] ++ rest) schema.name d :=
      Precedes.append (by simp) after
    rw [List.append_assoc] at behind
    exact absurd behind back

/-- The search takes the schemas that are in order one by one. -/
lemma runAll_of_inOrder (distinct : ((done ++ rest).map (·.name)).Nodup)
    (inOrder : InOrder (done ++ rest)) :
    runAll (done ++ rest) rest ⟨[], done, []⟩ = .ok ⟨[], done ++ rest, []⟩ := by
  induction rest generalizing done with
  | nil => simp [runAll]
  | cons root rest ih =>
    have new : State.isFinished ⟨[], done, []⟩ root.name = false := by
      refine Bool.eq_false_iff.2 fun isFinished => name_notMem distinct ?_
      rw [List.map_append]
      exact List.mem_append_left _ (State.isFinished_iff.1 isFinished)
    have taken : run (done ++ root :: rest) (State.enter ⟨[], done, []⟩ root) =
        .ok ⟨[], done ++ [root], []⟩ :=
      run_of_finished root.dependsOn (fun d listed => (inOrder.before distinct listed).2)
        (fun d listed => (inOrder.before distinct listed).1) (List.subset_append_left _ _)
    rw [runAll, if_neg (Bool.eq_false_iff.1 new), taken]
    have eq : done ++ root :: rest = done ++ [root] ++ rest := by simp
    rw [eq] at distinct inOrder ⊢
    exact ih distinct inOrder

lemma sort_of_inOrder (distinct : (schemas.map (·.name)).Nodup) (inOrder : InOrder schemas) :
    sort schemas = .ok (schemas, []) := by
  have all : runAll schemas schemas {} = .ok ⟨[], schemas, []⟩ :=
    @runAll_of_inOrder [] schemas distinct inOrder
  rw [sort, all]
  rfl

/-! ### Orders without cycles -/

namespace Sorted

/-- Where no dependencies close a cycle, none is dropped. -/
lemma dropped_eq_nil (h : Sorted schemas order diagnostics)
    (acyclic : ∀ name, ¬ Relation.TransGen (DependsOn schemas) name name) :
    dropped diagnostics = [] := by
  refine List.eq_nil_iff_forall_not_mem.2 fun edge mem => ?_
  have closing := h.closing edge mem
  exact acyclic edge.1 (.head closing.listed closing.cycle)

lemma inOrder (h : Sorted schemas order diagnostics) (none : dropped diagnostics = []) :
    InOrder order := by
  intro schema mem d listed
  have settled := (h.followed schema (h.perm.mem_iff.1 mem)).settled d listed
  rw [none] at settled
  exact settled.resolve_left List.not_mem_nil

end Sorted

/-- The search leaves schemas as they are, and reports nothing, if each of their dependencies
precedes the schemas that list it. If no dependencies close a cycle, to sort the outcome once more
makes no difference, and there is an order where all dependencies are among the schemas. -/
theorem sort_stable (distinct : (schemas.map (·.name)).Nodup) :
    ((∀ schema ∈ schemas, ∀ d ∈ schema.dependsOn, Precedes schemas d schema.name) →
      sort schemas = .ok (schemas, [])) ∧
    ((∀ name, ¬ Relation.TransGen (DependsOn schemas) name name) →
      (do let (order, _) ← sort schemas; sort order) = sort schemas ∧
      ((∀ schema ∈ schemas, ∀ d ∈ schema.dependsOn, d ∈ schemas.map (·.name)) →
        ∃ order, sort schemas = .ok (order, []) ∧ sort order = .ok (order, []))) := by
  refine ⟨sort_of_inOrder distinct, fun acyclic => ?_⟩
  have again {order : List Schema} {diagnostics : List Diagnostic}
      (ok : sort schemas = .ok (order, diagnostics)) :
      diagnostics = [] ∧ sort order = .ok (order, []) := by
    have sorted := sorted_of_sort distinct ok
    have none := sorted.dropped_eq_nil acyclic
    refine ⟨by rw [sorted.reported, none]; rfl, ?_⟩
    exact sort_of_inOrder ((sorted.perm.map _).nodup_iff.2 distinct) (sorted.inOrder none)
  constructor
  · cases ok : sort schemas with
    | error fault => rfl
    | ok result =>
      obtain ⟨order, diagnostics⟩ := result
      obtain ⟨rfl, sorted⟩ := again ok
      exact sorted
  · intro known
    obtain ⟨order, diagnostics, ok, -⟩ := sort_sorted distinct known
    obtain ⟨rfl, sorted⟩ := again ok
    exact ⟨order, ok, sorted⟩

/-- Schemas that are declared before what they depend on. -/
def declaredBackwards : List Schema := [
  { name := "comment", dependsOn := ["post", "tag"] },
  { name := "post", dependsOn := ["tag", "tag"] }, { name := "tag" }]

/-- Schemas declared backwards are put in order once and for all. -/
theorem sort_declaredBackwards :
    (∃ order, sort declaredBackwards = .ok (order, []) ∧ sort order = .ok (order, [])) ∧
    sort declaredBackwards.reverse = .ok (declaredBackwards.reverse, []) := by
  have falls : ∀ schema ∈ declaredBackwards, ∀ d ∈ schema.dependsOn,
      d.length < schema.name.length := by decide
  have acyclic (name : String) : ¬ Relation.TransGen (DependsOn declaredBackwards) name name := by
    intro cycle
    have shorter : Relation.TransGen (· > ·) name.length name.length := by
      refine cycle.lift String.length ?_
      rintro _ d ⟨schema, mem, rfl, listed⟩
      exact falls schema mem d listed
    rw [Relation.transGen_eq_self] at shorter
    exact lt_irrefl _ shorter
  constructor
  · exact ((@sort_stable declaredBackwards (by decide)).2 acyclic).2 (by decide)
  · exact (@sort_stable declaredBackwards.reverse (by decide)).1 (by decide)

end EntityModel.CreationOrder
