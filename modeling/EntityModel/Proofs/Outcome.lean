import EntityModel.Fault
import Mathlib.Data.List.Forall2

/-!
# What an outcome ensures

Statements on an operation that may fail: which faults it can have, and what holds of its result if
it has one. They are put together along the steps of the operation.
-/

namespace EntityModel.Outcome

variable {α β : Type} {allowed allowed' : Fault → Prop} {P P' : α → Prop} {Q : β → Prop}

/-- The outcome is a result with a property, or one of the allowed faults. -/
def Ensures (allowed : Fault → Prop) (P : α → Prop) : Outcome α → Prop
  | .ok a => P a
  | .error fault => allowed fault

/-- The outcome is a result, or one of the allowed faults. -/
abbrev Within (allowed : Fault → Prop) (x : Outcome α) : Prop := Ensures allowed (fun _ => True) x

def never : Fault → Prop := fun _ => False

/-- Every fault: nothing is said of an operation that fails. -/
abbrev anyFault : Fault → Prop := fun _ => True

@[simp] lemma ensures_pure {a : α} : Ensures allowed P (pure a) ↔ P a := Iff.rfl

@[simp] lemma ensures_error {fault : Fault} : Ensures allowed P (.error fault) ↔ allowed fault :=
  Iff.rfl

/-- Nothing is said of an outcome to which every fault and every result is allowed. -/
lemma within_any (x : Outcome α) : Within anyFault x := by
  cases x <;> trivial

/-! ### Results of a sequence -/

@[simp] lemma ok_bind (a : α) (f : α → Outcome β) : (Except.ok a : Outcome α) >>= f = f a := rfl

@[simp] lemma ok_map (a : α) (f : α → β) : f <$> (Except.ok a : Outcome α) = .ok (f a) := rfl

lemma bind_eq_ok_iff {x : Outcome α} {f : α → Outcome β} {b : β} :
    x >>= f = .ok b ↔ ∃ a, x = .ok a ∧ f a = .ok b := by
  cases x with
  | ok a => exact ⟨fun h => ⟨a, rfl, h⟩, fun ⟨_, same, h⟩ => Except.ok.inj same ▸ h⟩
  | error fault => exact ⟨nofun, fun ⟨_, same, _⟩ => nomatch same⟩

/-- What follows two ways to begin follows the choice between them. -/
lemma ite_bind_eq {c : Prop} [Decidable c] (x y : Outcome α) (f : α → Outcome β) :
    (if c then x >>= f else y >>= f) = (if c then x else y) >>= f := by
  split_ifs <;> rfl

lemma map_eq_ok_iff {x : Outcome α} {f : α → β} {b : β} :
    f <$> x = .ok b ↔ ∃ a, x = .ok a ∧ f a = b := by
  cases x with
  | ok a => simp
  | error fault => exact ⟨nofun, fun ⟨_, same, _⟩ => nomatch same⟩

/-- A sequence has a result exactly if its first part has one from which there is one. -/
lemma exists_bind_eq_ok_iff {x : Outcome α} {f : α → Outcome β} :
    (∃ b, x >>= f = .ok b) ↔ ∃ a, x = .ok a ∧ ∃ b, f a = .ok b := by
  simp only [bind_eq_ok_iff]
  exact exists_comm.trans (exists_congr fun a => exists_and_left)

/-- What is shown of a result is shown of an outcome that is one. -/
lemma exists_eq_ok_of_toOption {x : Outcome α} {f : α → β} {b : β} (h : x.toOption.map f = some b) :
    ∃ a, x = .ok a ∧ f a = b := by
  cases x with
  | ok a => exact ⟨a, rfl, Option.some.inj h⟩
  | error fault => cases h

/-- A check that may refuse is passed where its test fails. -/
lemma guard_eq_ok_iff {c : Prop} [Decidable c] {refusal : Refusal}
    {next : Unit → Outcome β} {b : β} :
    (if c then refuse refusal >>= next else next ()) = .ok b ↔ ¬ c ∧ next () = .ok b := by
  by_cases holds : c
  · rw [if_pos holds]
    exact ⟨nofun, fun h => absurd holds h.1⟩
  · rw [if_neg holds]
    exact ⟨fun h => ⟨holds, h⟩, fun h => h.2⟩

/-- An operation that succeeds on the form of each item succeeds on the forms of all. -/
lemma mapM_map_eq_ok {γ : Type} (items : List α) {form : α → γ} {f : γ → Outcome β} {g : α → β}
    (h : ∀ a ∈ items, f (form a) = .ok (g a)) : (items.map form).mapM f = .ok (items.map g) := by
  induction items with
  | nil => rfl
  | cons a rest ih =>
    obtain ⟨first, others⟩ := List.forall_mem_cons.1 h
    rw [List.map_cons, List.mapM_cons, first, ih others]
    rfl

/-- An operation that gives for the form of each item a form of its result does so for all. -/
lemma mapM_map_eq_map {γ : Type} (items : List α) {form : γ → γ} {g : α → α} {f : α → Outcome γ}
    (h : ∀ a ∈ items, f (g a) = form <$> f a) :
    (items.map g).mapM f = List.map form <$> items.mapM f := by
  induction items with
  | nil => rfl
  | cons a rest ih =>
    obtain ⟨first, others⟩ := List.forall_mem_cons.1 h
    rw [List.map_cons, List.mapM_cons, List.mapM_cons, first, ih others]
    cases f a with
    | error fault => rfl
    | ok b => cases rest.mapM f <;> rfl

namespace Ensures

variable {x : Outcome α} {f : α → Outcome β}

lemma mono (h : Ensures allowed P x) (imp : ∀ a, P a → P' a) : Ensures allowed P' x := by
  cases x with
  | ok a => exact imp a h
  | error fault => exact h

lemma within (h : Ensures allowed P x) : Within allowed x := h.mono fun _ _ => trivial

/-- After an operation comes one that starts with what the first ensures. -/
lemma bind (h : Ensures allowed P x) (next : ∀ a, P a → Ensures allowed Q (f a)) :
    Ensures allowed Q (x >>= f) := by
  cases x with
  | ok a => exact next a h
  | error fault => exact h

/-- The same with two ways to begin. -/
lemma ite_bind {c : Prop} [Decidable c] {x y : Outcome α} (hx : c → Ensures allowed P x)
    (hy : ¬ c → Ensures allowed P y) (next : ∀ a, P a → Ensures allowed Q (f a)) :
    Ensures allowed Q (if c then x >>= f else y >>= f) := by
  split
  · rename_i h
    exact (hx h).bind next
  · rename_i h
    exact (hy h).bind next

lemma map {g : α → β} (h : Ensures allowed P x) (imp : ∀ a, P a → Q (g a)) :
    Ensures allowed Q (g <$> x) := by
  cases x with
  | ok a => exact imp a h
  | error fault => exact h

/-- What is made of a result matters no more than the result. -/
lemma map_within {g : α → β} (h : Ensures allowed P x) : Within allowed (g <$> x) :=
  h.map fun _ _ => trivial

lemma of_eq_ok {a : α} (h : Ensures allowed P x) (ok : x = .ok a) : P a := by
  subst ok
  exact h

lemma of_eq_error {fault : Fault} (h : Ensures allowed P x) (error : x = .error fault) :
    allowed fault := by
  subst error
  exact h

/-- Where no fault is allowed there is a result. -/
lemma exists_ok (h : Ensures never P x) : ∃ a, x = .ok a ∧ P a := by
  cases x with
  | ok a => exact ⟨a, rfl, h⟩
  | error fault => exact h.elim

/-- An operation on each item of a list. -/
lemma mapM {R : α → β → Prop} {items : List α} (h : ∀ a ∈ items, Ensures allowed (R a) (f a)) :
    Ensures allowed (List.Forall₂ R items) (items.mapM f) := by
  induction items with
  | nil => exact List.Forall₂.nil
  | cons a rest ih =>
    obtain ⟨first, others⟩ := List.forall_mem_cons.1 h
    rw [List.mapM_cons]
    refine first.bind fun b hb => (ih others).bind fun bs hbs => ?_
    exact List.Forall₂.cons hb hbs

end Ensures

/-! ### Results of a list -/

/-- Each result is related to one of the items. -/
lemma exists_of_mem_right {R : α → β → Prop} {items : List α} {results : List β}
    (h : List.Forall₂ R items results) {b : β} (mem : b ∈ results) : ∃ a ∈ items, R a b := by
  induction h with
  | nil => exact absurd mem List.not_mem_nil
  | @cons a _ _ _ first rest ih =>
    rcases List.mem_cons.1 mem with rfl | mem
    · exact ⟨a, List.mem_cons_self, first⟩
    · obtain ⟨other, isItem, holds⟩ := ih mem
      exact ⟨other, List.mem_cons_of_mem _ isItem, holds⟩

lemma exists_of_mem_left {R : α → β → Prop} {items : List α} {results : List β}
    (h : List.Forall₂ R items results) {a : α} (mem : a ∈ items) : ∃ b ∈ results, R a b :=
  exists_of_mem_right h.flip mem

/-- What holds of each result just if something holds of its item does so of all. -/
lemma forall_mem_iff_of_forall₂ {R : α → β → Prop} {items : List α} {results : List β}
    (h : List.Forall₂ R items results) (iff : ∀ a b, R a b → (Q b ↔ P a)) :
    (∀ b ∈ results, Q b) ↔ ∀ a ∈ items, P a := by
  induction h with
  | nil => simp
  | cons first rest ih => rw [List.forall_mem_cons, List.forall_mem_cons, iff _ _ first, ih]

/-- What each result has in common with its item the lists have in common. -/
lemma map_eq_map {γ : Type} {R : α → β → Prop} {items : List α} {results : List β} {f : α → γ}
    {g : β → γ} (h : List.Forall₂ R items results) (same : ∀ a b, R a b → g b = f a) :
    results.map g = items.map f := by
  induction h with
  | nil => rfl
  | cons first rest ih => rw [List.map_cons, List.map_cons, same _ _ first, ih]

/-- An operation on all items of a list has results exactly if it has each of them for its item. -/
lemma mapM_eq_ok_iff {f : α → Outcome β} {items : List α} {results : List β} :
    items.mapM f = .ok results ↔ List.Forall₂ (fun a b => f a = .ok b) items results := by
  induction items generalizing results with
  | nil =>
    rw [List.mapM_nil, List.forall₂_nil_left_iff]
    exact ⟨fun h => (Except.ok.inj h).symm, fun h => h ▸ rfl⟩
  | cons a rest ih =>
    rw [List.mapM_cons, bind_eq_ok_iff]
    constructor
    · rintro ⟨b, first, h⟩
      obtain ⟨bs, others, h⟩ := bind_eq_ok_iff.1 h
      exact Except.ok.inj h ▸ .cons first (ih.1 others)
    · rintro (_ | ⟨first, others⟩)
      exact ⟨_, first, bind_eq_ok_iff.2 ⟨_, ih.2 others, rfl⟩⟩

/-- There are results for a list as soon as there is one for each item. -/
lemma exists_forall₂_of_forall {f : α → Outcome β} {items : List α}
    (h : ∀ a ∈ items, ∃ b, f a = .ok b) :
    ∃ results, List.Forall₂ (fun a b => f a = .ok b) items results := by
  induction items with
  | nil => exact ⟨[], .nil⟩
  | cons a rest ih =>
    obtain ⟨⟨b, first⟩, others⟩ := List.forall_mem_cons.1 h
    obtain ⟨bs, rest⟩ := ih others
    exact ⟨b :: bs, .cons first rest⟩

/-- An operation on all items of a list has results exactly if it has one for each. -/
lemma exists_mapM_eq_ok_iff {f : α → Outcome β} {items : List α} :
    (∃ results, items.mapM f = .ok results) ↔ ∀ a ∈ items, ∃ b, f a = .ok b := by
  simp only [mapM_eq_ok_iff]
  constructor
  · rintro ⟨results, all⟩ a mem
    obtain ⟨b, -, ok⟩ := exists_of_mem_left all mem
    exact ⟨b, ok⟩
  · exact exists_forall₂_of_forall

/-! ### Operations of which only the results matter -/

namespace Ensures

variable {x : Outcome α}

/-- After a check that may refuse its test has failed. -/
lemma guard {c : Prop} [Decidable c] {refusal : Refusal} {next : Unit → Outcome β}
    (h : ¬ c → Ensures anyFault Q (next ())) :
    Ensures anyFault Q (if c then refuse refusal >>= next else next ()) := by
  split_ifs with holds
  · trivial
  · exact h holds

/-- Nothing need be known of the result of a step. -/
lemma step {next : α → Outcome β} (h : ∀ a, Ensures anyFault Q (next a)) :
    Ensures anyFault Q (x >>= next) :=
  (within_any x).bind fun a _ => h a

lemma mapError (h : Ensures anyFault P x) (f : Fault → Fault) :
    Ensures anyFault P (x.mapError f) := by
  cases x with
  | ok a => exact h
  | error fault => trivial

/-- The results of an operation on each item of a list. -/
lemma forall_mapM {f : α → Outcome β} {items : List α}
    (h : ∀ a ∈ items, Ensures anyFault Q (f a)) :
    Ensures anyFault (fun results => ∀ b ∈ results, Q b) (items.mapM f) := by
  refine (Ensures.mapM (R := fun _ b => Q b) h).mono fun results all b mem => ?_
  obtain ⟨_, _, holds⟩ := exists_of_mem_right all mem
  exact holds

end Ensures

end EntityModel.Outcome
