import EntityModel.Analysis.Directory
import EntityModel.Proofs.Outcome
import EntityModel.Proofs.Text.Lowercase

/-!
# Forms of names

Every form of a name, its lowercase, its singular and its plural, is in lowercase, provided that the
plurals given with the run are; and the options of a run see to that. So a form is one of its own
forms.
-/

namespace EntityModel

open Outcome Text

/-- What is found under a key stands there with it. -/
lemma mem_of_lookup {β : Type} {key : String} {value : β} {pairs : List (String × β)}
    (found : pairs.lookup key = some value) : (key, value) ∈ pairs := by
  obtain ⟨before, after, rfl, _⟩ := List.lookup_eq_some_iff.1 found
  simp

namespace Naming

variable {word : List Char} {overrides : Overrides}

/-! ### Singular -/

lemma all_isLower_irregularWords :
    ∀ pair ∈ irregularWords, (pair.1.toList ++ pair.2.toList).all Char.isLower = true := by
  decide

lemma isLower_of_irregularSingular {singular : List Char}
    (found : irregularSingular? word = some singular) {c : Char} (mem : c ∈ singular) :
    c.isLower = true := by
  obtain ⟨pair, isPair, rfl⟩ := Option.map_eq_some_iff.1 found
  have letters := all_isLower_irregularWords pair (List.mem_of_find?_eq_some isPair)
  exact List.all_eq_true.1 letters c (List.mem_append_left _ mem)

lemma isLower_of_irregularPlural {plural : List Char} (found : irregularPlural? word = some plural)
    {c : Char} (mem : c ∈ plural) : c.isLower = true := by
  obtain ⟨written, isPlural, rfl⟩ := Option.map_eq_some_iff.1 found
  have letters := all_isLower_irregularWords _ (mem_of_lookup isPlural)
  exact List.all_eq_true.1 letters c (List.mem_append_right _ mem)

/-- Suffix rules keep letters of the word and bring in lowercase ones. -/
lemma mem_singularBySuffix {c : Char} (mem : c ∈ singularBySuffix word) :
    c ∈ word ∨ c.isLower = true := by
  have kept (n : Nat) (mem : c ∈ dropEnd n word) : c ∈ word := List.mem_of_mem_take mem
  have replaced (n : Nat) {d : Char} (lower : d.isLower = true) (mem : c ∈ dropEnd n word ++ [d]) :
      c ∈ word ∨ c.isLower = true := by
    rcases List.mem_append.1 mem with mem | mem
    · exact .inl (kept n mem)
    · exact .inr (List.mem_singleton.1 mem ▸ lower)
  unfold singularBySuffix at mem
  split_ifs at mem
  · exact replaced 3 (by decide) mem
  · exact replaced 3 (by decide) mem
  · exact .inl (kept 1 mem)
  · exact .inl (kept 2 mem)
  · exact .inl (kept 1 mem)
  · exact .inl (kept 2 mem)
  · cases found : irregularSingular? (dropEnd 1 word) with
    | none => exact .inl (kept 1 (by simpa [found] using mem))
    | some singular => exact .inr (isLower_of_irregularSingular found (by simpa [found] using mem))
  · exact .inl mem

/-- The singular of a lowercase word is made of its letters and of other lowercase ones. -/
lemma mem_singularOf {c : Char} (mem : c ∈ singularOf word) : c ∈ word ∨ c.isLower = true := by
  unfold singularOf at mem
  split at mem
  · exact .inl mem
  · split at mem
    · rename_i singular found
      exact .inr (isLower_of_irregularSingular found mem)
    · split at mem
      · exact .inl mem
      · exact mem_singularBySuffix mem

lemma allLower_singularOf (h : AllLower word) : AllLower (singularOf word) := fun c mem =>
  (mem_singularOf mem).elim (h c) isLower_of_isLower

/-- The singular of a word is in lowercase. -/
theorem allLower_singularize (s : String) : AllLower (singularize s).toList := by
  rw [singularize, String.toList_ofList]
  exact allLower_singularOf (allLower_lowerAfter _ _)

/-! ### Plural -/

/-- The plural of a lowercase word is in lowercase. -/
lemma allLower_pluralOf (h : AllLower word) : AllLower (pluralOf word) := by
  unfold pluralOf
  split
  · rename_i plural found
    exact fun c mem => isLower_of_isLower (isLower_of_irregularPlural found mem)
  · split_ifs
    · exact h
    · exact (h.dropEnd 1).append (by decide)
    · exact h.append (by decide)
    · exact (h.dropEnd 1).append (by decide)
    · exact h.append (by decide)

/-- The plurals given with the run are in lowercase. -/
def InLowercase (overrides : Overrides) : Prop := ∀ pair ∈ overrides, AllLower pair.2.toList

lemma InLowercase.lookup (h : InLowercase overrides) {singular plural : String}
    (found : overrides.lookup singular = some plural) : AllLower plural.toList :=
  h _ (mem_of_lookup found)

/-- The plural of a word is in lowercase. -/
theorem allLower_pluralize (h : InLowercase overrides) (s : String) :
    AllLower (pluralize s overrides).toList := by
  unfold pluralize
  dsimp only
  split
  · exact allLower_lowercase s
  · split
    · rename_i plural found
      exact h.lookup found
    · split
      · exact allLower_lowercase s
      · split
        · rename_i plural found
          exact h.lookup found
        · rw [String.toList_ofList]
          exact allLower_pluralOf (allLower_singularize _)

end Naming

/-! ### Forms -/

lemma allLower_of_mem_nameForms {overrides : Naming.Overrides} (h : Naming.InLowercase overrides)
    {name form : String} (mem : form ∈ nameForms name overrides) : AllLower form.toList := by
  simp only [nameForms, List.mem_cons, List.not_mem_nil, or_false] at mem
  rcases mem with rfl | rfl | rfl
  · exact allLower_lowercase name
  · exact Naming.allLower_singularize name
  · exact Naming.allLower_pluralize h name

/-- A form of a name is a form of itself. -/
lemma self_mem_nameForms {overrides : Naming.Overrides} (h : Naming.InLowercase overrides)
    {name form : String} (mem : form ∈ nameForms name overrides) :
    form ∈ nameForms form overrides := by
  rw [nameForms, lowercase_eq_self (allLower_of_mem_nameForms h mem)]
  exact List.mem_cons_self

/-! ### Options -/

namespace Options

/-- A pair of overrides was there before or has the plural that has just been put. -/
lemma mem_putPlural {singular plural : String} {overrides : Naming.Overrides}
    {pair : String × String} (mem : pair ∈ putPlural singular plural overrides) :
    pair ∈ overrides ∨ pair.2 = plural := by
  induction overrides with
  | nil => exact .inr (by rw [List.mem_singleton.1 mem])
  | cons first rest ih =>
    rw [putPlural] at mem
    split at mem
    · rcases List.mem_cons.1 mem with rfl | mem
      · exact .inr rfl
      · exact .inl (List.mem_cons_of_mem _ mem)
    · rcases List.mem_cons.1 mem with rfl | mem
      · exact .inl List.mem_cons_self
      · exact (ih mem).imp_left (List.mem_cons_of_mem _)

/-- Overrides stay in lowercase if each new plural is. -/
lemma inLowercase_foldl_putPlural {pairs : List (String × String)} {overrides : Naming.Overrides}
    (h : Naming.InLowercase overrides) (new : ∀ pair ∈ pairs, AllLower pair.2.toList) :
    Naming.InLowercase
    (pairs.foldl (fun plurals pair => putPlural pair.1 pair.2 plurals) overrides) := by
  induction pairs generalizing overrides with
  | nil => exact h
  | cons pair rest ih =>
    obtain ⟨first, others⟩ := List.forall_mem_cons.1 new
    refine ih (fun other mem => ?_) others
    rcases mem_putPlural mem with old | same
    · exact h other old
    · exact same ▸ first

/-- Written plurals are read as overrides in lowercase, or not at all. -/
lemma readPlurals_ensures (written : Value) :
    Ensures (fun _ => True) Naming.InLowercase (readPlurals written) := by
  unfold readPlurals
  refine (within_any _).bind fun entries _ => ?_
  refine Ensures.bind (Ensures.mapM (R := fun _ pair => AllLower pair.2.toList) ?_)
    fun pairs all => ?_
  · rintro ⟨key, value⟩ _
    refine (within_any _).bind fun singular _ => (within_any _).bind fun plural _ => ?_
    rw [ensures_pure]
    exact allLower_lowercase plural
  · rw [ensures_pure]
    refine inLowercase_foldl_putPlural (fun _ mem => absurd mem List.not_mem_nil) fun pair mem => ?_
    obtain ⟨_, _, lower⟩ := exists_of_mem_right all mem
    exact lower

/-- The plurals of all options that can be made are in lowercase. -/
theorem inLowercase_of_make {plurals tables apiPrefix : Value} {options : Options}
    (made : make plurals tables apiPrefix = .ok options) :
    Naming.InLowercase options.pluralization := by
  have ensures : Ensures (fun _ => True) (fun options => Naming.InLowercase options.pluralization)
      (make plurals tables apiPrefix) := by
    unfold make
    refine (readPlurals_ensures plurals).bind fun overrides lower => ?_
    exact (within_any _).bind fun _ _ => (within_any _).bind fun _ _ => lower
  exact ensures.of_eq_ok made

end Options

end EntityModel
