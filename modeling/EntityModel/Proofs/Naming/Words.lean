import EntityModel.Proofs.Naming.RunTogether
import EntityModel.Proofs.Text.Lowercase

/-!
# Words of snake case names

The snake case form of a name is its words in lowercase with underscores between them. No word is
empty or has an underscore in it, so the words can be read off the form: two names have the same
form just if they have the same words, whatever their capitals and the marks between them
(`Naming.toSnakeCase_eq_iff`).
-/

namespace EntityModel

namespace Text

variable {c : Char} {s : String}

/-! ### Underscores -/

lemma eq_underscore_of_mem_lowerChar (mem : '_' ∈ lowerChar c) : c = '_' := by
  rcases ascii_of_mem_lowerChar mem (by decide) (by decide) with small | rfl
  · rw [lowerChar, if_pos small] at mem
    exact of_ascii (P := fun c => '_' = c.toLower → c = '_') (by decide) small
      (List.mem_singleton.1 mem)
  · exact absurd mem (by decide)

/-- Lowercasing adds no underscore. -/
lemma underscore_not_mem_lowerAfter {cs : List Char} (plain : '_' ∉ cs) (afterCased : Bool) :
    '_' ∉ lowerAfter afterCased cs := by
  induction cs generalizing afterCased with
  | nil => exact List.not_mem_nil
  | cons c rest ih =>
    rw [List.mem_cons, not_or] at plain
    obtain ⟨here, others⟩ := plain
    rw [lowerAfter, List.mem_append, not_or]
    refine ⟨?_, ih others _⟩
    split_ifs
    · decide
    · exact fun mem => here (eq_underscore_of_mem_lowerChar mem).symm

/-- A text without an underscore has none in lowercase. -/
lemma underscore_not_mem_lowercase (plain : '_' ∉ s.toList) : '_' ∉ (lowercase s).toList := by
  rw [lowercase, String.toList_ofList]
  exact underscore_not_mem_lowerAfter plain false

end Text

namespace Naming

open Text

variable {name other : String} {words others : List String}

/-! ### Joined words -/

/-- Texts without an underscore that are joined by underscores, at least one of them, can be read
off. -/
lemma join_inj_of_ne_nil (unmarked : ∀ word ∈ words, '_' ∉ word.toList)
    (unmarked' : ∀ word ∈ others, '_' ∉ word.toList) (some : words ≠ []) (some' : others ≠ [])
    (same : "_".intercalate words = "_".intercalate others) : words = others := by
  have chars : words.map String.toList = others.map String.toList := by
    rw [← List.splitOn_intercalate '_' (List.forall_mem_map.2 unmarked) (by simpa using some),
      ← List.splitOn_intercalate '_' (List.forall_mem_map.2 unmarked') (by simpa using some')]
    have joined := congrArg String.toList same
    rw [String.toList_intercalate, String.toList_intercalate] at joined
    exact congrArg (List.splitOn '_') joined
  exact List.map_injective_iff.2 (fun _ _ => String.toList_injective) chars

/-- A word that can be told where it stands between underscores. -/
def IsPlain (word : String) : Prop := word ≠ "" ∧ '_' ∉ word.toList

/-- Words that are joined by underscores can be read off. -/
theorem join_inj (plain : ∀ word ∈ words, IsPlain word) (plain' : ∀ word ∈ others, IsPlain word)
    (same : "_".intercalate words = "_".intercalate others) : words = others := by
  have empty_ne {words : List String} (plain : ∀ word ∈ words, IsPlain word) (some : words ≠ []) :
      "_".intercalate [] ≠ "_".intercalate words := by
    -- no words at all look like one that is empty
    intro none
    have one : [""] = words :=
      join_inj_of_ne_nil (by simp) (fun word mem => (plain word mem).2) (by simp) some none
    exact (plain "" (one ▸ List.mem_singleton_self _)).1 rfl
  by_cases none : words = []
  · by_contra differ
    subst none
    exact empty_ne plain' (Ne.symm differ) same
  · by_cases none' : others = []
    · subst none'
      exact absurd same.symm (empty_ne plain none)
    · exact join_inj_of_ne_nil (fun word mem => (plain word mem).2)
        (fun word mem => (plain' word mem).2) none none' same

/-! ### Snake case -/

def lowerWords (name : String) : List String := (splitWords name).map lowercase

lemma toSnakeCase_eq (name : String) : toSnakeCase name = "_".intercalate (lowerWords name) := rfl

/-- The words of a name are plain. -/
lemma isPlain_of_mem_lowerWords : ∀ word ∈ lowerWords name, IsPlain word := by
  refine List.forall_mem_map.2 fun word mem => ⟨?_, underscore_not_mem_lowercase fun mark => ?_⟩
  all_goals obtain ⟨cs, isWord, rfl⟩ := List.mem_map.1 mem
  · rw [ne_eq, lowercase_eq_empty_iff]
    have nonempty : (!cs.isEmpty) = true := (List.mem_filter.1 isWord).2
    simpa using nonempty
  · rw [String.toList_ofList] at mark
    exact absurd (mem_of_mem_wordsOf isWord mark).2 (by decide)

/-- Names have the same snake case form just if they have the same words. -/
theorem toSnakeCase_eq_iff :
    toSnakeCase name = toSnakeCase other ↔ lowerWords name = lowerWords other := by
  rw [toSnakeCase_eq, toSnakeCase_eq]
  exact ⟨join_inj isPlain_of_mem_lowerWords isPlain_of_mem_lowerWords, congrArg _⟩

/-- A name has the snake case form of another with one more word behind it just if it has the words
of the other, which must have some, and then this word. -/
theorem toSnakeCase_eq_append_iff {word : String} (plain : IsPlain word) :
    toSnakeCase name = toSnakeCase other ++ ("_" ++ word) ↔
      lowerWords other ≠ [] ∧ lowerWords name = lowerWords other ++ [word] := by
  rw [toSnakeCase_eq, toSnakeCase_eq]
  by_cases none : lowerWords other = []
  · refine iff_of_false (fun same => ?_) (fun h => h.1 none)
    -- what stands before the underscore is then empty and no word
    have joined : "_".intercalate (lowerWords name) = "_".intercalate ["", word] := by
      rw [same, none]
      simp
    have unmarked : ∀ piece ∈ ["", word], '_' ∉ piece.toList := by
      simpa using plain.2
    by_cases none' : lowerWords name = []
    · rw [none'] at joined
      have one : [""] = ["", word] :=
        join_inj_of_ne_nil (by simp) unmarked (by simp) (by simp) joined
      simp at one
    · have two :=
        join_inj_of_ne_nil (fun word mem => (isPlain_of_mem_lowerWords word mem).2) unmarked none'
        (by simp) joined
      exact (isPlain_of_mem_lowerWords "" (two ▸ List.mem_cons_self)).1 rfl
  · have joined : "_".intercalate (lowerWords other ++ [word]) =
        "_".intercalate (lowerWords other) ++ ("_" ++ word) := by
      rw [String.intercalate_append_of_ne_nil none (by simp), String.intercalate_singleton,
        String.append_assoc]
    rw [← joined, and_iff_right none]
    refine ⟨join_inj isPlain_of_mem_lowerWords fun piece mem => ?_, congrArg _⟩
    rcases List.mem_append.1 mem with mem | mem
    · exact isPlain_of_mem_lowerWords piece mem
    · exact List.mem_singleton.1 mem ▸ plain

end Naming

end EntityModel
