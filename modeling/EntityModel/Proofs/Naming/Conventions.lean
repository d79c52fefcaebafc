import EntityModel.Proofs.Naming.Joints

/-!
# Conversions between conventions

A name keeps its words in another convention. Words of at least two lowercase letters and digits,
the first a letter, are found again in camel case and in Pascal case, where all their joints show.
The snake case form of any name at all is its own snake case form: it has no capitals, and no marks
but the underscores between its words (`Naming.conversions_keep_words`).
-/

namespace EntityModel.Naming

open Text

variable {c d : Char} {cs : List Char} {words : List (List Char)} {names : List String}

/-! ### Words of two letters and more -/

/-- A lowercase letter and after it at least one lowercase letter or digit. -/
def IsLong (cs : List Char) : Prop :=
  ∃ first rest, cs = first :: rest ∧ first.isLower = true ∧ rest ≠ [] ∧ ∀ c ∈ rest, IsPlainChar c

lemma IsLong.isPlainChar (long : IsLong cs) : ∀ c ∈ cs, IsPlainChar c := by
  obtain ⟨first, rest, rfl, letter, -, plain⟩ := long
  exact List.forall_mem_cons.2 ⟨.inl letter, plain⟩

/-- Between two such words the joint shows. -/
lemma IsLong.showsJoint {u w : List Char} (long : IsLong u) (long' : IsLong w) (capital : Bool) :
    showsJoint capital u w = true := by
  obtain ⟨-, rest, rfl, -, nonempty, -⟩ := long
  obtain ⟨first, -, rfl, letter, -, -⟩ := long'
  have several : 0 < rest.length := List.length_pos_of_ne_nil nonempty
  simp [Naming.showsJoint, letter, several]

/-- Words of two letters or more are found again as they are. -/
lemma refound_of_isLong (long : ∀ word ∈ words, IsLong word) (capital : Bool) :
    refound capital words = words := by
  fun_induction refound capital words with
  | case1 => rfl
  | case2 => rfl
  | case3 capital word next rest shows ih => rw [ih (List.forall_mem_cons.1 long).2]
  | case4 capital word next rest hidden ih =>
    obtain ⟨first, others⟩ := List.forall_mem_cons.1 long
    exact absurd (first.showsJoint (others next List.mem_cons_self) capital) hidden

lemma spoken_of_isLong (long : ∀ word ∈ names, IsLong word.toList) :
    spoken names = names.map String.toList := by
  refine List.filter_eq_self.2 (List.forall_mem_map.2 fun word mem => ?_)
  obtain ⟨first, rest, isCons, -⟩ := long word mem
  rw [isCons]
  rfl

/-! ### Pascal case again -/

/-- A word in Pascal case is the same whatever capitals it had. -/
lemma titled_map_toLower (ascii : AllAscii cs) : titled (cs.map Char.toLower) = titled cs := by
  cases cs with
  | nil => rfl
  | cons c rest =>
    obtain ⟨first, others⟩ := List.forall_mem_cons.1 ascii
    have same : c.toLower.toUpper = c.toUpper :=
      of_ascii (P := fun c => c.toLower.toUpper = c.toUpper) (by decide) first
    have lower := respells_toLower others
    rw [List.map_cons, titled, titled, lower.lowerChars_eq others, upperChar, upperChar,
      if_pos first, if_pos (ascii_cases first).2.1, same]

/-- A name in camel case or Pascal case has its words in Pascal case as far as their joints show. -/
lemma pascalOf_runOn (plain : ∀ word ∈ words, IsPlainWord word) (capital : Bool) :
    pascalOf (runOn capital words) = runOn true (refound capital words) := by
  rw [runOn_true, ← map_cut_runOn plain, ← wordsOf_runOn plain, List.flatMap_map]
  exact List.flatMap_congr fun word mem =>
    (titled_map_toLower (allAscii_of_mem_wordsOf_runOn plain mem)).symm

/-! ### Snake case again -/

/-- The table moves code points to no marks. -/
lemma isSeparator_targets :
    ∀ n ∈ lowerRuns.flatMap CaseRun.targets, isSeparator (Char.ofNat n) = false := by
  decide +kernel

/-- Lowercase makes no mark of a character that is none. -/
lemma isSeparator_of_mem_lowerChar (mem : d ∈ lowerChar c) (mark : isSeparator d = true) :
    isSeparator c = true := by
  unfold lowerChar at mem
  split_ifs at mem with small isDotted isSigma
  · rw [List.mem_singleton.1 mem] at mark
    exact of_ascii (P := fun c => isSeparator c.toLower = true → isSeparator c = true)
      (by decide) small mark
  · have unmarked : ∀ d ∈ ['i', '\u0307'], isSeparator d = false :=
      List.forall_mem_cons.2 ⟨by decide, List.forall_mem_singleton.2 (by decide)⟩
    exact absurd mark (Bool.eq_false_iff.1 (unmarked d mem))
  · exact absurd (List.mem_singleton.1 mem ▸ mark) (by decide)
  · split at mem
    · rename_i run found
      have covers := List.find?_some found
      have isTarget : (c.toNat + run.shift).toNat ∈ lowerRuns.flatMap CaseRun.targets :=
        List.mem_flatMap.2 ⟨run, List.mem_of_find?_eq_some found,
          List.mem_map_of_mem (CaseRun.mem_codes covers)⟩
      rw [List.mem_singleton.1 mem, shiftChar, isSeparator_targets _ isTarget] at mark
      exact absurd mark Bool.false_ne_true
    · exact List.mem_singleton.1 mem ▸ mark

/-- Lowercasing keeps the characters that stand in words. -/
lemma IsUnmarked.lowerAfter (unmarked : IsUnmarked cs) (afterCased : Bool) :
    IsUnmarked (lowerAfter afterCased cs) := by
  induction cs generalizing afterCased with
  | nil => exact unmarked
  | cons c rest ih =>
    obtain ⟨here, others⟩ := List.forall_mem_cons.1 unmarked
    rw [Text.lowerAfter]
    refine List.forall_mem_append.2 ⟨?_, ih others _⟩
    split_ifs
    · exact List.forall_mem_singleton.2 (by decide)
    · intro d mem
      by_contra mark
      rw [isSeparator_of_mem_lowerChar mem (Bool.eq_true_of_not_eq_false mark)] at here
      exact Bool.false_ne_true here.symm

/-- A lowercase text has no capitals. -/
lemma isUncapitalized_of_allLower (lower : AllLower cs) : IsUncapitalized cs := by
  intro c mem
  by_contra capital
  have capital : c.isUpper = true := Bool.eq_true_of_not_eq_false capital
  have notUpper (small : c.val < 0x80) : IsLower c → ¬ c.isUpper = true :=
    of_ascii (P := fun c => IsLower c → ¬ c.isUpper = true) (by decide) small
  exact notUpper (ascii_of_isUpper capital) (lower c mem) capital

/-- The words of a name in lowercase are not empty, in lowercase, and without marks. -/
lemma lowerWords_spec (name : String) : ∀ word ∈ lowerWords name,
    word ≠ "" ∧ AllLower word.toList ∧ IsUnmarked word.toList := by
  intro word mem
  refine ⟨(isPlain_of_mem_lowerWords word mem).1, ?_⟩
  obtain ⟨written, isWord, rfl⟩ := List.mem_map.1 mem
  obtain ⟨chars, isChars, rfl⟩ := List.mem_map.1 isWord
  have unmarked : IsUnmarked chars := fun c isIn => (mem_of_mem_wordsOf isChars isIn).2
  refine ⟨allLower_lowercase _, ?_⟩
  rw [lowercase, String.toList_ofList, String.toList_ofList]
  exact unmarked.lowerAfter false

/-- The snake case form of a name has the words of the name. -/
lemma lowerWords_toSnakeCase (name : String) : lowerWords (toSnakeCase name) = lowerWords name := by
  have spec := lowerWords_spec name
  have isWords : splitWords (toSnakeCase name) = lowerWords name := by
    have whole : spoken (lowerWords name) = (lowerWords name).map String.toList := by
      apply List.filter_eq_self.2
      simp only [List.forall_mem_map, Bool.not_eq_true', List.isEmpty_eq_false_iff]
      intro word mem none
      exact (spec word mem).1 (String.toList_inj.1 none)
    rw [splitWords, toSnakeCase_eq, wordsOf_join (fun word mem => (spec word mem).2.2)
      (fun word mem => isUncapitalized_of_allLower (spec word mem).2.1), whole, List.map_map]
    exact (List.map_congr_left fun word _ => String.ofList_toList).trans (List.map_id _)
  rw [lowerWords, isWords]
  exact (List.map_congr_left fun word mem => lowercase_eq_self (spec word mem).2.1).trans
    (List.map_id _)

/-- Conversions keep the words. -/
theorem conversions_keep_words (long : ∀ word ∈ names, IsLong word.toList) :
    toSnakeCase (toCamelCase ("_".intercalate names)) = "_".intercalate names ∧
    toSnakeCase (toPascalCase ("_".intercalate names)) = "_".intercalate names ∧
    toCamelCase (toPascalCase ("_".intercalate names)) = toCamelCase ("_".intercalate names) ∧
    ∀ name : String, toSnakeCase (toSnakeCase name) = toSnakeCase name := by
  have plain : ArePlain names := fun word mem => (long word mem).isPlainChar
  have spokenLong : ∀ word ∈ spoken names, IsLong word := by
    rw [spoken_of_isLong long]
    exact List.forall_mem_map.2 long
  have same : (spoken names).map String.ofList = names := by
    rw [spoken_of_isLong long, List.map_map]
    exact (List.map_congr_left fun word _ => String.ofList_toList).trans (List.map_id names)
  have kept (capital : Bool) := refound_of_isLong spokenLong capital
  refine ⟨?_, ?_, ?_, fun name => ?_⟩
  · rw [toSnakeCase_eq, plain.lowerWords_toCamelCase, kept, same]
  · rw [toSnakeCase_eq, plain.lowerWords_toPascalCase, kept, same]
  · rw [toCamelCase, toPascalCase, String.toList_ofList, camelOf, plain.pascalOf_join,
      pascalOf_runOn plain.isPlainWord, kept, uncapitalized_runOn plain.isPlainWord,
      ← plain.camelOf_join]
    rfl
  · rw [toSnakeCase_eq, lowerWords_toSnakeCase, toSnakeCase_eq]

/-- The second identifier of an author. -/
theorem conversions_keep_words_author_id2 : (∀ word ∈ ["author", "id2"], IsLong word.toList) ∧
    toSnakeCase (toCamelCase "author_id2") = "author_id2" ∧
    toSnakeCase (toPascalCase "author_id2") = "author_id2" ∧
    toCamelCase (toPascalCase "author_id2") = toCamelCase "author_id2" := by
  have long : ∀ word ∈ ["author", "id2"], IsLong word.toList := by
    refine List.forall_mem_cons.2 ⟨?_, List.forall_mem_singleton.2 ?_⟩
    · exact ⟨'a', "uthor".toList, rfl, by decide, by decide, all_isPlainChar_iff.1 (by decide)⟩
    · exact ⟨'i', "d2".toList, rfl, by decide, by decide, all_isPlainChar_iff.1 (by decide)⟩
  obtain ⟨camel, pascal, both, -⟩ := conversions_keep_words long
  exact ⟨long, camel, pascal, both⟩

end EntityModel.Naming
