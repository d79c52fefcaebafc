import EntityModel.Naming.Case
import EntityModel.Proofs.Naming.Forms
import EntityModel.Proofs.Text.Ascii

/-!
# Names run together

Every convention for names runs the words of a name together, but for capitals and for marks between
them. So the lowercase of a camel case name is its words in lowercase, one right after the other
(`Naming.lowercase_singularCamel`). This is shown for ASCII names.
-/

namespace EntityModel.Naming

open Text

variable {cs : List Char}

/-! ### Words -/

/-- A titled word spells the word again. -/
lemma respells_titled {word : List Char} (h : AllAscii word) : Respells (titled word) word := by
  cases word with
  | nil => exact ⟨h, rfl⟩
  | cons c rest =>
    obtain ⟨first, others⟩ := List.forall_mem_cons.1 h
    rw [titled, upperChar, if_pos first, lowerChars_of_allAscii others]
    exact (respells_toUpper first).append (respells_toLower others)

def unmarked (cs : List Char) : List Char := cs.filter fun c => !isSeparator c

lemma unmarked_cons (c : Char) (cs : List Char) :
    unmarked (c :: cs) = if isSeparator c then unmarked cs else c :: unmarked cs := by
  rw [unmarked, List.filter_cons]
  cases isSeparator c <;> rfl

lemma unmarked_space_cons (cs : List Char) : unmarked (' ' :: cs) = unmarked cs := rfl

lemma unmarked_append (cs ds : List Char) : unmarked (cs ++ ds) = unmarked cs ++ unmarked ds :=
  List.filter_append ..

lemma unmarked_spaceAcronyms (cs : List Char) : unmarked (spaceAcronyms cs) = unmarked cs := by
  fun_induction spaceAcronyms cs with
  | case1 x y z rest _ ih => rw [unmarked_cons, unmarked_space_cons, ih, ← unmarked_cons]
  | case2 x y z rest _ ih => rw [unmarked_cons, ih, ← unmarked_cons]
  | case3 => rfl

lemma unmarked_spaceHumps (cs : List Char) : unmarked (spaceHumps cs) = unmarked cs := by
  fun_induction spaceHumps cs with
  | case1 x y rest _ ih => rw [unmarked_cons, unmarked_space_cons, ih, ← unmarked_cons]
  | case2 x y rest _ ih => rw [unmarked_cons, ih, ← unmarked_cons]
  | case3 => rfl

lemma flatten_pieces (cs : List Char) : (pieces cs).1 ++ (pieces cs).2.flatten = unmarked cs := by
  induction cs with
  | nil => rfl
  | cons c cs ih =>
    rw [pieces, unmarked_cons, ← ih]
    cases isSeparator c <;> rfl

/-- The words of a name one after the other are the name without its separators. -/
lemma flatten_wordsOf (cs : List Char) : (wordsOf cs).flatten = unmarked cs := by
  unfold wordsOf
  dsimp only
  rw [List.flatten_filter_not_isEmpty, List.flatten_cons, flatten_pieces, unmarked_spaceHumps,
    unmarked_spaceAcronyms]

/-- Words are made of characters of the name that are no separators. -/
lemma mem_of_mem_wordsOf {word : List Char} (mem : word ∈ wordsOf cs) {c : Char} (isIn : c ∈ word) :
    c ∈ cs ∧ isSeparator c = false := by
  have inWords : c ∈ (wordsOf cs).flatten := List.mem_flatten_of_mem mem isIn
  rwa [flatten_wordsOf, unmarked, List.mem_filter, Bool.not_eq_true'] at inWords

/-- A camel case name is its words run together, up to capitals. -/
lemma respells_camelOf (h : AllAscii cs) : Respells (camelOf cs) (unmarked cs) := by
  have ascii : ∀ word ∈ wordsOf cs, AllAscii word :=
    fun _ mem c isIn => h c (mem_of_mem_wordsOf mem isIn).1
  rw [camelOf, pascalOf, ← flatten_wordsOf]
  refine respells_uncapitalized ?_
  generalize wordsOf cs = words at ascii
  induction words with
  | nil => exact ⟨by simp [AllAscii], rfl⟩
  | cons word rest ih =>
    obtain ⟨first, others⟩ := List.forall_mem_cons.1 ascii
    rw [List.flatMap_cons, List.flatten_cons]
    exact (respells_titled first).append (ih others)

/-! ### The last word in the singular -/

/-- An ASCII character that can stand in a word. -/
def IsWordChar (c : Char) : Prop := c.val < 0x80 ∧ isSeparator c = false

instance (c : Char) : Decidable (IsWordChar c) := inferInstanceAs (Decidable (_ ∧ _))

/-- The characters can stand in a word of an ASCII name. -/
def IsWord (cs : List Char) : Prop := ∀ c ∈ cs, IsWordChar c

lemma isWordChar_cases {c : Char} (h : c.val < 0x80) :
    (IsWordChar c → IsWordChar c.toLower) ∧ (c.isLower = true → IsWordChar c) :=
  of_ascii (P := fun c => (IsWordChar c → IsWordChar c.toLower) ∧ (c.isLower = true → IsWordChar c))
    (by decide) h

lemma IsWordChar.toLower {c : Char} (h : IsWordChar c) : IsWordChar c.toLower :=
  (isWordChar_cases h.1).1 h

lemma isWordChar_of_isLower {c : Char} (letter : c.isLower = true) : IsWordChar c :=
  (isWordChar_cases (ascii_of_isLower letter)).2 letter

namespace IsWord

lemma allAscii (h : IsWord cs) : AllAscii cs := fun c mem => (h c mem).1

lemma unmarked_eq (h : IsWord cs) : unmarked cs = cs :=
  List.filter_eq_self.2 fun c mem => by rw [(h c mem).2, Bool.not_false]

lemma lowerChars (h : IsWord cs) : IsWord (lowerChars cs) := by
  rw [lowerChars_of_allAscii h.allAscii]
  exact List.forall_mem_map.2 fun c mem => (h c mem).toLower

lemma singularize {word : String} (h : IsWord word.toList) :
    IsWord (singularize word).toList := by
  intro c mem
  rw [Naming.singularize, String.toList_ofList] at mem
  exact (mem_singularOf mem).elim (h.lowerChars c) isWordChar_of_isLower

end IsWord

variable {name : String} {words : List String}

lemma isWord_of_mem_splitWords (h : AllAscii name.toList) {word : String}
    (mem : word ∈ splitWords name) : IsWord word.toList := by
  intro c isIn
  obtain ⟨cs, isWord, rfl⟩ := List.mem_map.1 mem
  rw [String.toList_ofList] at isIn
  obtain ⟨mem, plain⟩ := mem_of_mem_wordsOf isWord isIn
  exact ⟨h c mem, plain⟩

/-- The words with the last one in the singular are still words. -/
lemma isWord_of_mem_singularLast (h : ∀ word ∈ words, IsWord word.toList) :
    ∀ word ∈ singularLast words, IsWord word.toList := by
  fun_induction singularLast words with
  | case1 => exact h
  | case2 word => exact List.forall_mem_singleton.2 (List.forall_mem_singleton.1 h).singularize
  | case3 word rest _ ih =>
    obtain ⟨first, others⟩ := List.forall_mem_cons.1 h
    exact List.forall_mem_cons.2 ⟨first, ih others⟩

/-- The words of an ASCII name are words also with the last one in the singular. -/
lemma isWord_singularLast (h : AllAscii name.toList) :
    ∀ word ∈ singularLast (splitWords name), IsWord word.toList :=
  isWord_of_mem_singularLast fun _ => isWord_of_mem_splitWords h

/-- An underscore between words falls away again where they are run together. -/
lemma respells_toCamelCase (h : ∀ word ∈ words, IsWord word.toList) :
    Respells (toCamelCase ("_".intercalate words)).toList (String.join words).toList := by
  have joined : AllAscii ("_".intercalate words).toList ∧
      unmarked ("_".intercalate words).toList = (String.join words).toList := by
    rw [String.toList_intercalate, String.toList_join]
    induction words with
    | nil => exact ⟨by simp [AllAscii], rfl⟩
    | cons word rest ih =>
      obtain ⟨first, others⟩ := List.forall_mem_cons.1 h
      cases rest with
      | nil =>
        rw [List.map_singleton, List.intercalate_singleton, List.flatMap_singleton]
        exact ⟨first.allAscii, first.unmarked_eq⟩
      | cons next rest =>
        obtain ⟨ascii, same⟩ := ih others
        have mark : AllAscii "_".toList ∧ unmarked "_".toList = [] := ⟨by decide, by decide⟩
        rw [List.map_cons, List.map_cons, List.intercalate_cons_cons, ← List.map_cons,
          List.flatMap_cons, ← same, unmarked_append, unmarked_append, mark.2, first.unmarked_eq,
          List.append_nil]
        exact ⟨(first.allAscii.append mark.1).append ascii, rfl⟩
  rw [toCamelCase, String.toList_ofList, ← joined.2]
  exact respells_camelOf joined.1

/-- The words of a name in lowercase, the last one in the singular, without a mark between them. -/
def runTogether (name : String) : String := lowercase (String.join (singularLast (splitWords name)))

lemma respells_singularCamel (h : AllAscii name.toList) :
    Respells (singularCamel name).toList (String.join (singularLast (splitWords name))).toList :=
  respells_toCamelCase (isWord_singularLast h)

lemma isWord_join (h : ∀ word ∈ words, IsWord word.toList) : IsWord (String.join words).toList := by
  rw [String.toList_join]
  intro c mem
  obtain ⟨word, isWord, mem⟩ := List.mem_flatMap.1 mem
  exact h word isWord c mem

/-- The camel case name is its words run together. -/
theorem lowercase_singularCamel (h : AllAscii name.toList) :
    lowercase (singularCamel name) = runTogether name := by
  have words := isWord_join (isWord_singularLast h)
  rw [lowercase, runTogether, lowercase, (respells_singularCamel h).lowerChars_eq words.allAscii]

lemma isWord_runTogether (h : AllAscii name.toList) : IsWord (runTogether name).toList := by
  rw [runTogether, lowercase, String.toList_ofList]
  exact (isWord_join (isWord_singularLast h)).lowerChars

/-- A name of one word has only its singular to run together. -/
lemma runTogether_of_splitWords_eq (one : splitWords name = [name]) :
    runTogether name = singularize name := by
  have joined : String.join [singularize name] = singularize name := by simp
  rw [runTogether, one, singularLast, joined, lowercase_eq_self (allLower_singularize name)]

end EntityModel.Naming
