import EntityModel.Proofs.Naming.Words

/-!
# Joints of words

In a name without marks a word ends where a capital follows: after a lowercase letter or a digit, or
after a capital if a lowercase letter comes next. Words of lowercase letters and digits that are
joined in camel case or Pascal case are found again where their joints show in this way. A joint
does not show before a digit, and not between single letters; there two words are found as one
(`Naming.refound`). Between words that are joined by underscores every joint shows.
-/

namespace EntityModel.Naming

open Text

variable {c x y : Char} {cs ds u v w : List Char} {words : List (List Char)}

/-! ### The end of a word -/

/-- Whether a word ends with a character, where the characters after it are no marks. -/
def endsWord (c : Char) : List Char → Bool
  | [] => false
  | next :: rest =>
    next.isUpper && (c.isLower || c.isDigit || c.isUpper && rest.head?.any Char.isLower)

/-- The characters with a space after each one that ends a word. -/
def spaced : List Char → List Char
  | [] => []
  | c :: rest => if endsWord c rest then c :: ' ' :: spaced rest else c :: spaced rest

/-- No space is put before the first character. -/
lemma exists_spaceAcronyms_cons (c : Char) (cs : List Char) :
    ∃ ds, spaceAcronyms (c :: cs) = c :: ds := by
  unfold spaceAcronyms
  split
  · rename_i isCons
    obtain ⟨rfl, -⟩ := List.cons.inj isCons
    split_ifs
    · exact ⟨_, rfl⟩
    · exact ⟨_, rfl⟩
  · exact ⟨_, rfl⟩

/-- The two passes over a name find the same ends as one. -/
lemma spaceHumps_spaceAcronyms (cs : List Char) : spaceHumps (spaceAcronyms cs) = spaced cs := by
  fun_induction spaceAcronyms cs with
  | case1 x y z rest capitals ih =>
    simp only [Bool.and_eq_true] at capitals
    obtain ⟨⟨first, second⟩, lower⟩ := capitals
    have ends : endsWord x (y :: z :: rest) = true := by simp [endsWord, first, second, lower]
    obtain ⟨ds, isCons⟩ := exists_spaceAcronyms_cons y (z :: rest)
    rw [spaced, if_pos ends, ← ih, isCons, spaceHumps, spaceHumps]
    simp
  | case2 x y z rest capitals ih =>
    have same : endsWord x (y :: z :: rest) = ((x.isLower || x.isDigit) && y.isUpper) := by
      revert capitals
      simp only [endsWord, List.head?_cons, Option.any_some]
      cases x.isUpper <;> cases y.isUpper <;> cases z.isLower <;> simp
    obtain ⟨ds, isCons⟩ := exists_spaceAcronyms_cons y (z :: rest)
    rw [spaced, same, ← ih, isCons, spaceHumps]
  | case3 cs short =>
    rcases cs with _ | ⟨x, _ | ⟨y, _ | ⟨z, rest⟩⟩⟩
    · rfl
    · rfl
    · have same : endsWord x [y] = ((x.isLower || x.isDigit) && y.isUpper) := by
        simp [endsWord, Bool.and_comm]
      rw [spaced, same, spaceHumps]
      rfl
    · exact absurd rfl (short x y z rest)

/-- Without capitals no space is put anywhere. -/
lemma spaced_eq_self (plain : ∀ c ∈ cs, c.isUpper = false) : spaced cs = cs := by
  induction cs with
  | nil => rfl
  | cons c rest ih =>
    obtain ⟨-, others⟩ := List.forall_mem_cons.1 plain
    have goesOn : endsWord c rest = false := by
      cases rest with
      | nil => rfl
      | cons next rest => simp [endsWord, others next List.mem_cons_self]
    rw [spaced, goesOn, ih others]
    rfl

/-! ### Words between marks -/

lemma pieces_eq_splitOnP (cs : List Char) :
    (pieces cs).1 :: (pieces cs).2 = cs.splitOnP isSeparator := by
  induction cs with
  | nil => rfl
  | cons c cs ih =>
    rw [List.splitOnP_cons_eq_if_modifyHead, ← ih, pieces]
    cases isSeparator c <;> rfl

/-- The words of a name are what stands between the marks once each end is marked by a space. -/
lemma wordsOf_eq (cs : List Char) :
    wordsOf cs = ((spaced cs).splitOnP isSeparator).filter (!·.isEmpty) := by
  rw [← spaceHumps_spaceAcronyms, ← pieces_eq_splitOnP]
  rfl

/-- No mark stands among the characters. -/
def IsUnmarked (cs : List Char) : Prop := ∀ c ∈ cs, isSeparator c = false

/-- No capital stands among the characters. -/
def IsUncapitalized (cs : List Char) : Prop := ∀ c ∈ cs, c.isUpper = false

/-- Words that are joined by underscores are split at them again. -/
lemma splitOnP_intercalate (unmarked : ∀ word ∈ words, IsUnmarked word) :
    ((['_'].intercalate words).splitOnP isSeparator).filter (!·.isEmpty) =
      words.filter (!·.isEmpty) := by
  induction words with
  | nil => rfl
  | cons word rest ih =>
    obtain ⟨first, others⟩ := List.forall_mem_cons.1 unmarked
    cases rest with
    | nil => rw [List.intercalate_singleton, List.splitOnP_eq_singleton first]
    | cons next rest =>
      rw [List.intercalate_cons_cons, List.append_assoc, List.singleton_append,
        List.splitOnP_append_cons_of_forall_mem first _ (by decide), List.filter_cons,
        List.filter_cons, ih others]

/-- What holds of the underscore and of all characters of the words holds of all of the name. -/
lemma forall_mem_intercalate {P : Char → Prop} (mark : P '_')
    (inside : ∀ word ∈ words, ∀ c ∈ word, P c) :
    ∀ c ∈ ['_'].intercalate words, P c := by
  induction words with
  | nil => exact fun c mem => absurd mem List.not_mem_nil
  | cons word rest ih =>
    obtain ⟨first, others⟩ := List.forall_mem_cons.1 inside
    cases rest with
    | nil => rwa [List.intercalate_singleton]
    | cons next rest =>
      rw [List.intercalate_cons_cons]
      exact List.forall_mem_append.2
        ⟨List.forall_mem_append.2 ⟨first, by simpa using mark⟩, ih others⟩

/-- Words without capitals that are joined by underscores are the words of the name, those that are
not empty. -/
lemma wordsOf_intercalate (unmarked : ∀ word ∈ words, IsUnmarked word)
    (plain : ∀ word ∈ words, IsUncapitalized word) :
    wordsOf (['_'].intercalate words) = words.filter (!·.isEmpty) := by
  rw [wordsOf_eq, spaced_eq_self (forall_mem_intercalate rfl plain), splitOnP_intercalate unmarked]

/-! ### Words without marks -/

/-- Characters put before the first of several words, or for a word where there is none. -/
def attach (u : List Char) : List (List Char) → List (List Char)
  | [] => [u]
  | word :: rest => (u ++ word) :: rest

lemma attach_attach (u v : List Char) (words : List (List Char)) :
    attach u (attach v words) = attach (u ++ v) words := by
  cases words with
  | nil => rfl
  | cons word rest => rw [attach, attach, attach, List.append_assoc]

/-- The words of a name without marks: it is cut after each end of a word. -/
def cut : List Char → List (List Char)
  | [] => []
  | c :: rest => if endsWord c rest then [c] :: cut rest else attach [c] (cut rest)

/-- No word that is cut off is empty. -/
lemma nil_not_mem_cut (cs : List Char) : [] ∉ cut cs := by
  induction cs with
  | nil => exact List.not_mem_nil
  | cons c rest ih =>
    rw [cut]
    split_ifs
    · simpa using ih
    · cases words : cut rest with
      | nil => simp [attach]
      | cons word others =>
        rw [words, List.mem_cons, not_or] at ih
        simpa [attach] using ih.2

/-- The spaces that are put at the joints split a name into the words that are cut off. -/
lemma splitOnP_spaced (unmarked : IsUnmarked (c :: cs)) :
    (spaced (c :: cs)).splitOnP isSeparator = cut (c :: cs) := by
  induction cs generalizing c with
  | nil =>
    have here := unmarked c List.mem_cons_self
    simp [spaced, cut, endsWord, attach, List.splitOnP_cons_eq_if_modifyHead, here]
  | cons next rest ih =>
    obtain ⟨here, others⟩ := List.forall_mem_cons.1 unmarked
    specialize ih others
    have nonempty : cut (next :: rest) ≠ [] := ih ▸ List.splitOnP_ne_nil _ _
    rw [spaced, cut]
    split_ifs
    · have space : isSeparator ' ' = true := by decide
      rw [List.splitOnP_cons_eq_if_modifyHead, here, List.splitOnP_cons_eq_if_modifyHead,
        if_pos space, ih]
      rfl
    · rw [List.splitOnP_cons_eq_if_modifyHead, here, ih]
      cases words : cut (next :: rest) with
      | nil => exact absurd words nonempty
      | cons word others => rfl

/-- A name without marks has the words into which it is cut. -/
lemma wordsOf_eq_cut (unmarked : IsUnmarked cs) : wordsOf cs = cut cs := by
  cases cs with
  | nil => rfl
  | cons c rest =>
    rw [wordsOf_eq, splitOnP_spaced unmarked, List.filter_eq_self]
    intro word mem
    cases word with
    | nil => exact absurd mem (nil_not_mem_cut _)
    | cons => rfl

/-- Characters of which all but the first are no capitals end a word at the last of them or not at
all. -/
lemma cut_append (plain : IsUncapitalized cs) (c : Char) (v : List Char) :
    cut (c :: cs ++ v) =
      if endsWord (cs.getLastD c) v then (c :: cs) :: cut v else attach (c :: cs) (cut v) := by
  induction cs generalizing c with
  | nil => rfl
  | cons d rest ih =>
    obtain ⟨here, others⟩ := List.forall_mem_cons.1 plain
    have goesOn : ¬ endsWord c (d :: rest ++ v) = true := by simp [endsWord, here]
    rw [List.cons_append, cut, if_neg goesOn, ih others, List.getLastD_cons]
    split_ifs
    · rfl
    · rw [attach_attach, List.singleton_append]

/-! ### Words of lowercase letters and digits -/

/-- A lowercase letter of ASCII or a digit. -/
def IsPlainChar (c : Char) : Prop := c.isLower = true ∨ c.isDigit = true

instance (c : Char) : Decidable (IsPlainChar c) := inferInstanceAs (Decidable (_ ∨ _))

lemma all_isPlainChar_iff : (cs.all fun c => decide (IsPlainChar c)) = true ↔
    ∀ c ∈ cs, IsPlainChar c := by
  simp

/-- A word of lowercase letters and digits. -/
def IsPlainWord (cs : List Char) : Prop := cs ≠ [] ∧ ∀ c ∈ cs, IsPlainChar c

lemma IsPlainChar.ascii (plain : IsPlainChar c) : c.val < 0x80 :=
  plain.elim ascii_of_isLower ascii_of_isDigit

/-- What is used of a lowercase letter or digit and its capital. -/
lemma IsPlainChar.spec (plain : IsPlainChar c) :
    isSeparator c = false ∧ c.isUpper = false ∧ c.toLower = c ∧ isSeparator c.toUpper = false ∧
      c.toUpper.isUpper = c.isLower ∧ c.toUpper.isLower = false ∧ c.toUpper.isDigit = c.isDigit ∧
      c.toUpper.toLower = c :=
  of_ascii (P := fun c => IsPlainChar c →
    isSeparator c = false ∧ c.isUpper = false ∧ c.toLower = c ∧
      isSeparator c.toUpper = false ∧ c.toUpper.isUpper = c.isLower ∧ c.toUpper.isLower = false ∧
      c.toUpper.isDigit = c.isDigit ∧ c.toUpper.toLower = c) (by decide) plain.ascii plain

/-- A character of a word, as a capital where asked for. -/
def raised (capital : Bool) (c : Char) : Char := if capital then c.toUpper else c

lemma IsPlainChar.raised (plain : IsPlainChar c) (capital : Bool) :
    IsWordChar (raised capital c) ∧ (Naming.raised capital c).toLower = c := by
  obtain ⟨unmarked, -, lower, unmarked', -, -, -, lower'⟩ := plain.spec
  cases capital
  · exact ⟨⟨plain.ascii, unmarked⟩, lower⟩
  · exact ⟨⟨(ascii_cases plain.ascii).1, unmarked'⟩, lower'⟩

lemma map_toLower_eq_self (plain : ∀ c ∈ cs, IsPlainChar c) : cs.map Char.toLower = cs :=
  (List.map_congr_left fun c mem => (plain c mem).spec.2.2.1).trans (List.map_id cs)

lemma titled_cons (plain : ∀ d ∈ c :: cs, IsPlainChar d) : titled (c :: cs) = c.toUpper :: cs := by
  obtain ⟨first, others⟩ := List.forall_mem_cons.1 plain
  have ascii : AllAscii cs := fun d mem => (others d mem).ascii
  rw [titled, upperChar, if_pos first.ascii, lowerChars_of_allAscii ascii,
    map_toLower_eq_self others]
  rfl

/-- Words one right after the other, each with a capital; the first one has one only if it is asked
for. -/
def runOn (capital : Bool) : List (List Char) → List Char
  | [] => []
  | word :: rest => (if capital then titled word else word) ++ runOn true rest

lemma runOn_cons (plain : ∀ d ∈ c :: cs, IsPlainChar d) (capital : Bool) (rest : List (List Char)) :
    runOn capital ((c :: cs) :: rest) = raised capital c :: cs ++ runOn true rest := by
  rw [runOn, titled_cons plain]
  cases capital <;> rfl

lemma runOn_true (words : List (List Char)) : runOn true words = words.flatMap titled := by
  induction words with
  | nil => rfl
  | cons word rest ih => rw [runOn, if_pos rfl, ih, List.flatMap_cons]

/-- Run-on words whose first letter is taken down are those whose first word is not raised. -/
lemma uncapitalized_runOn (plain : ∀ word ∈ words, IsPlainWord word) :
    uncapitalized (runOn true words) = runOn false words := by
  cases words with
  | nil => rfl
  | cons word rest =>
    obtain ⟨nonempty, first⟩ := plain word List.mem_cons_self
    obtain ⟨c, cs, rfl⟩ := List.exists_cons_of_ne_nil nonempty
    obtain ⟨isWordChar, lower⟩ := (first c List.mem_cons_self).raised true
    have ascii : AllAscii [raised true c] := List.forall_mem_singleton.2 isWordChar.1
    rw [runOn_cons first, runOn_cons first, List.cons_append, uncapitalized,
      lowerChars_of_allAscii ascii, List.map_singleton, lower]
    rfl

/-- Words that are run on make one word. -/
lemma isWord_runOn (plain : ∀ word ∈ words, IsPlainWord word) (capital : Bool) :
    IsWord (runOn capital words) := by
  induction words generalizing capital with
  | nil => exact fun c mem => absurd mem List.not_mem_nil
  | cons word rest ih =>
    obtain ⟨⟨nonempty, first⟩, others⟩ := List.forall_mem_cons.1 plain
    obtain ⟨c, cs, rfl⟩ := List.exists_cons_of_ne_nil nonempty
    obtain ⟨here, after⟩ := List.forall_mem_cons.1 first
    rw [runOn_cons first]
    refine List.forall_mem_append.2 ⟨List.forall_mem_cons.2 ⟨(here.raised capital).1, ?_⟩,
      ih others true⟩
    exact fun d mem => ((after d mem).raised false).1

/-- In lowercase the words run together. -/
lemma map_toLower_runOn (plain : ∀ word ∈ words, IsPlainWord word) (capital : Bool) :
    (runOn capital words).map Char.toLower = words.flatten := by
  induction words generalizing capital with
  | nil => rfl
  | cons word rest ih =>
    obtain ⟨⟨nonempty, first⟩, others⟩ := List.forall_mem_cons.1 plain
    obtain ⟨c, cs, rfl⟩ := List.exists_cons_of_ne_nil nonempty
    obtain ⟨here, after⟩ := List.forall_mem_cons.1 first
    rw [runOn_cons first, List.map_append, ih others, List.map_cons, (here.raised capital).2,
      map_toLower_eq_self after, List.flatten_cons]

/-! ### Joints -/

/-- Whether the end of the first of two words shows where the second follows it with a capital;
`capital` tells whether the first has one, too. -/
def showsJoint (capital : Bool) (u w : List Char) : Bool :=
  w.head?.any Char.isLower &&
    (!capital || 1 < u.length || u.all Char.isDigit || (w.drop 1).head?.any Char.isLower)

/-- The words that are found where words are written one right after the other. -/
def refound (capital : Bool) : List (List Char) → List (List Char)
  | [] => []
  | [word] => [word]
  | word :: next :: rest =>
    if showsJoint capital word next then word :: refound true (next :: rest)
    else attach word (refound true (next :: rest))

/-- Raised words do not begin with a lowercase letter. -/
lemma head?_runOn (plain : ∀ word ∈ words, IsPlainWord word) :
    (runOn true words).head?.any Char.isLower = false := by
  cases words with
  | nil => rfl
  | cons word rest =>
    obtain ⟨nonempty, first⟩ := plain word List.mem_cons_self
    obtain ⟨c, cs, rfl⟩ := List.exists_cons_of_ne_nil nonempty
    rw [runOn_cons first]
    exact (first c List.mem_cons_self).spec.2.2.2.2.2.1

/-- A joint shows just if the first word ends there. -/
lemma endsWord_runOn (capital : Bool) (plain : ∀ d ∈ c :: cs, IsPlainChar d)
    (plain' : ∀ word ∈ w :: words, IsPlainWord word) :
    endsWord (cs.getLastD (raised capital c)) (runOn true (w :: words)) =
      showsJoint capital (c :: cs) w := by
  obtain ⟨⟨nonempty, second⟩, others⟩ := List.forall_mem_cons.1 plain'
  obtain ⟨d, ds, rfl⟩ := List.exists_cons_of_ne_nil nonempty
  obtain ⟨-, -, -, -, upper, -, -, -⟩ := (second d List.mem_cons_self).spec
  have afterwards :
      (ds ++ runOn true words).head?.any Char.isLower = ds.head?.any Char.isLower := by
    cases ds with
    | nil => exact head?_runOn others
    | cons => rfl
  rw [runOn_cons second, List.cons_append, endsWord, raised, if_pos rfl, upper, afterwards,
    showsJoint, List.head?_cons, Option.any_some, List.drop_one, List.tail_cons]
  congr 1
  cases cs with
  | nil =>
    -- a single letter is a capital itself, unless it is the first word
    have only := plain c List.mem_cons_self
    obtain ⟨-, -, -, -, upper, notLower, digit, -⟩ := only.spec
    rcases only with isLetter | isDigit <;> cases capital <;> simp [raised, *]
  | cons e es =>
    have last : IsPlainChar (es.getLastD e) :=
      plain _ (List.mem_cons_of_mem c List.getLastD_mem_cons)
    rw [List.getLastD_cons]
    generalize es.getLastD e = x at last
    rcases last with isLetter | isDigit <;> simp [*]

lemma map_attach (u : List Char) (words : List (List Char)) (f : Char → Char) :
    (attach u words).map (·.map f) = attach (u.map f) (words.map (·.map f)) := by
  cases words with
  | nil => rfl
  | cons word rest => simp [attach]

/-- Words that are written one right after the other are found again as far as their joints show. -/
lemma map_cut_runOn (plain : ∀ word ∈ words, IsPlainWord word) (capital : Bool) :
    (cut (runOn capital words)).map (·.map Char.toLower) = refound capital words := by
  induction words generalizing capital with
  | nil => rfl
  | cons word rest ih =>
    obtain ⟨⟨nonempty, first⟩, others⟩ := List.forall_mem_cons.1 plain
    obtain ⟨c, cs, rfl⟩ := List.exists_cons_of_ne_nil nonempty
    obtain ⟨here, after⟩ := List.forall_mem_cons.1 first
    have lower : (raised capital c :: cs).map Char.toLower = c :: cs := by
      rw [List.map_cons, (here.raised capital).2, map_toLower_eq_self after]
    have noCapital : IsUncapitalized cs := fun d mem => (after d mem).spec.2.1
    rw [runOn_cons first, cut_append noCapital]
    cases rest with
    | nil => simpa [endsWord, runOn, cut, attach, refound] using lower
    | cons next rest =>
      rw [endsWord_runOn capital first others, refound, ← ih others true]
      by_cases shows : showsJoint capital (c :: cs) next = true
      · rw [if_pos shows, if_pos shows, List.map_cons, lower]
      · rw [if_neg shows, if_neg shows, map_attach, lower]

lemma wordsOf_runOn (plain : ∀ word ∈ words, IsPlainWord word) (capital : Bool) :
    wordsOf (runOn capital words) = cut (runOn capital words) :=
  wordsOf_eq_cut fun c mem => (isWord_runOn plain capital c mem).2

lemma allAscii_of_mem_wordsOf_runOn (plain : ∀ word ∈ words, IsPlainWord word) {capital : Bool}
    (mem : w ∈ wordsOf (runOn capital words)) : AllAscii w :=
  fun c isIn => (isWord_runOn plain capital c (mem_of_mem_wordsOf mem isIn).1).1

/-! ### Names -/

variable {names : List String}

/-- Only lowercase letters and digits stand in the words. -/
def ArePlain (names : List String) : Prop := ∀ word ∈ names, ∀ c ∈ word.toList, IsPlainChar c

instance (names : List String) : Decidable (ArePlain names) :=
  decidable_of_iff ((names.all fun word => word.toList.all fun c => decide (IsPlainChar c)) = true)
    (by simp [ArePlain])

/-- The words that are not empty, as character lists. -/
def spoken (names : List String) : List (List Char) := (names.map String.toList).filter (!·.isEmpty)

/-- Words without marks and capitals are the words of the name in which underscores join them. -/
lemma wordsOf_join (unmarked : ∀ word ∈ names, IsUnmarked word.toList)
    (plain : ∀ word ∈ names, IsUncapitalized word.toList) :
    wordsOf ("_".intercalate names).toList = spoken names := by
  have mark : "_".toList = ['_'] := rfl
  rw [String.toList_intercalate, mark]
  exact wordsOf_intercalate (List.forall_mem_map.2 unmarked) (List.forall_mem_map.2 plain)

lemma ArePlain.isPlainWord (plain : ArePlain names) : ∀ word ∈ spoken names, IsPlainWord word := by
  intro word mem
  obtain ⟨mem, nonempty⟩ := List.mem_filter.1 mem
  obtain ⟨name, isName, rfl⟩ := List.mem_map.1 mem
  exact ⟨by simpa using nonempty, plain name isName⟩

lemma ArePlain.wordsOf_join (plain : ArePlain names) :
    wordsOf ("_".intercalate names).toList = spoken names :=
  Naming.wordsOf_join (fun word mem c isIn => (plain word mem c isIn).spec.1)
    fun word mem c isIn => (plain word mem c isIn).spec.2.1

/-- Joined plain names are in lowercase. -/
lemma ArePlain.lowerChars_join (plain : ArePlain names) :
    lowerChars ("_".intercalate names).toList = ("_".intercalate names).toList := by
  have mark : "_".toList = ['_'] := rfl
  have spec : ∀ c ∈ ['_'].intercalate (names.map String.toList), c.val < 0x80 ∧ c.toLower = c :=
    forall_mem_intercalate (by decide) (List.forall_mem_map.2 fun word mem c isIn =>
      ⟨(plain word mem c isIn).ascii, (plain word mem c isIn).spec.2.2.1⟩)
  have ascii : AllAscii (['_'].intercalate (names.map String.toList)) := fun c mem => (spec c mem).1
  rw [String.toList_intercalate, mark, lowerChars_of_allAscii ascii]
  exact (List.map_congr_left fun c mem => (spec c mem).2).trans (List.map_id _)

/-- The words of joined plain names are those of each name, in order. -/
lemma ArePlain.lowerWords_join (plain : ArePlain names) :
    lowerWords ("_".intercalate names) = (spoken names).map String.ofList := by
  rw [lowerWords, splitWords, plain.wordsOf_join, List.map_map]
  refine List.map_congr_left fun word mem => ?_
  obtain ⟨-, chars⟩ := plain.isPlainWord word mem
  have ascii : AllAscii word := fun c isIn => (chars c isIn).ascii
  rw [Function.comp, lowercase, String.toList_ofList, lowerChars_of_allAscii ascii,
    map_toLower_eq_self chars]

lemma ArePlain.pascalOf_join (plain : ArePlain names) :
    pascalOf ("_".intercalate names).toList = runOn true (spoken names) := by
  rw [pascalOf, plain.wordsOf_join, runOn_true]

lemma ArePlain.camelOf_join (plain : ArePlain names) :
    camelOf ("_".intercalate names).toList = runOn false (spoken names) := by
  rw [camelOf, plain.pascalOf_join, uncapitalized_runOn plain.isPlainWord]

/-- The words of a name in camel case or Pascal case. -/
lemma lowerWords_runOn (plain : ∀ word ∈ words, IsPlainWord word) (capital : Bool) :
    lowerWords (String.ofList (runOn capital words)) =
    (refound capital words).map String.ofList := by
  rw [lowerWords, splitWords, String.toList_ofList, ← map_cut_runOn plain, ← wordsOf_runOn plain,
    List.map_map, List.map_map]
  refine List.map_congr_left fun word mem => ?_
  rw [Function.comp, lowercase, String.toList_ofList,
    lowerChars_of_allAscii (allAscii_of_mem_wordsOf_runOn plain mem)]
  rfl

namespace ArePlain

/-- The words of snake case are found again in camel case as far as their joints show. -/
theorem lowerWords_toCamelCase (plain : ArePlain names) :
    lowerWords (toCamelCase ("_".intercalate names)) =
    (refound false (spoken names)).map String.ofList := by
  rw [toCamelCase, plain.camelOf_join, lowerWords_runOn plain.isPlainWord]

/-- The words of snake case are found again in Pascal case as far as their joints show. -/
theorem lowerWords_toPascalCase (plain : ArePlain names) :
    lowerWords (toPascalCase ("_".intercalate names)) =
    (refound true (spoken names)).map String.ofList := by
  rw [toPascalCase, plain.pascalOf_join, lowerWords_runOn plain.isPlainWord]

end ArePlain

end EntityModel.Naming
