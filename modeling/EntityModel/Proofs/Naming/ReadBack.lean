import EntityModel.Proofs.Naming.Singulars

/-!
# Plurals read back

The singular of a plural need not be the word that the plural was made of. A plural may end like a
singular, as `zebus` does; two words may have one plural, as `cooky` and `cookie`, or `quiz` and
`quize`, and then it is read as the plural of one of them; or the plural may be the one of a listed
word, as `leaves` is. The words whose plurals are misread are exactly these
(`Naming.singularOf_pluralOf_iff`).

Misreading does no harm to the plural as long as the word that is read has the same plural. It has
another one if the plural ends like a singular, and for a few words whose plurals are read as
plurals of a listed word by the suffix rules (`Naming.pluralOf_singularOf_pluralOf_iff`).
-/

namespace EntityModel

open Text

namespace Naming

variable {r s t w : List Char}

/-! ### Suffix rules of the singular -/

/-- A consonant is looked for behind the ending. -/
lemma consonantFromEnd_append_append (w v : List Char) :
    consonantFromEnd v.length (w ++ v) = consonantFromEnd 0 w := by
  have same : fromEnd? v.length (w ++ v) = fromEnd? 0 w := by
    rw [fromEnd?, fromEnd?, List.reverse_append, List.getElem?_append_right (by simp)]
    simp
  rw [consonantFromEnd, consonantFromEnd, same]

/-- A singular that is known to end in s does so. -/
lemma endsIn_s_of_isSingularInS (known : isSingularInS w = true) : endsIn w "s" = true := by
  have words : ∀ word ∈ singularWords, endsIn word.toList "s" = true := by decide
  have endings : ∀ suffix ∈ singularEndings, "s".toList <:+ suffix.toList := by decide
  rcases Bool.or_eq_true_iff.1 known with isWord | ends
  · simpa using words _ (List.contains_iff_mem.1 isWord)
  · obtain ⟨suffix, mem, ends⟩ := endsInAny_iff.1 ends
    exact endsIn_iff.2 ((endings suffix mem).trans ends)

/-- Endings of words that lose `es` in the singular, besides those of known singulars. -/
def syllabicEndings : List String := ["x", "ch", "sh", "zz"]

/-- An ending in ies goes back to y. -/
lemma singularBySuffix_append_ies (consonant : consonantFromEnd 0 w = true) :
    singularBySuffix (w ++ "ies".toList) = w ++ ['y'] := by
  have ies : endsIn (w ++ "ies".toList) "ies" = true := endsIn_iff.2 (List.suffix_append _ _)
  have before : consonantFromEnd 3 (w ++ "ies".toList) = true :=
    consonant ▸ consonantFromEnd_append_append w "ies".toList
  have dropped : dropEnd 3 (w ++ "ies".toList) = w := dropEnd_append rfl
  rw [singularBySuffix, ies, before, dropped]
  rfl

/-- An ending in ves goes back to f after l and ar. -/
lemma singularBySuffix_append_ves (ends : endsInAny w ["l", "ar"] = true) :
    singularBySuffix (w ++ "ves".toList) = w ++ ['f'] := by
  have ies : endsIn (w ++ "ves".toList) "ies" = false := endsIn_append w (by decide)
  have ves : endsIn (w ++ "ves".toList) "ves" = true := endsIn_iff.2 (List.suffix_append _ _)
  have dropped : dropEnd 3 (w ++ "ves".toList) = w := dropEnd_append rfl
  have nonempty : w ≠ [] := by
    rintro rfl
    exact absurd ends (by decide)
  rw [singularBySuffix, ies, ves, dropped, ends]
  simp [List.length_pos_iff.2 nonempty]

/-- An ending in es is taken away from a singular known to end in s. -/
lemma singularBySuffix_append_es_of_isSingularInS (known : isSingularInS w = true) :
    singularBySuffix (w ++ "es".toList) = w := by
  have dropped : dropEnd 2 (w ++ "es".toList) = w := dropEnd_append rfl
  obtain ⟨v, rfl⟩ := endsIn_iff.1 (endsIn_s_of_isSingularInS known)
  have whole : v ++ "s".toList ++ "es".toList = v ++ "ses".toList := by simp
  have ies : endsIn (v ++ "ses".toList) "ies" = false := endsIn_append v (by decide)
  have ves : endsIn (v ++ "ses".toList) "ves" = false := endsIn_append v (by decide)
  have ses : endsIn (v ++ "ses".toList) "ses" = true := endsIn_append v (by decide)
  rw [singularBySuffix, dropped, known, whole, ies, ves, ses]
  rfl

/-- An ending in es is taken away where it was put for a syllable. -/
lemma singularBySuffix_append_es_of_syllabic (ends : endsInAny w syllabicEndings = true) :
    singularBySuffix (w ++ "es".toList) = w := by
  have dropped : dropEnd 2 (w ++ "es".toList) = w := dropEnd_append rfl
  obtain ⟨suffix, mem, v, rfl⟩ := endsInAny_iff.1 ends
  have all : ∀ suffix ∈ syllabicEndings, 3 ≤ (suffix.toList ++ "es".toList).length ∧
      endsIn (suffix.toList ++ "es".toList) "ies" = false ∧
      endsIn (suffix.toList ++ "es".toList) "ves" = false ∧
      endsIn (suffix.toList ++ "es".toList) "ses" = false ∧
      endsInAny (suffix.toList ++ "es".toList) ["xes", "ches", "shes", "zzes"] = true := by decide
  obtain ⟨long, ies, ves, ses, es⟩ := all suffix mem
  have whole {ending : String} (short : ending.toList.length = 3) :
      endsIn (v ++ suffix.toList ++ "es".toList) ending =
        endsIn (suffix.toList ++ "es".toList) ending := by
    rw [List.append_assoc]
    exact endsIn_append v (short ▸ long)
  rw [singularBySuffix, dropped, whole rfl, whole rfl, whole rfl, ies, ves, ses, List.append_assoc,
    endsInAny_append v es]
  rfl

/-! ### Words with one plural -/

/-- The first word is what the suffix rules make of the second one with an `s`, when they take more
than the `s` away. -/
inductive Contracts : List Char → List Char → Prop
  | ie {w : List Char} : consonantFromEnd 0 w = true → Contracts (w ++ ['y']) (w ++ ['i', 'e'])
  | e {w : List Char} : endsInAny w syllabicEndings = true ∨ isSingularInS w = true →
      Contracts w (w ++ ['e'])
  | ve {w : List Char} : endsInAny w ["l", "ar"] = true → Contracts (w ++ ['f']) (w ++ ['v', 'e'])

namespace Contracts

/-- A word is read back from its plural where the endings contract. -/
lemma singularBySuffix_eq (h : Contracts s t) : singularBySuffix (t ++ ['s']) = s := by
  cases h with
  | @ie w consonant =>
    rw [List.append_assoc]
    exact singularBySuffix_append_ies consonant
  | e ends =>
    rw [List.append_assoc]
    exact ends.elim singularBySuffix_append_es_of_syllabic
      singularBySuffix_append_es_of_isSingularInS
  | ve ends =>
    rw [List.append_assoc]
    exact singularBySuffix_append_ves ends

/-- What the rules of the singular bring together has one plural. -/
lemma merges (h : Contracts s t) : Merges s t := by
  cases h with
  | ie consonant => exact .ie consonant
  | ve ends => exact .ve ends
  | e ends =>
    refine .e (endsInAny_iff.2 ?_)
    rcases ends with ends | known
    · obtain ⟨suffix, mem, ends⟩ := endsInAny_iff.1 ends
      have all :
          ∀ suffix ∈ syllabicEndings, ∃ hiss ∈ hissingEndings, hiss.toList <:+ suffix.toList := by
        decide
      obtain ⟨hiss, isHissing, inSuffix⟩ := all suffix mem
      exact ⟨hiss, isHissing, inSuffix.trans ends⟩
    · exact ⟨"s", by decide, endsIn_iff.1 (endsIn_s_of_isSingularInS known)⟩

end Contracts

/-- A stem that ends in s with another ends this other. -/
lemma exists_eq_append_of_suffix (stem : List Char) (ends : stem ++ ['s'] <:+ t ++ ['s']) :
    ∃ v, t = v ++ stem := by
  obtain ⟨v, whole⟩ := ends
  rw [← List.append_assoc] at whole
  exact ⟨v, (List.append_inj' whole rfl).1.symm⟩

/-- Where the rules of the singular take no more away, they take away the `s`. -/
lemma singularBySuffix_append_s (none : ∀ s, ¬ Contracts s t)
    (regular : ∀ s, irregularSingular? t = some s → endsIn t "se" = true) :
    singularBySuffix (t ++ ['s']) = t := by
  have dropped : dropEnd 1 (t ++ ['s']) = t := dropEnd_one_append t 's'
  unfold singularBySuffix
  split_ifs with ies ves f ses known es s
  · obtain ⟨ies, before⟩ := Bool.and_eq_true_iff.1 ies
    obtain ⟨v, rfl⟩ := exists_eq_append_of_suffix "ie".toList (endsIn_iff.1 ies)
    rw [List.append_assoc] at before
    have consonant : consonantFromEnd 0 v = true :=
      before ▸ (consonantFromEnd_append_append v ("ie".toList ++ ['s'])).symm
    exact absurd (.ie consonant) (none _)
  · obtain ⟨v, rfl⟩ :=
      exists_eq_append_of_suffix "ve".toList (endsIn_iff.1 (Bool.and_eq_true_iff.1 ves).1)
    have dropped : dropEnd 3 (v ++ "ve".toList ++ ['s']) = v := by
      rw [List.append_assoc]
      exact dropEnd_append rfl
    rw [dropped] at f
    exact absurd (.ve f) (none _)
  · exact dropped
  · have es : "es".toList <:+ t ++ ['s'] := .trans (by decide) (endsIn_iff.1 ses)
    obtain ⟨v, rfl⟩ := exists_eq_append_of_suffix "e".toList es
    have dropped : dropEnd 2 (v ++ "e".toList ++ ['s']) = v := by
      rw [List.append_assoc]
      exact dropEnd_append rfl
    rw [dropped] at known
    exact absurd (.e (.inr known)) (none _)
  · exact dropped
  · obtain ⟨suffix, mem, ends⟩ := endsInAny_iff.1 es
    have parts : ∀ suffix ∈ ["xes", "ches", "shes", "zzes"],
        ∃ left ∈ syllabicEndings, suffix.toList = left.toList ++ ['e'] ++ ['s'] := by decide
    obtain ⟨left, isLeft, isSuffix⟩ := parts suffix mem
    obtain ⟨v, rfl⟩ := exists_eq_append_of_suffix (left.toList ++ ['e']) (isSuffix ▸ ends)
    have syllabic : endsInAny (v ++ left.toList) syllabicEndings = true :=
      endsInAny_iff.2 ⟨left, isLeft, List.suffix_append _ _⟩
    rw [← List.append_assoc] at none
    exact absurd (.e (.inl syllabic)) (none _)
  · rw [dropped]
    cases found : irregularSingular? t with
    | none => rfl
    | some singular =>
      obtain ⟨v, rfl⟩ := endsIn_iff.1 (regular singular found)
      refine absurd (endsIn_iff.2 ⟨v, ?_⟩) ses
      simp
  · exact absurd (endsIn_iff.2 ⟨t, rfl⟩) s

/-- Of two words that have one plural by the suffix rules the first one is read: the shorter one if
the rules of the singular take more than the `s` away, and else the longer one. -/
def Prevails (s t : List Char) : Prop := Contracts s t ∨ (Merges t s ∧ ¬ Contracts t s)

/-- Words whose endings merge are different. -/
lemma Merges.ne (h : Merges s t) : s ≠ t := by
  rintro rfl
  obtain ⟨w, c, isLonger, isShorter⟩ := h.exists_eq_append
  simpa using congrArg List.length (isLonger.symm.trans isShorter)

lemma Merges.right_unique (h : Merges r s) (h' : Merges r t) : s = t :=
  List.append_cancel_right (h.pluralBySuffix_left.symm.trans h'.pluralBySuffix_left)

/-- A word that is merged with a shorter one is merged with no longer one. -/
lemma Merges.not_merges (h : Merges s t) (h' : Merges t r) : False := by
  have same : t ++ ['s'] = r ++ ['s'] := h.pluralBySuffix_right.symm.trans h'.pluralBySuffix_left
  exact h'.ne (List.append_cancel_right same)

/-- Merged words of which the longer one is read differ by an `e`. -/
lemma Merges.eq_append_of_not_contracts (h : Merges s t) (other : ¬ Contracts s t) :
    t = s ++ ['e'] ∧ endsInAny s hissingEndings = true := by
  cases h with
  | ie consonant => exact absurd (.ie consonant) other
  | ve ends => exact absurd (.ve ends) other
  | e hissing => exact ⟨rfl, hissing⟩

/-- An irregular plural is the plural of a listed word and not its own singular, and if it could be
read as the longer of two merged words it ends in `se`. -/
lemma irregularWords_read : ∀ pair ∈ irregularWords,
    pair.1.toList ∈ listedWords ∧ pluralOf pair.1.toList = pair.2.toList ∧
    singularOf pair.2.toList ≠ pair.2.toList ∧
    (endsIn pair.2.toList "e" = true →
      endsInAny (dropEnd 1 pair.2.toList) hissingEndings = true →
      endsIn pair.2.toList "se" = true) := by
  decide

/-- Of the irregular plurals only `geese` can be the longer word and be read. -/
lemma Merges.endsIn_se (h : Merges s t) (other : ¬ Contracts s t)
    (found : irregularSingular? t = some r) : endsIn t "se" = true := by
  obtain ⟨isLonger, hissing⟩ := h.eq_append_of_not_contracts other
  obtain ⟨pair, isPair, -, rfl⟩ := exists_of_irregularSingular found
  obtain ⟨-, -, -, longer⟩ := irregularWords_read pair isPair
  refine longer (endsIn_iff.2 ⟨s, isLonger.symm⟩) ?_
  rwa [isLonger, dropEnd_one_append]

namespace Prevails

lemma pluralBySuffix_eq (h : Prevails s t) : pluralBySuffix s = pluralBySuffix t :=
  pluralBySuffix_eq_iff.2 (.inr (h.imp (·.merges) (·.1)))

lemma ne (h : Prevails s t) : s ≠ t :=
  h.elim (·.merges.ne) (·.1.ne.symm)

/-- At most one word prevails over the others with its plural. -/
lemma left_unique (h : Prevails r t) (h' : Prevails s t) : r = s := by
  rcases h with contracts | ⟨merges, -⟩ <;> rcases h' with contracts' | ⟨merges', -⟩
  · exact contracts.merges.left_unique contracts'.merges
  · exact (contracts.merges.not_merges merges').elim
  · exact (contracts'.merges.not_merges merges).elim
  · exact merges.right_unique merges'

end Prevails

/-- The suffix rules read the plural that they make of a word as the plural of the one that prevails
over it, or else of the word itself. -/
lemma singularBySuffix_pluralBySuffix
    (regular : ∀ r, irregularSingular? s = some r → endsIn s "se" = true) :
    Prevails (singularBySuffix (pluralBySuffix s)) s ∨
      (∀ t, ¬ Prevails t s) ∧ singularBySuffix (pluralBySuffix s) = s := by
  -- the `s` stands behind the word itself, or behind the longer word that it is merged with
  rcases pluralBySuffix_cases s with isPlural | ⟨t, merges, isPlural⟩ <;> rw [isPlural]
  · by_cases contracts : ∃ r, Contracts r s
    · left
      obtain ⟨r, contracts⟩ := contracts
      rw [contracts.singularBySuffix_eq]
      exact .inl contracts
    · right
      rw [not_exists] at contracts
      refine ⟨?_, singularBySuffix_append_s contracts regular⟩
      rintro t (contracts' | ⟨merges, -⟩)
      · exact contracts t contracts'
      · exact merges.ne (List.append_cancel_right (isPlural.symm.trans merges.pluralBySuffix_left))
  · by_cases contracts : Contracts s t
    · right
      refine ⟨?_, contracts.singularBySuffix_eq⟩
      rintro r (contracts' | ⟨merges', other⟩)
      · exact contracts'.merges.not_merges merges
      · exact other (merges.right_unique merges' ▸ contracts)
    · left
      rw [singularBySuffix_append_s _ fun r => merges.endsIn_se contracts]
      · exact .inr ⟨merges, contracts⟩
      · intro r contracts'
        exact contracts (contracts'.merges.left_unique merges ▸ contracts')

/-! ### What plurals are read as -/

/-- Whether a word list or an ending tells that a word is a singular. -/
def isKnownSingular (word : List Char) : Bool :=
  (irregularPlural? word).isSome || isSingularInS word

/-- A word that is the singular of some word. -/
def IsSingular (s : List Char) : Prop := ∃ w, singularOf w = s

lemma IsSingular.eq_or (h : IsSingular s) : singularOf s = s ∨ s = "geese".toList := by
  obtain ⟨w, rfl⟩ := h
  exact singularOf_singularOf_or w

/-- No irregular plural but `geese` is the singular of some word. -/
lemma IsSingular.endsIn_se (h : IsSingular s) (found : irregularSingular? s = some r) :
    endsIn s "se" = true := by
  rcases h.eq_or with own | rfl
  · obtain ⟨pair, isPair, -, rfl⟩ := exists_of_irregularSingular found
    exact absurd own (irregularWords_read pair isPair).2.2.1
  · decide

/-- A word with an irregular singular is the plural of this listed word. -/
lemma pluralOf_of_irregularSingular (found : irregularSingular? w = some s) :
    s ∈ listedWords ∧ pluralOf s = w := by
  obtain ⟨pair, isPair, rfl, rfl⟩ := exists_of_irregularSingular found
  obtain ⟨isListed, isPlural, -⟩ := irregularWords_read pair isPair
  exact ⟨isListed, isPlural⟩

/-- A word without a plural of its own is listed, and its own plural. -/
lemma pluralOf_of_isUncountable (uncountable : isUncountable w = true) :
    w ∈ listedWords ∧ pluralOf w = w := by
  have all : ∀ word ∈ uncountableWords,
      word.toList ∈ listedWords ∧ pluralOf word.toList = word.toList := by decide
  have isWord := all _ (List.contains_iff_mem.1 uncountable)
  rwa [String.toList_ofList] at isWord

/-- The plural of a listed word is read as such and not taken for a singular, and it is another word
unless nothing tells that the word is a singular. -/
lemma listedWords_read : ∀ s ∈ listedWords, singularOf (pluralOf s) = s ∧
    isKnownSingular (pluralOf s) = false ∧ (isKnownSingular s = true → pluralOf s ≠ s) := by
  decide

lemma singularOf_pluralOf_of_listed (isListed : s ∈ listedWords) : singularOf (pluralOf s) = s :=
  (listedWords_read s isListed).1

/-- What the plural that the suffix rules make of a word is read as. -/
inductive Reading (s : List Char) : List Char → Prop
  /-- the listed word that has this plural -/
  | listed {t : List Char} (isHomograph : IsHomograph t s) : Reading s t
  /-- the plural itself, where it is taken for a singular -/
  | plural (unlisted : ∀ t, ¬ IsHomograph t s) (known : isKnownSingular (pluralBySuffix s) = true) :
      Reading s (pluralBySuffix s)
  /-- another word with this plural -/
  | other {t : List Char} (unlisted : ∀ t, ¬ IsHomograph t s)
      (unknown : isKnownSingular (pluralBySuffix s) = false) (prevails : Prevails t s) : Reading s t
  /-- the word -/
  | own (unlisted : ∀ t, ¬ IsHomograph t s) (unknown : isKnownSingular (pluralBySuffix s) = false)
      (unrivalled : ∀ t, ¬ Prevails t s) : Reading s s

/-- The plural by suffix is longer than the word. -/
lemma length_lt_pluralBySuffix (s : List Char) : s.length < (pluralBySuffix s).length := by
  rcases pluralBySuffix_cases s with isPlural | ⟨t, merges, isPlural⟩ <;> rw [isPlural]
  · simp
  · obtain ⟨w, c, rfl, rfl⟩ := merges.exists_eq_append
    simp

/-- What is read for the plural of an unlisted singular is the word or the one that prevails over
it. -/
lemma reading_singularOf (isSingular : IsSingular s) (unlisted : s ∉ listedWords)
    (nonempty : s ≠ []) :
    Reading s (singularOf (pluralBySuffix s)) := by
  by_cases homograph : ∃ t, IsHomograph t s
  · obtain ⟨t, homograph⟩ := homograph
    have isListed := homograph.mem_listedWords.1
    rw [← (isHomograph_iff isListed unlisted).2 homograph, singularOf_pluralOf_of_listed isListed]
    exact .listed homograph
  · rw [not_exists] at homograph
    have other {t : List Char} (isListed : t ∈ listedWords) : pluralOf t ≠ pluralBySuffix s :=
      fun same => homograph t ((isHomograph_iff isListed unlisted).1 same)
    have long : 1 < (pluralBySuffix s).length :=
      (Nat.succ_le_of_lt (List.length_pos_iff.2 nonempty)).trans_lt (length_lt_pluralBySuffix s)
    have regular : irregularSingular? (pluralBySuffix s) = none := by
      rw [Option.eq_none_iff_forall_ne_some]
      intro t found
      obtain ⟨isListed, isPlural⟩ := pluralOf_of_irregularSingular found
      exact other isListed isPlural
    have countable : isUncountable (pluralBySuffix s) = false := by
      rw [← Bool.not_eq_true]
      intro uncountable
      obtain ⟨isListed, isPlural⟩ := pluralOf_of_isUncountable uncountable
      exact other isListed isPlural
    rw [singularOf_eq_ite long regular, countable, Bool.false_or]
    split_ifs with known
    · exact .plural homograph known
    · have unknown : isKnownSingular (pluralBySuffix s) = false := Bool.eq_false_iff.2 known
      rcases singularBySuffix_pluralBySuffix fun r => isSingular.endsIn_se with
          prevails | ⟨unrivalled, own⟩
      · exact .other homograph unknown prevails
      · rw [own]
        exact .own homograph unknown unrivalled

/-- A word that is not listed and whose plural is not read as its own: the plural is taken for a
singular, or it is the plural of a listed word, or it is read as the plural of another word. -/
def IsMisread (s : List Char) : Prop :=
  s ∉ listedWords ∧ (isKnownSingular (pluralBySuffix s) = true ∨ (∃ t, IsHomograph t s) ∨
    ∃ t, Prevails t s)

/-- The singular undoes the plural exactly for the words that are not misread. -/
theorem singularOf_pluralOf_iff (isSingular : IsSingular s) (nonempty : s ≠ []) :
    singularOf (pluralOf s) = s ↔ ¬ IsMisread s := by
  by_cases isListed : s ∈ listedWords
  · exact iff_of_true (singularOf_pluralOf_of_listed isListed) fun misread => misread.1 isListed
  · have reading := reading_singularOf isSingular isListed nonempty
    rw [pluralOf_of_not_listed isListed]
    generalize singularOf (pluralBySuffix s) = t at reading ⊢
    cases reading with
    | listed homograph =>
      refine iff_of_false ?_ (not_not.2 ⟨isListed, .inr (.inl ⟨t, homograph⟩)⟩)
      exact fun same => isListed (same ▸ homograph.mem_listedWords.1)
    | plural unlisted known =>
      refine iff_of_false ?_ (not_not.2 ⟨isListed, .inl known⟩)
      exact fun same => (length_lt_pluralBySuffix s).ne' (congrArg List.length same)
    | other unlisted unknown prevails =>
      exact iff_of_false prevails.ne (not_not.2 ⟨isListed, .inr (.inr ⟨t, prevails⟩)⟩)
    | own unlisted unknown unrivalled =>
      refine iff_of_true rfl ?_
      rintro ⟨-, known | ⟨t, homograph⟩ | ⟨t, prevails⟩⟩
      · exact Bool.false_ne_true (unknown ▸ known)
      · exact unlisted t homograph
      · exact unrivalled t prevails

/-! ### The plural of a plural -/

/-- Words that are not listed and whose plurals the suffix rules read as plurals of a listed word,
which has another plural. -/
def shadowed : List String :=
  ["oxe", "fishe", "syllabuse", "analysise", "diagnosise", "thesise", "crisise"]

def IsShadowed (s : List Char) : Prop := String.ofList s ∈ shadowed

instance (s : List Char) : Decidable (IsShadowed s) := inferInstanceAs (Decidable (_ ∈ _))

/-- A shadowed word has a listed one that prevails over it. -/
lemma IsShadowed.exists_prevails (h : IsShadowed s) : ∃ t ∈ listedWords, Prevails t s := by
  have all : ∀ word ∈ shadowed, ∃ t ∈ listedWords, word.toList = t ++ ['e'] ∧
      (endsInAny t syllabicEndings = true ∨ isSingularInS t = true) := by decide
  obtain ⟨t, isListed, isWord, ends⟩ := all _ h
  rw [String.toList_ofList] at isWord
  exact ⟨t, isListed, .inl (isWord ▸ .e ends)⟩

/-- A listed word has a suffix rule in common with no singular but its homographs and the shadowed
words, and it is not shadowed itself. -/
lemma listedWords_rivals : ∀ t ∈ listedWords, ¬ IsShadowed t ∧
    (endsIn t "y" = true → consonantFromEnd 1 t = false) ∧
    (endsInAny t syllabicEndings = true ∨ isSingularInS t = true → IsShadowed (t ++ ['e'])) ∧
    (endsInAny t ["lf", "arf"] = true → IsHomograph t (dropEnd 1 t ++ ['v', 'e'])) ∧
    -- `mouse` and `goose` would prevail over `mous` and `goos`, which are no singulars
    (endsIn t "e" = true → endsInAny (dropEnd 1 t) hissingEndings = true →
      singularOf (dropEnd 1 t) ≠ dropEnd 1 t ∧ dropEnd 1 t ≠ "geese".toList) := by
  decide

/-- A listed word that prevails over another one has its plural, or else the other one is
shadowed. -/
lemma isShadowed_of_prevails (isSingular : IsSingular s) (isListed : t ∈ listedWords)
    (prevails : Prevails t s) (other : ¬ IsHomograph t s) : IsShadowed s := by
  obtain ⟨-, noIes, es, ves, others⟩ := listedWords_rivals t isListed
  rcases prevails with contracts | ⟨merges, other'⟩
  · cases contracts with
    | @ie w consonant =>
      have vowel := noIes (endsIn_iff.2 (List.suffix_append _ _))
      rw [consonantFromEnd_append, consonant] at vowel
      exact absurd vowel.symm Bool.false_ne_true
    | e ends => exact es ends
    | @ve w ends =>
      have homograph := ves (endsInAny_append_f w ▸ ends)
      rw [dropEnd_one_append] at homograph
      exact absurd homograph other
  · obtain ⟨rfl, hissing⟩ := merges.eq_append_of_not_contracts other'
    rw [dropEnd_one_append] at others
    have none := others (endsIn_iff.2 (List.suffix_append _ _)) hissing
    exact absurd isSingular.eq_or (not_or.2 none)

/-- A word that is known as a singular is not its own plural. -/
lemma pluralOf_ne_self (known : isKnownSingular w = true) : pluralOf w ≠ w := by
  by_cases isListed : w ∈ listedWords
  · exact (listedWords_read w isListed).2.2 known
  · rw [pluralOf_of_not_listed isListed]
    exact fun same => (length_lt_pluralBySuffix w).ne' (congrArg List.length same)

/-- The plural of a plural is the same exactly if the plural is not taken for a singular and the
word is not shadowed. -/
theorem pluralOf_singularOf_pluralOf_iff (isSingular : IsSingular s) (nonempty : s ≠ []) :
    pluralOf (singularOf (pluralOf s)) = pluralOf s ↔
      isKnownSingular (pluralOf s) = false ∧ ¬ IsShadowed s := by
  have unknownOfListed {w : List Char} (isListed : w ∈ listedWords) :
      isKnownSingular (pluralOf w) = false := (listedWords_read w isListed).2.1
  by_cases isListed : s ∈ listedWords
  · rw [singularOf_pluralOf_of_listed isListed]
    exact iff_of_true rfl ⟨unknownOfListed isListed, (listedWords_rivals s isListed).1⟩
  · have reading := reading_singularOf isSingular isListed nonempty
    rw [pluralOf_of_not_listed isListed]
    generalize singularOf (pluralBySuffix s) = t at reading ⊢
    cases reading with
    | listed homograph =>
      have isListed' := homograph.mem_listedWords.1
      have same := (isHomograph_iff isListed' isListed).2 homograph
      have all : ∀ pair ∈ homographs, pair.2 ∉ shadowed := by decide
      exact iff_of_true same ⟨same ▸ unknownOfListed isListed', all _ homograph⟩
    | plural unlisted known =>
      refine iff_of_false (pluralOf_ne_self known) fun h => ?_
      exact Bool.false_ne_true (h.1.symm.trans known)
    | other unlisted unknown prevails =>
      by_cases isListed' : t ∈ listedWords
      · refine iff_of_false ?_ fun h => ?_
        · exact fun same => unlisted t ((isHomograph_iff isListed' isListed).1 same)
        · exact h.2 (isShadowed_of_prevails isSingular isListed' prevails (unlisted t))
      · refine iff_of_true ?_ ⟨unknown, fun isShadowed => ?_⟩
        · rw [pluralOf_of_not_listed isListed', prevails.pluralBySuffix_eq]
        · obtain ⟨r, isListed'', prevails'⟩ := isShadowed.exists_prevails
          exact isListed' (prevails'.left_unique prevails ▸ isListed'')
    | own unlisted unknown unrivalled =>
      refine iff_of_true (pluralOf_of_not_listed isListed) ⟨unknown, fun isShadowed => ?_⟩
      obtain ⟨r, -, prevails⟩ := isShadowed.exists_prevails
      exact unrivalled r prevails

/-! ### Names -/

lemma isSingular_singularize (a : String) : IsSingular (singularize a).toList :=
  ⟨_, (toList_singularize a).symm⟩

lemma toList_pluralize {a : String} (nonempty : (singularize a).toList ≠ []) :
    (pluralize a []).toList = pluralOf (singularize a).toList := by
  rw [pluralize_nil, if_neg nonempty, String.toList_ofList]

/-- The singular of a plural is that of the plural of the singular, unless nothing is left of it. -/
lemma toList_singularize_pluralize {a : String} (nonempty : (singularize a).toList ≠ []) :
    (singularize (pluralize a [])).toList = singularOf (pluralOf (singularize a).toList) := by
  have noOverrides : InLowercase [] := fun pair mem => absurd mem List.not_mem_nil
  rw [toList_singularize, lowercase_eq_self (allLower_pluralize noOverrides a),
    toList_pluralize nonempty]

/-- The empty word is not misread. -/
lemma not_isMisread_nil : ¬ IsMisread [] := by
  rintro ⟨-, known | ⟨t, homograph⟩ | ⟨t, prevails⟩⟩
  · exact absurd known (by decide)
  · have all : ∀ pair ∈ homographs, pair.2 ≠ "" := by decide
    exact all _ homograph String.ofList_nil
  · have short := length_lt_pluralBySuffix t
    rw [prevails.pluralBySuffix_eq] at short
    have nothing : pluralBySuffix [] = ['s'] := rfl
    rw [nothing, List.length_singleton, Nat.lt_one_iff, List.length_eq_zero_iff] at short
    exact prevails.ne short

/-- The singular of the plural of a name is the singular of the name, exactly if that is not
misread. -/
theorem singularize_pluralize_iff (a : String) :
    singularize (pluralize a []) = singularize a ↔ ¬ IsMisread (singularize a).toList := by
  by_cases empty : (singularize a).toList = []
  · rw [empty, pluralize_nil, if_pos empty, String.toList_eq_nil_iff.1 empty]
    exact iff_of_true rfl not_isMisread_nil
  · rw [← String.toList_inj, toList_singularize_pluralize empty]
    exact singularOf_pluralOf_iff (isSingular_singularize a) empty

/-- A word in `z` whose plural is read as that of a word in `ze`. -/
theorem singularize_quizes : singularize "quiz" = "quiz" ∧ pluralize "quiz" [] = "quizes" ∧
    singularize "quizes" = "quize" := by
  decide

/-- The plural of the plural of a name is the plural of the name, exactly if the plural is not taken
for a singular and the singular of the name is not shadowed. -/
theorem pluralize_pluralize_iff (a : String) : pluralize (pluralize a []) [] = pluralize a [] ↔
    isKnownSingular (pluralize a []).toList = false ∧ ¬ IsShadowed (singularize a).toList := by
  by_cases empty : (singularize a).toList = []
  · rw [empty, pluralize_nil a, if_pos empty]
    exact iff_of_true rfl (by decide)
  · have nonempty : (singularize (pluralize a [])).toList ≠ [] := by
      rw [toList_singularize_pluralize empty, ne_eq, singularOf_eq_nil_iff]
      exact pluralOf_ne_nil _
    rw [← String.toList_inj, toList_pluralize nonempty, toList_singularize_pluralize empty,
      toList_pluralize empty]
    exact pluralOf_singularOf_pluralOf_iff (isSingular_singularize a) empty

/-- A regular plural that ends like a singular. -/
theorem pluralize_zebus : pluralize "zebu" [] = "zebus" ∧ pluralize "zebus" [] = "zebuses" := by
  decide

end Naming

end EntityModel
