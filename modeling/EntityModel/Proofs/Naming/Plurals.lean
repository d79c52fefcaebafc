import EntityModel.Proofs.Naming.Forms
import EntityModel.Proofs.Text.Affix
import Mathlib.Data.List.Nodup

/-!
# Words of one plural

The plural of a word does not tell the word. Three suffix rules of the plural give what the rule of
the other words gives for another word, as for `cooky` and `cookie`, `ax` and `axe`, `calf` and
`calve`; and some of the listed plurals are also what the suffix rules give for a word that is not
listed, as for `leaf` and `leave`. These are all such words (`Naming.pluralOf_eq_iff`).
-/

namespace EntityModel

open Text

namespace Naming

variable {w s t : List Char}

/-! ### Listed words -/

/-- The words whose plural is listed, or that are listed as their own plural. -/
def listedWords : List (List Char) :=
  irregularWords.map (·.1.toList) ++ uncountableWords.map String.toList

/-- No plural is listed for a word that is not listed. -/
lemma irregularPlural?_eq_none (unlisted : s ∉ listedWords) : irregularPlural? s = none := by
  rw [irregularPlural?, Option.map_eq_none_iff, List.lookup_eq_none_iff]
  intro pair mem
  rw [bne_iff_ne]
  rintro same
  refine unlisted (List.mem_append_left _ (List.mem_map.2 ⟨pair, mem, ?_⟩))
  rw [← same, String.toList_ofList]

lemma isUncountable_eq_false (unlisted : s ∉ listedWords) : isUncountable s = false := by
  rw [isUncountable, List.contains_eq_mem, decide_eq_false_iff_not]
  intro mem
  exact unlisted (List.mem_append_right _ (List.mem_map.2 ⟨_, mem, String.toList_ofList⟩))

/-! ### Suffix rules -/

/-- The endings after which the plural has a further syllable. -/
def hissingEndings : List String := ["s", "x", "z", "ch", "sh"]

def pluralBySuffix (word : List Char) : List Char :=
  if endsIn word "y" && consonantFromEnd 1 word then dropEnd 1 word ++ ['i', 'e', 's']
  else if endsInAny word hissingEndings then word ++ ['e', 's']
  else if endsInAny word ["lf", "arf"] then dropEnd 1 word ++ ['v', 'e', 's']
  else word ++ ['s']

/-- A word that is not listed has the plural that the suffix rules give. -/
lemma pluralOf_of_not_listed (unlisted : s ∉ listedWords) : pluralOf s = pluralBySuffix s := by
  rw [pluralOf, irregularPlural?_eq_none unlisted]
  simp only [isUncountable_eq_false unlisted, Bool.false_eq_true, if_false]
  rfl

/-- The first word has by a suffix rule the plural that the second one has by adding an `s`. -/
inductive Merges : List Char → List Char → Prop
  | ie {w : List Char} : consonantFromEnd 0 w = true → Merges (w ++ ['y']) (w ++ ['i', 'e'])
  | e {w : List Char} : endsInAny w hissingEndings = true → Merges w (w ++ ['e'])
  | ve {w : List Char} : endsInAny w ["l", "ar"] = true → Merges (w ++ ['f']) (w ++ ['v', 'e'])

lemma consonantFromEnd_append (n : Nat) (w : List Char) (c : Char) :
    consonantFromEnd (n + 1) (w ++ [c]) = consonantFromEnd n w := by
  simp [consonantFromEnd, fromEnd?]

lemma endsInAny_append_f (w : List Char) :
    endsInAny (w ++ ['f']) ["lf", "arf"] = endsInAny w ["l", "ar"] := by
  simp [endsInAny, endsIn, List.isSuffixOf]

lemma exists_eq_append_f (f : endsInAny s ["lf", "arf"] = true) : ∃ w, s = w ++ ['f'] := by
  simp only [endsInAny_iff, List.mem_cons, List.not_mem_nil, or_false, exists_eq_or_imp,
    exists_eq_left] at f
  rcases f with ⟨w, rfl⟩ | ⟨w, rfl⟩
  · exact ⟨w ++ ['l'], by simp⟩
  · exact ⟨w ++ ['a', 'r'], by simp⟩

/-- A hissing word ends in one of four letters. -/
lemma exists_eq_append_of_hissing (h : endsInAny s hissingEndings = true) :
    ∃ w, ∃ c ∈ ['s', 'x', 'z', 'h'], s = w ++ [c] := by
  simp only [hissingEndings, endsInAny_iff, List.mem_cons, List.not_mem_nil, or_false,
    exists_eq_or_imp, exists_eq_left] at h
  rcases h with ⟨w, rfl⟩ | ⟨w, rfl⟩ | ⟨w, rfl⟩ | ⟨w, rfl⟩ | ⟨w, rfl⟩
  · exact ⟨w, 's', by decide, rfl⟩
  · exact ⟨w, 'x', by decide, rfl⟩
  · exact ⟨w, 'z', by decide, rfl⟩
  · exact ⟨w ++ ['c'], 'h', by decide, by simp⟩
  · exact ⟨w ++ ['s'], 'h', by decide, by simp⟩

/-- The plural of a word by the suffix rules adds an `s` to it, or to the word that it is merged
with. -/
lemma pluralBySuffix_cases (s : List Char) :
    pluralBySuffix s = s ++ ['s'] ∨ ∃ t, Merges s t ∧ pluralBySuffix s = t ++ ['s'] := by
  unfold pluralBySuffix
  split_ifs with y hissing f
  · right
    rw [Bool.and_eq_true, endsIn_iff] at y
    obtain ⟨⟨w, rfl⟩, consonant⟩ := y
    have dropped : dropEnd 1 (w ++ "y".toList) = w := dropEnd_one_append w 'y'
    rw [dropped]
    exact ⟨_, .ie (consonantFromEnd_append 0 w 'y' ▸ consonant), by simp⟩
  · right
    exact ⟨_, .e hissing, by simp⟩
  · right
    obtain ⟨w, rfl⟩ := exists_eq_append_f f
    rw [dropEnd_one_append]
    exact ⟨_, .ve (endsInAny_append_f w ▸ f), by simp⟩
  · left
    rfl

namespace Merges

/-- Where endings merge, the plural is that of the other word. -/
lemma pluralBySuffix_left (h : Merges s t) : pluralBySuffix s = t ++ ['s'] := by
  cases h with
  | @ie w consonant =>
    have y : endsIn (w ++ ['y']) "y" = true := endsIn_iff.2 (List.suffix_append _ _)
    rw [pluralBySuffix, y, consonantFromEnd_append, consonant, dropEnd_one_append]
    simp
  | e hissing =>
    obtain ⟨w, c, mem, rfl⟩ := exists_eq_append_of_hissing hissing
    have other : 'y' ≠ c := fun same => absurd (same ▸ mem) (by decide)
    have y : endsIn (w ++ [c]) "y" = false := endsIn_append_eq_false (bne_iff_ne.2 other)
    rw [pluralBySuffix, y, hissing]
    simp
  | @ve w ends =>
    have y : endsIn (w ++ ['f']) "y" = false := endsIn_append_eq_false (by decide)
    have plain : endsInAny (w ++ ['f']) hissingEndings = false :=
      endsInAny_append_eq_false (by decide)
    rw [pluralBySuffix, y, plain, endsInAny_append_f, ends, dropEnd_one_append]
    simp

/-- The plural of a word in `e` adds an `s`. -/
lemma pluralBySuffix_right (h : Merges s t) : pluralBySuffix t = t ++ ['s'] := by
  obtain ⟨w, rfl⟩ : ∃ w, t = w ++ ['e'] := by
    cases h with
    | @ie w _ => exact ⟨w ++ ['i'], by simp⟩
    | e _ => exact ⟨s, rfl⟩
    | @ve w _ => exact ⟨w ++ ['v'], by simp⟩
  have y : endsIn (w ++ ['e']) "y" = false := endsIn_append_eq_false (by decide)
  have plain : endsInAny (w ++ ['e']) hissingEndings = false :=
    endsInAny_append_eq_false (by decide)
  have f : endsInAny (w ++ ['e']) ["lf", "arf"] = false := endsInAny_append_eq_false (by decide)
  rw [pluralBySuffix, y, plain, f]
  rfl

/-- The letter before the last one of the second word tells the rule. -/
lemma exists_eq_append (h : Merges s t) : ∃ w c, t = w ++ [c, 'e'] ∧
    s = w ++ [if c = 'i' then 'y' else if c = 'v' then 'f' else c] := by
  cases h with
  | @ie w _ => exact ⟨w, 'i', rfl, rfl⟩
  | e hissing =>
    obtain ⟨w, c, mem, rfl⟩ := exists_eq_append_of_hissing hissing
    have notI : c ≠ 'i' := fun same => absurd (same ▸ mem) (by decide)
    have notV : c ≠ 'v' := fun same => absurd (same ▸ mem) (by decide)
    exact ⟨w, c, by simp, by rw [if_neg notI, if_neg notV]⟩
  | @ve w _ => exact ⟨w, 'v', rfl, rfl⟩

lemma left_unique (h : Merges s w) (h' : Merges t w) : s = t := by
  obtain ⟨u, c, isW, isS⟩ := h.exists_eq_append
  obtain ⟨v, d, isW', isT⟩ := h'.exists_eq_append
  obtain ⟨rfl, ends⟩ := List.append_inj' (isW.symm.trans isW') rfl
  obtain rfl := (List.cons.inj ends).1
  rw [isS, isT]

end Merges

/-- Words that are not listed have one plural just if they are merged. -/
theorem pluralBySuffix_eq_iff :
    pluralBySuffix s = pluralBySuffix t ↔ s = t ∨ Merges s t ∨ Merges t s := by
  constructor
  · intro same
    rcases pluralBySuffix_cases s with isS | ⟨v, merges, isS⟩ <;>
      rcases pluralBySuffix_cases t with isT | ⟨w, merges', isT⟩ <;>
      rw [isS, isT, List.append_left_inj] at same
    · left
      exact same
    · right; right
      exact same ▸ merges'
    · right; left
      exact same ▸ merges
    · left
      exact merges.left_unique (same ▸ merges')
  · rintro (rfl | merges | merges)
    · rfl
    · rw [merges.pluralBySuffix_left, merges.pluralBySuffix_right]
    · rw [merges.pluralBySuffix_left, merges.pluralBySuffix_right]

/-! ### Words of one plural -/

/-- Listed words, each with a word that is not listed and has the same plural. -/
def homographs : List (String × String) := [
  ("leaf", "leave"), ("life", "live"), ("knife", "knive"), ("wife", "wive"), ("self", "selve"),
  ("elf", "elve"), ("loaf", "loave"), ("potato", "potatoe"), ("tomato", "tomatoe"),
  ("hero", "heroe"), ("echo", "echoe"), ("veto", "vetoe"), ("movie", "movy"),
  ("analysis", "analyse"), ("analysis", "analys"), ("diagnosis", "diagnose"),
  ("diagnosis", "diagnos"), ("thesis", "these"), ("thesis", "thes"), ("crisis", "crise"),
  ("crisis", "cris"), ("species", "specie"), ("species", "specy"), ("series", "serie"),
  ("series", "sery"), ("news", "new")]

/-- The listed word has the plural that the suffix rules give for the other one. -/
def IsHomograph (listed other : List Char) : Prop :=
  (String.ofList listed, String.ofList other) ∈ homographs

instance (listed other : List Char) : Decidable (IsHomograph listed other) :=
  inferInstanceAs (Decidable (_ ∈ _))

/-- The words among which are all that have a plural by the suffix rules. -/
def candidates (plural : List Char) : List (List Char) :=
  [dropEnd 1 plural, dropEnd 2 plural, dropEnd 3 plural ++ ['y'], dropEnd 3 plural ++ ['f']]

/-- A word is among the candidates for the singular of its plural. -/
lemma mem_candidates (s : List Char) : s ∈ candidates (pluralBySuffix s) := by
  rcases pluralBySuffix_cases s with isPlural | ⟨t, merges, isPlural⟩
  · rw [isPlural, candidates, dropEnd_one_append]
    exact List.mem_cons_self
  · rw [isPlural]
    cases merges with
    | @ie w _ =>
      have dropped : dropEnd 3 (w ++ ['i', 'e', 's']) = w := dropEnd_append rfl
      simp [candidates, dropped]
    | e _ =>
      have dropped : dropEnd 2 (s ++ ['e', 's']) = s := dropEnd_append rfl
      simp [candidates, dropped]
    | @ve w _ =>
      have dropped : dropEnd 3 (w ++ ['v', 'e', 's']) = w := dropEnd_append rfl
      simp [candidates, dropped]

/-- Listed words are not empty, and their plurals are neither empty nor the same for two of them.
Where the suffix rules give the plural of a listed word for another word, the two are homographs. -/
lemma listedWords_spec : (listedWords.map pluralOf).Nodup ∧
    ∀ s ∈ listedWords, s ≠ [] ∧ pluralOf s ≠ [] ∧ ∀ t ∈ candidates (pluralOf s),
      pluralOf s = pluralBySuffix t → t ∉ listedWords → IsHomograph s t := by
  decide +kernel

/-- Of two homographs the first is listed and the second is not, and they have one plural. -/
lemma homographs_spec : ∀ pair ∈ homographs, pair.1.toList ∈ listedWords ∧
    pair.2.toList ∉ listedWords ∧ pair.2.toList ≠ [] ∧
      pluralOf pair.1.toList = pluralBySuffix pair.2.toList := by
  decide +kernel

/-- Listed words of one plural are one word. -/
lemma eq_of_pluralOf_eq_of_listed (isListed : s ∈ listedWords) (isListed' : t ∈ listedWords)
    (same : pluralOf s = pluralOf t) : s = t :=
  List.inj_on_of_nodup_map listedWords_spec.1 isListed isListed' same

lemma IsHomograph.spec (h : IsHomograph s t) :
    s ∈ listedWords ∧ t ∉ listedWords ∧ t ≠ [] ∧ pluralOf s = pluralBySuffix t := by
  simpa using homographs_spec _ h

lemma IsHomograph.mem_listedWords (h : IsHomograph s t) : s ∈ listedWords ∧ t ∉ listedWords :=
  ⟨h.spec.1, h.spec.2.1⟩

/-- A listed word has the plural of another one just where the two are homographs. -/
lemma isHomograph_iff (isListed : s ∈ listedWords) (unlisted : t ∉ listedWords) :
    pluralOf s = pluralBySuffix t ↔ IsHomograph s t := by
  constructor
  · intro same
    obtain ⟨-, -, all⟩ := listedWords_spec.2 s isListed
    exact all t (same ▸ mem_candidates t) same unlisted
  · exact fun isHomograph => isHomograph.spec.2.2.2

/-- Two words have one plural: they are the same, or are merged by the suffix rules, or one of them
is listed with the plural that the rules give for the other one. -/
def SharePlural (s t : List Char) : Prop :=
  s = t ∨ (s ∉ listedWords ∧ t ∉ listedWords ∧ (Merges s t ∨ Merges t s)) ∨
    IsHomograph s t ∨ IsHomograph t s

lemma sharePlural_comm : SharePlural s t ↔ SharePlural t s := by
  unfold SharePlural
  tauto

lemma sharePlural_of_listed (isListed : s ∈ listedWords) (isListed' : t ∈ listedWords) :
    SharePlural s t ↔ s = t := by
  have none : ¬ IsHomograph s t := fun h => h.mem_listedWords.2 isListed'
  have none' : ¬ IsHomograph t s := fun h => h.mem_listedWords.2 isListed
  simp [SharePlural, isListed, none, none']

lemma sharePlural_of_not_listed (unlisted : s ∉ listedWords) (unlisted' : t ∉ listedWords) :
    SharePlural s t ↔ s = t ∨ Merges s t ∨ Merges t s := by
  have none : ¬ IsHomograph s t := fun h => unlisted h.mem_listedWords.1
  have none' : ¬ IsHomograph t s := fun h => unlisted' h.mem_listedWords.1
  simp [SharePlural, unlisted, unlisted', none, none']

lemma sharePlural_iff_isHomograph (isListed : s ∈ listedWords) (unlisted : t ∉ listedWords) :
    SharePlural s t ↔ IsHomograph s t := by
  have other : s ≠ t := fun same => unlisted (same ▸ isListed)
  have none : ¬ IsHomograph t s := fun h => unlisted h.mem_listedWords.1
  simp [SharePlural, other, isListed, none]

/-- Words have one plural exactly if they share it in one of these ways. -/
theorem pluralOf_eq_iff : pluralOf s = pluralOf t ↔ SharePlural s t := by
  by_cases isListed : s ∈ listedWords <;> by_cases isListed' : t ∈ listedWords
  · rw [sharePlural_of_listed isListed isListed']
    exact ⟨eq_of_pluralOf_eq_of_listed isListed isListed', congrArg _⟩
  · rw [sharePlural_iff_isHomograph isListed isListed', pluralOf_of_not_listed isListed',
      isHomograph_iff isListed isListed']
  · rw [sharePlural_comm, sharePlural_iff_isHomograph isListed' isListed, eq_comm,
      pluralOf_of_not_listed isListed, isHomograph_iff isListed' isListed]
  · rw [sharePlural_of_not_listed isListed isListed', pluralOf_of_not_listed isListed,
      pluralOf_of_not_listed isListed', pluralBySuffix_eq_iff]

/-! ### Names -/

/-- Only the empty word shares its plural with the empty word. -/
lemma sharePlural_nil_iff : SharePlural [] t ↔ t = [] := by
  constructor
  · rintro (rfl | ⟨-, -, merges | merges⟩ | isHomograph | isHomograph)
    · rfl
    · obtain ⟨w, c, -, same⟩ := merges.exists_eq_append
      simp at same
    · obtain ⟨w, c, same, -⟩ := merges.exists_eq_append
      simp at same
    · exact absurd rfl (listedWords_spec.2 [] isHomograph.spec.1).1
    · exact absurd rfl isHomograph.spec.2.2.1
  · rintro rfl
    exact .inl rfl

lemma irregularSingular_ne_nil {singular : List Char}
    (found : irregularSingular? w = some singular) :
    singular ≠ [] := by
  obtain ⟨pair, isPair, rfl⟩ := Option.map_eq_some_iff.1 found
  have isListed : pair.1.toList ∈ listedWords :=
    List.mem_append_left _ (List.mem_map.2 ⟨pair, List.mem_of_find?_eq_some isPair, rfl⟩)
  exact (listedWords_spec.2 _ isListed).1

/-- Something of a longer word is left in its singular. -/
lemma singularBySuffix_ne_nil (long : 1 < w.length) : singularBySuffix w ≠ [] := by
  have shorter {n : Nat} (h : n < w.length) : dropEnd n w ≠ [] := by
    rw [← List.length_pos_iff, length_dropEnd]
    omega
  unfold singularBySuffix
  split_ifs with ies ves f ses known es s
  · simp
  · simp
  · exact shorter long
  · exact shorter (length_le_of_endsIn ses)
  · exact shorter long
  · obtain ⟨suffix, mem, ends⟩ := endsInAny_iff.1 es
    have all : ∀ suffix ∈ ["xes", "ches", "shes", "zzes"], 2 < suffix.toList.length := by decide
    exact shorter ((all suffix mem).trans_le ends.length_le)
  · cases found : irregularSingular? (dropEnd 1 w) with
    | none => exact shorter long
    | some singular => exact irregularSingular_ne_nil found
  · exact List.ne_nil_of_length_pos (by omega)

/-- Only the empty word has an empty singular. -/
lemma singularOf_eq_nil_iff : singularOf w = [] ↔ w = [] := by
  constructor
  · intro isNil
    by_contra other
    unfold singularOf at isNil
    split at isNil
    · exact other isNil
    · rename_i long
      split at isNil
      · rename_i singular found
        exact irregularSingular_ne_nil found isNil
      · split at isNil
        · exact other isNil
        · exact singularBySuffix_ne_nil (by omega) isNil
  · rintro rfl
    rfl

lemma toList_singularize (a : String) :
    (singularize a).toList = singularOf (lowercase a).toList := by
  rw [singularize, lowercase, String.toList_ofList, String.toList_ofList]

/-- The plural of a word is that of its singular, unless nothing is left of it. -/
lemma pluralize_nil (a : String) : pluralize a [] =
    if (singularize a).toList = [] then ""
    else String.ofList (pluralOf (singularize a).toList) := by
  have lower : lowercase (lowercase a) = lowercase a := lowercase_eq_self (allLower_lowercase a)
  have isEmpty_iff : (lowercase a).isEmpty = true ↔ (singularize a).toList = [] := by
    rw [toList_singularize, singularOf_eq_nil_iff, String.isEmpty_iff, ← String.toList_inj]
    rfl
  have singular : singularize (lowercase a) = singularize a := by
    rw [← String.toList_inj, toList_singularize, toList_singularize, lower]
  unfold pluralize
  dsimp only
  by_cases empty : (singularize a).toList = []
  · rw [if_pos (isEmpty_iff.2 empty), if_pos empty]
    exact String.isEmpty_iff.1 (isEmpty_iff.2 empty)
  · rw [if_neg (mt isEmpty_iff.1 empty), if_neg empty, singular]
    rfl

/-- No plural is empty. -/
lemma pluralOf_ne_nil (s : List Char) : pluralOf s ≠ [] := by
  by_cases isListed : s ∈ listedWords
  · exact (listedWords_spec.2 s isListed).2.1
  · rw [pluralOf_of_not_listed isListed]
    rcases pluralBySuffix_cases s with isPlural | ⟨t, -, isPlural⟩ <;>
      · rw [isPlural]
        exact List.concat_ne_nil _ _

/-- Names have one plural exactly if their singulars share it. -/
theorem pluralize_eq_iff (a b : String) : pluralize a [] = pluralize b [] ↔
    SharePlural (singularize a).toList (singularize b).toList := by
  have ne_nil (s : List Char) : String.ofList (pluralOf s) ≠ "" := by
    intro empty
    exact pluralOf_ne_nil s (by simpa using congrArg String.toList empty)
  rw [pluralize_nil, pluralize_nil]
  split_ifs with isNil isNil' isNil'
  · rw [isNil, isNil', sharePlural_nil_iff]
    simp
  · rw [isNil, sharePlural_nil_iff]
    exact iff_of_false (ne_nil _).symm isNil'
  · rw [isNil', sharePlural_comm, sharePlural_nil_iff]
    exact iff_of_false (ne_nil _) isNil
  · rw [String.ofList_inj, pluralOf_eq_iff]

end Naming

end EntityModel
