import EntityModel.Proofs.Naming.Plurals

/-!
# The singular as a normal form

The singular of a word is its own singular: what a suffix rule leaves is no irregular plural, and it
does not end in `s` unless it is known to be singular. There is one exception. A plural of an
irregular plural, such as `peoples`, has the singular of the word itself, but the rule of the words
in `ses` comes before the one that sees to this, so `geeses` is left as `geese`
(`Naming.singularOf_singularOf_iff`).
-/

namespace EntityModel

open Text

namespace Naming

variable {w s : List Char} {suffix : String}

/-! ### Irregular plurals -/

lemma exists_of_irregularSingular (found : irregularSingular? w = some s) :
    ∃ pair ∈ irregularWords, s = pair.1.toList ∧ w = pair.2.toList := by
  obtain ⟨pair, isPair, rfl⟩ := Option.map_eq_some_iff.1 found
  have written : pair.2 = String.ofList w := by simpa using List.find?_some isPair
  exact ⟨pair, List.mem_of_find?_eq_some isPair, rfl, by rw [written, String.toList_ofList]⟩

/-- Endings of what suffix rules leave that no irregular plural has. -/
def leftEndings : List String := ["y", "f", "ve", "x", "ch", "sh", "zz"]

/-- No irregular plural looks like a singular, and only `geese` ends in `se`. The singulars are their
own singulars. -/
lemma irregularWords_spec : ∀ pair ∈ irregularWords, isSingularInS pair.2.toList = false ∧
    endsInAny pair.2.toList leftEndings = false ∧
    (endsIn pair.2.toList "se" = true → pair.2 = "geese") ∧
    singularOf pair.1.toList = pair.1.toList := by
  decide +kernel

/-- No irregular plural is taken for a singular in `s`. -/
lemma irregularSingular?_eq_none_of_isSingularInS (known : isSingularInS w = true) :
    irregularSingular? w = none := by
  rw [Option.eq_none_iff_forall_ne_some]
  intro s found
  obtain ⟨pair, isPair, -, rfl⟩ := exists_of_irregularSingular found
  rw [(irregularWords_spec pair isPair).1] at known
  exact Bool.false_ne_true known

/-- An ending that the rules leave behind is that of no irregular plural. -/
lemma irregularSingular?_append (w : List Char) (mem : suffix ∈ leftEndings) :
    irregularSingular? (w ++ suffix.toList) = none := by
  rw [Option.eq_none_iff_forall_ne_some]
  intro s found
  obtain ⟨pair, isPair, -, isPlural⟩ := exists_of_irregularSingular found
  have ends : endsInAny pair.2.toList leftEndings = true :=
    endsInAny_iff.2 ⟨suffix, mem, isPlural ▸ List.suffix_append _ _⟩
  rw [(irregularWords_spec pair isPair).2.1] at ends
  exact Bool.false_ne_true ends

/-- Of the irregular plurals only `geese` ends in `se`. -/
lemma eq_geese_of_irregularSingular (found : irregularSingular? (w ++ "se".toList) = some s) :
    w ++ "se".toList = "geese".toList := by
  obtain ⟨pair, isPair, -, isPlural⟩ := exists_of_irregularSingular found
  obtain ⟨-, -, only, -⟩ := irregularWords_spec pair isPair
  rw [isPlural, only (endsIn_iff.2 ⟨w, isPlural⟩)]

/-! ### Words that are their own singular -/

/-- Suffix rules of the singular are about words in `s`. -/
lemma singularBySuffix_of_not_s (noS : endsIn w "s" = false) : singularBySuffix w = w := by
  have ends {suffix : String} (inS : "s".toList <:+ suffix.toList) : endsIn w suffix = false := by
    rw [← Bool.not_eq_true, endsIn_iff] at noS ⊢
    exact mt inS.trans noS
  have endsAny : endsInAny w ["xes", "ches", "shes", "zzes"] = false := by
    rw [endsInAny, List.any_eq_false]
    have inS : ∀ suffix ∈ ["xes", "ches", "shes", "zzes"], "s".toList <:+ suffix.toList := by decide
    exact fun suffix mem => Bool.not_eq_true _ ▸ ends (inS suffix mem)
  rw [singularBySuffix, ends (by decide), ends (by decide), ends (by decide), endsAny, noS]
  rfl

/-- A word that does not end in `s` and is no irregular plural is its own singular. -/
lemma singularOf_of_not_s (noS : endsIn w "s" = false) (none : irregularSingular? w = none) :
    singularOf w = w := by
  rw [singularOf, none, singularBySuffix_of_not_s noS]
  simp

lemma singularOf_append (w : List Char) (mem : suffix ∈ leftEndings) :
    singularOf (w ++ suffix.toList) = w ++ suffix.toList := by
  have all : ∀ suffix ∈ leftEndings,
      "s".toList.length ≤ suffix.toList.length ∧ endsIn suffix.toList "s" = false := by decide
  obtain ⟨long, noS⟩ := all suffix mem
  exact singularOf_of_not_s ((endsIn_append w long).trans noS) (irregularSingular?_append w mem)

lemma singularOf_append_se (other : w ++ "se".toList ≠ "geese".toList) :
    singularOf (w ++ "se".toList) = w ++ "se".toList := by
  have noS : endsIn (w ++ "se".toList) "s" = false := endsIn_append w (by decide)
  refine singularOf_of_not_s noS ?_
  rw [Option.eq_none_iff_forall_ne_some]
  exact fun s found => other (eq_geese_of_irregularSingular found)

lemma singularOf_of_isSingularInS (known : isSingularInS w = true) : singularOf w = w := by
  rw [singularOf, irregularSingular?_eq_none_of_isSingularInS known, known]
  simp

/-- The singular of an irregular plural is its own singular. -/
lemma singularOf_of_irregularSingular (found : irregularSingular? w = some s) :
    singularOf s = s := by
  obtain ⟨pair, isPair, rfl, -⟩ := exists_of_irregularSingular found
  exact (irregularWords_spec pair isPair).2.2.2

/-! ### The normal form -/

/-- A word that is not known to be singular does not end in two `s`. -/
lemma endsIn_dropEnd_one (s : endsIn w "s" = true) (unknown : isSingularInS w = false) :
    endsIn (dropEnd 1 w) "s" = false := by
  obtain ⟨v, rfl⟩ := endsIn_iff.1 s
  have dropped : dropEnd 1 (v ++ "s".toList) = v := dropEnd_append rfl
  rw [dropped, ← Bool.not_eq_true, endsIn_iff]
  rintro ⟨u, rfl⟩
  have known : endsInAny (u ++ "s".toList ++ "s".toList) singularEndings = true :=
    endsInAny_iff.2 ⟨"ss", by decide, u, by simp⟩
  rw [isSingularInS, known, Bool.or_true] at unknown
  exact Bool.false_ne_true unknown.symm

/-- What the suffix rules make of a word is its own singular, apart from the one exception. -/
lemma singularOf_singularBySuffix (unknown : isSingularInS w = false) (other : w ≠ "geeses".toList)
    (own : irregularSingular? w = none) : singularOf (singularBySuffix w) = singularBySuffix w := by
  unfold singularBySuffix
  split_ifs with ies ves f ses known es s
  · have left : "y" ∈ leftEndings := by decide
    exact singularOf_append (dropEnd 3 w) left
  · have left : "f" ∈ leftEndings := by decide
    exact singularOf_append (dropEnd 3 w) left
  · obtain ⟨v, rfl⟩ := endsIn_iff.1 (Bool.and_eq_true_iff.1 ves).1
    have dropped : dropEnd 1 (v ++ "ves".toList) = v ++ "ve".toList :=
      dropEnd_append_append v "ve".toList ['s']
    rw [dropped]
    exact singularOf_append v (by decide)
  · exact singularOf_of_isSingularInS known
  · obtain ⟨v, rfl⟩ := endsIn_iff.1 ses
    have dropped : dropEnd 1 (v ++ "ses".toList) = v ++ "se".toList :=
      dropEnd_append_append v "se".toList ['s']
    rw [dropped]
    refine singularOf_append_se fun isGeese => other ?_
    calc v ++ "ses".toList = v ++ "se".toList ++ ['s'] := by simp
      _ = "geeses".toList := by rw [isGeese]; rfl
  · obtain ⟨suffix, mem, v, rfl⟩ := endsInAny_iff.1 es
    have parts : ∀ suffix ∈ ["xes", "ches", "shes", "zzes"],
        ∃ left ∈ leftEndings, suffix.toList = left.toList ++ "es".toList := by decide
    obtain ⟨left, isLeft, isSuffix⟩ := parts suffix mem
    have dropped : dropEnd 2 (v ++ (left.toList ++ "es".toList)) = v ++ left.toList :=
      dropEnd_append_append v left.toList "es".toList
    rw [isSuffix, dropped]
    exact singularOf_append v isLeft
  · have stem := endsIn_dropEnd_one s unknown
    cases found : irregularSingular? (dropEnd 1 w) with
    | none => exact singularOf_of_not_s stem found
    | some singular => exact singularOf_of_irregularSingular found
  · exact singularOf_of_not_s (Bool.eq_false_iff.2 s) own

/-- The singular of a word that is no irregular plural. -/
lemma singularOf_eq_ite (long : 1 < w.length) (own : irregularSingular? w = none) :
    singularOf w = if isUncountable w || (irregularPlural? w).isSome || isSingularInS w then w
      else singularBySuffix w := by
  rw [singularOf, if_neg (Nat.not_le_of_lt long), own]

/-- The one word that is left with a plural has a singular beyond it. -/
lemma singularOf_geeses : singularOf "geeses".toList = "geese".toList ∧
    singularOf "geese".toList = "goose".toList := by
  decide +kernel

/-- The singular of every word but one is its own singular. -/
theorem singularOf_singularOf_iff :
    singularOf (singularOf w) = singularOf w ↔ w ≠ "geeses".toList := by
  constructor
  · rintro same rfl
    rw [singularOf_geeses.1, singularOf_geeses.2] at same
    exact absurd same (by decide)
  · intro other
    rcases Nat.lt_or_ge 1 w.length with long | short
    · cases own : irregularSingular? w with
      | some singular =>
        have isSingular : singularOf w = singular := by
          rw [singularOf, if_neg (Nat.not_le_of_lt long), own]
        rw [isSingular, singularOf_of_irregularSingular own]
      | none =>
        rw [singularOf_eq_ite long own]
        split_ifs with known
        · rw [singularOf_eq_ite long own, if_pos known]
        · rw [Bool.not_eq_true, Bool.or_eq_false_iff] at known
          exact singularOf_singularBySuffix known.2 other own
    · have own : singularOf w = w := if_pos short
      rw [own, own]

/-- What is left as the singular of a word is its own singular, or it is the exception. -/
lemma singularOf_singularOf_or (w : List Char) :
    singularOf (singularOf w) = singularOf w ∨ singularOf w = "geese".toList := by
  by_cases other : w = "geeses".toList
  · right
    rw [other]
    exact singularOf_geeses.1
  · left
    exact singularOf_singularOf_iff.2 other

/-! ### Names -/

lemma singularize_singularize_iff (w : String) :
    singularize (singularize w) = singularize w ↔ lowercase w ≠ "geeses" := by
  rw [← String.toList_inj, toList_singularize, lowercase_eq_self (allLower_singularize w),
    toList_singularize, singularOf_singularOf_iff, ne_eq, String.toList_inj]

/-- The singular of a name is a normal form in lowercase, which has the plural of the name and is
empty only for the empty name. In all this there is one name, up to case, whose singular is not its
own singular and has another plural. -/
theorem singularize_normalizes (w : String) :
    (singularize (singularize w) = singularize w ↔ lowercase w ≠ "geeses") ∧
      (pluralize (singularize w) [] = pluralize w [] ↔ lowercase w ≠ "geeses") ∧
      lowercase (singularize w) = singularize w ∧ (singularize w = "" ↔ w = "") := by
  refine ⟨singularize_singularize_iff w, ⟨?_, ?_⟩, lowercase_eq_self (allLower_singularize w), ?_⟩
  · intro same isGeeses
    have singular : singularize w = "geese" := by
      rw [← String.toList_inj, toList_singularize, isGeeses]
      exact singularOf_geeses.1
    rw [singular, pluralize_nil w, singular] at same
    exact absurd same (by decide +kernel)
  · intro other
    rw [pluralize_nil, pluralize_nil, (singularize_singularize_iff w).2 other]
  · rw [← String.toList_eq_nil_iff, toList_singularize, singularOf_eq_nil_iff,
      String.toList_eq_nil_iff, lowercase_eq_empty_iff]

/-- The plural of a plural that is not seen through. -/
theorem singularize_geeses : singularize "geeses" = "geese" ∧ singularize "geese" = "goose" ∧
    pluralize "geeses" [] = "geeses" ∧ pluralize "geese" [] = "geese" := by
  decide +kernel

end Naming

end EntityModel
