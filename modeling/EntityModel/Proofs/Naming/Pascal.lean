import EntityModel.Naming.Case
import EntityModel.Proofs.Text.Lowercase
import Mathlib.Data.List.Sections

/-!
# Pascal case

No name in Pascal case begins with a lowercase letter of ASCII, as most types of the generated code
do. A name that is a spelling of "uuid" does not become its capitals either, since at most the first
letters of words are capitals (`Naming.singularPascal_ne_of_lowercase_eq_uuid`).
-/

namespace EntityModel

namespace Text

variable {c : Char} {cs : List Char}

/-- The characters begin with one that is no lowercase letter of ASCII. -/
def StartsRaised (cs : List Char) : Prop := cs.head?.map Char.isLower = some false

instance (cs : List Char) : Decidable (StartsRaised cs) := inferInstanceAs (Decidable (_ = _))

/-- The table moves code points to no lowercase letters of ASCII. -/
lemma isLower_upperTargets :
    ∀ n ∈ upperRuns.flatMap CaseRun.targets, (Char.ofNat n).isLower = false := by
  decide +kernel

lemma startsRaised_upperExpansions : ∀ e ∈ upperExpansions, StartsRaised (e.2.map Char.ofNat) := by
  decide

/-- The uppercase of a character begins with no lowercase letter of ASCII. -/
lemma startsRaised_upperChar (c : Char) : StartsRaised (upperChar c) := by
  unfold upperChar
  split_ifs with small
  · exact of_ascii (P := fun c => StartsRaised [c.toUpper]) (by decide) small
  · split
    · rename_i codes found
      obtain ⟨before, after, split, -⟩ := List.lookup_eq_some_iff.1 found
      exact startsRaised_upperExpansions _ (split ▸ List.mem_append_right _ List.mem_cons_self)
    · split
      · rename_i run found
        have covers := List.find?_some found
        have isTarget : (c.toNat + run.shift).toNat ∈ upperRuns.flatMap CaseRun.targets :=
          List.mem_flatMap.2 ⟨run, List.mem_of_find?_eq_some found,
            List.mem_map_of_mem (CaseRun.mem_codes covers)⟩
        exact congrArg some (isLower_upperTargets _ isTarget)
      · exact congrArg some (Bool.eq_false_iff.2 fun letter => small (ascii_of_isLower letter))

lemma StartsRaised.append (raised : StartsRaised cs) (ds : List Char) :
    StartsRaised (cs ++ ds) := by
  cases cs with
  | nil => exact absurd raised (by decide)
  | cons c rest => exact raised

lemma startsRaised_capitalized (nonempty : cs ≠ []) : StartsRaised (capitalized cs) := by
  cases cs with
  | nil => exact absurd rfl nonempty
  | cons c rest => exact (startsRaised_upperChar c).append rest

/-! ### Spellings -/

/-- The ways to write a lowercase word with capitals for some of its letters. -/
def spellings (word : List Char) : List (List Char) := (word.map fun d => [d, d.toUpper]).sections

/-- A text of ASCII is a spelling of its lowercase. -/
lemma mem_spellings (ascii : AllAscii cs) : cs ∈ spellings (cs.map Char.toLower) := by
  rw [spellings, List.mem_sections, List.forall₂_map_right_iff, List.forall₂_map_right_iff,
    List.forall₂_same]
  intro c mem
  exact of_ascii (P := fun c => c ∈ [c.toLower, c.toLower.toUpper]) (by decide) (ascii c mem)

end Text

namespace Naming

open Text

variable {name : String}

lemma singularPascal_startsRaised (nonempty : singularPascal name ≠ "") :
    StartsRaised (singularPascal name).toList := by
  rw [singularPascal, String.toList_ofList]
  refine startsRaised_capitalized fun none => nonempty ?_
  rw [singularPascal, none]
  rfl

/-- A text whose lowercase is "uuid" is a spelling of it. -/
lemma mem_spellings_of_uuid (spells : lowercase name = "uuid") :
    name.toList ∈ spellings "uuid".toList := by
  have lower : lowerAfter false name.toList = "uuid".toList := by
    rw [← lowerChars, ← String.toList_ofList (l := lowerChars name.toList), ← lowercase, spells]
  have allAscii : AllAscii (lowerAfter false name.toList) := lower ▸ by decide
  have noKelvin : 'k' ∉ lowerAfter false name.toList := lower ▸ by decide
  have ascii : AllAscii name.toList := allAscii_of_lowerAfter allAscii noKelvin
  rw [lowerAfter_of_allAscii ascii] at lower
  exact lower ▸ mem_spellings ascii

/-- No spelling of "uuid" is all capitals in Pascal case. -/
lemma singularPascal_spelling_of_uuid :
    ∀ cs ∈ spellings "uuid".toList, singularPascal (String.ofList cs) ≠ "UUID" := by
  decide

/-- No name that spells the code type of identifiers is written like it in Pascal case. -/
theorem singularPascal_ne_of_lowercase_eq_uuid (spells : lowercase name = "uuid") :
    singularPascal name ≠ "UUID" := by
  have differ := singularPascal_spelling_of_uuid name.toList (mem_spellings_of_uuid spells)
  rwa [String.ofList_toList] at differ

end Naming

end EntityModel
