import EntityModel.Analysis.ComputedType
import EntityModel.Proofs.Naming.Joints
import EntityModel.Proofs.Text.Affix
import Mathlib.Data.List.Find

/-!
# Verbs before the names of computed properties

A name that no rule fits and that starts with a verb is tried once more without it. What is tried is
the rest of the name in camel case, so the rules see its words only as far as their joints show
there, and they see what is made where the words run together (`ComputedType.infer_verb_iff`). Where
all joints show and nothing listed is made across one, the type is that of the rest of the name.
-/

namespace EntityModel

open Naming Text

/-! ### Names of words -/

namespace PropertyName

/-- The name in which words run together: those that are found again in camel case. -/
def rejoined (words : List String) : PropertyName where
  lower := (spoken words).flatten
  words := (refound false (spoken words)).map String.ofList

end PropertyName

namespace Naming

variable {names : List String}

lemma filter_eq_self_of_not_mem {cs : List Char} (noMark : '_' ∉ cs) : cs.filter (· != '_') = cs :=
  List.filter_eq_self.2 fun _ mem => bne_iff_ne.2 fun same => noMark (same ▸ mem)

namespace ArePlain

variable (plain : ArePlain names)

include plain

lemma map_ofList_spoken : ArePlain ((spoken names).map String.ofList) := by
  refine List.forall_mem_map.2 fun word mem => ?_
  rw [String.toList_ofList]
  exact (plain.isPlainWord word mem).2

lemma ofText_join : PropertyName.ofText ("_".intercalate names) =
    ⟨("_".intercalate names).toList, (spoken names).map String.ofList⟩ := by
  have words := plain.lowerWords_join
  rw [lowerWords] at words
  rw [PropertyName.ofText, plain.lowerChars_join, words]

/-- Without the underscores the words run together. -/
lemma filter_join : ("_".intercalate names).toList.filter (· != '_') = (spoken names).flatten := by
  have mark : "_".toList = ['_'] := rfl
  have unmarked : ∀ word ∈ names.map String.toList, word.filter (· != '_') = word := by
    have other : ¬ IsPlainChar '_' := by decide
    exact List.forall_mem_map.2 fun word mem => filter_eq_self_of_not_mem fun isIn =>
      other (plain word mem '_' isIn)
  rw [String.toList_intercalate, mark, spoken, List.flatten_filter_not_isEmpty]
  generalize names.map String.toList = words at unmarked
  induction words with
  | nil => rfl
  | cons word rest ih =>
    obtain ⟨first, others⟩ := List.forall_mem_cons.1 unmarked
    cases rest with
    | nil => simpa using first
    | cons next rest =>
      rw [List.intercalate_cons_cons, List.filter_append, List.filter_append, first, ih others]
      simp

/-- A text without an underscore that stands in a name stands there, too, where the words run
together. -/
lemma hasPart_flatten {part : String} (noMark : '_' ∉ part.toList)
    (has : hasPart part ("_".intercalate names).toList = true) :
    hasPart part (spoken names).flatten = true := by
  have stands := (hasPart_iff.1 has).filter (· != '_')
  rw [plain.filter_join, filter_eq_self_of_not_mem noMark] at stands
  exact hasPart_iff.2 stands

lemma endsIn_flatten {ending : String} (noMark : '_' ∉ ending.toList)
    (ends : endsIn ("_".intercalate names).toList ending = true) :
    endsIn (spoken names).flatten ending = true := by
  have stands := (endsIn_iff.1 ends).filter (· != '_')
  rw [plain.filter_join, filter_eq_self_of_not_mem noMark] at stands
  exact endsIn_iff.2 stands

/-- Plain names in camel case are read as words that have been joined again. -/
lemma ofText_toCamelCase :
    PropertyName.ofText (toCamelCase ("_".intercalate names)) = .rejoined names := by
  have lower :
      lowerChars (toCamelCase ("_".intercalate names)).toList = (spoken names).flatten := by
    have ascii : AllAscii (runOn false (spoken names)) :=
      fun c mem => (isWord_runOn plain.isPlainWord false c mem).1
    rw [toCamelCase, String.toList_ofList, plain.camelOf_join, lowerChars_of_allAscii ascii,
      map_toLower_runOn plain.isPlainWord]
  have words := plain.lowerWords_toCamelCase
  rw [lowerWords] at words
  rw [PropertyName.ofText, lower, words, PropertyName.rejoined]

end ArePlain

lemma spoken_map_ofList (names : List String) :
    spoken ((spoken names).map String.ofList) = spoken names := by
  have same : ((spoken names).map String.ofList).map String.toList = spoken names := by
    rw [List.map_map]
    exact (List.map_congr_left fun word _ => String.toList_ofList).trans (List.map_id _)
  rw [spoken, same, spoken, List.filter_filter]
  simp

end Naming

/-! ### Rules -/

namespace ComputedType

open PropertyName

variable {n m : PropertyName} {verb : String} {words : List String}

/-- No rule infers that nothing is known. -/
lemma byRule?_ne_unknown (n : PropertyName) : byRule? n ≠ some .unknown := by
  intro isUnknown
  obtain ⟨rule, found, same⟩ := Option.map_eq_some_iff.1 isUnknown
  have known : ∀ rule ∈ rules, rule.2 ≠ .unknown := by decide
  exact known rule (List.mem_of_find?_eq_some found) same

/-- Two names have the same inferred type just where the rules answer alike. -/
lemma byRule?_inj : (byRule? n).getD .unknown = (byRule? m).getD .unknown ↔
    byRule? n = byRule? m := by
  refine ⟨fun same => ?_, fun same => by rw [same]⟩
  have notUnknown := byRule?_ne_unknown n
  have notUnknown' := byRule?_ne_unknown m
  cases isType : byRule? n with
  | none =>
    cases isType' : byRule? m with
    | none => rfl
    | some type =>
      rw [isType, isType'] at same
      exact absurd (isType'.trans (congrArg some same.symm)) notUnknown'
  | some type =>
    cases isType' : byRule? m with
    | none =>
      rw [isType, isType'] at same
      exact absurd (isType.trans (congrArg some same)) notUnknown
    | some type' =>
      rw [isType, isType'] at same
      exact congrArg some same

/-- The endings that the rules look for whether or not a word begins there. -/
def endings : List String := dateSuffixes ++ longStringSuffixes ++ longObjectSuffixes ++ ["s", "ss"]

lemma any_congr_of_mem {α : Type} {items : List α} {p q : α → Bool}
    (same : ∀ a ∈ items, p a = q a) :
    items.any p = items.any q := by
  rw [Bool.eq_iff_iff, List.any_eq_true, List.any_eq_true]
  exact exists_congr fun a => and_congr_right fun mem => by rw [same a mem]

/-- Of the letters of a name the rules see the listed parts and endings. -/
lemma byRule?_congr (words : n.words = m.words)
    (parts : ∀ part ∈ measureParts, hasPart part n.lower = hasPart part m.lower)
    (ends : ∀ ending ∈ endings, endsIn n.lower ending = endsIn m.lower ending) :
    byRule? n = byRule? m := by
  have first : n.first = m.first := by rw [PropertyName.first, PropertyName.first, words]
  have last : n.last = m.last := by rw [PropertyName.last, PropertyName.last, words]
  have compound : n.isCompound = m.isCompound := by rw [isCompound, isCompound, words]
  have measures := any_congr_of_mem parts
  have listed {suffixes : List String} (sub : suffixes ⊆ endings) :
      endsInAny n.lower suffixes = endsInAny m.lower suffixes :=
    any_congr_of_mem fun suffix mem => ends suffix (sub mem)
  have dates := listed (show dateSuffixes ⊆ endings from fun _ mem => by simp [endings, mem])
  have texts := listed (show longStringSuffixes ⊆ endings from fun _ mem => by simp [endings, mem])
  have objects :=
    listed (show longObjectSuffixes ⊆ endings from fun _ mem => by simp [endings, mem])
  have plural : endsIn n.lower "s" = endsIn m.lower "s" := ends _ (by simp [endings])
  have noPlural : endsIn n.lower "ss" = endsIn m.lower "ss" := ends _ (by simp [endings])
  have same : ∀ rule ∈ rules, rule.1 n = rule.1 m := by
    simp only [rules, List.forall_mem_cons, isDate, hasNumericPrefix, hasNumericSuffix, hasMeasure,
      hasBooleanPrefix, hasBooleanSuffix, hasStringSuffix, isStringGetter, hasArrayMark,
      isPluralGetter, hasObjectSuffix, first, last, compound, words, measures, dates, texts,
      objects, plural, noPlural]
    simp
  rw [byRule?, byRule?, List.find?_congr same]

/-- Where no rule fits a name with a verb in front, the words behind it are tried as they are found
again in camel case. -/
lemma infer_eq_of_verb (isVerb : verb ∈ verbs) (plain : ArePlain words) (some : words ≠ [])
    (unmatched : byRule? (.ofText (verb ++ "_" ++ "_".intercalate words)) = none) :
    infer (verb ++ "_" ++ "_".intercalate words) = (byRule? (.rejoined words)).getD .unknown := by
  have joined : verb ++ "_" ++ "_".intercalate words = "_".intercalate (verb :: words) := by
    obtain ⟨word, rest, rfl⟩ := List.exists_cons_of_ne_nil some
    rw [String.intercalate_cons_cons]
  have plainVerbs : ∀ verb ∈ verbs, verb ≠ "" ∧ ArePlain [verb] := by decide
  obtain ⟨nonempty, letters⟩ := plainVerbs verb isVerb
  have plain' : ArePlain (verb :: words) :=
    List.forall_mem_cons.2 ⟨List.forall_mem_singleton.1 letters, plain⟩
  have isSpoken : spoken (verb :: words) = verb.toList :: spoken words := by
    rw [spoken, List.map_cons, List.filter_cons]
    simp [nonempty, spoken]
  have again : withoutVerb ⟨("_".intercalate (verb :: words)).toList,
      (spoken (verb :: words)).map String.ofList⟩ = rejoined words := by
    rw [withoutVerb, isSpoken]
    refine plain.map_ofList_spoken.ofText_toCamelCase.trans ?_
    rw [rejoined, spoken_map_ofList, rejoined]
  rw [joined] at unmatched ⊢
  unfold infer
  dsimp only
  rw [unmatched, plain'.ofText_join, again]
  dsimp only
  cases others : spoken words with
  | nil =>
    have nothing : byRule? (rejoined words) = none := by
      rw [rejoined, others]
      decide
    rw [nothing]
    exact ite_self _
  | cons word rest =>
    rw [if_pos]
    simp [isCompound, PropertyName.first, isSpoken, others, isVerb]

/-- What the rules infer for the words behind a verb is what they infer for the rest of the name if
all joints of the words show in camel case and nothing that is listed is made across a joint. -/
lemma byRule?_rejoined (plain : ArePlain words)
    (shown : refound false (spoken words) = spoken words)
    (parts : ∀ part ∈ measureParts, hasPart part (spoken words).flatten = true →
      hasPart part ("_".intercalate words).toList = true)
    (ends : ∀ ending ∈ endings, endsIn (spoken words).flatten ending = true →
      endsIn ("_".intercalate words).toList ending = true) :
    byRule? (.rejoined words) = byRule? (.ofText ("_".intercalate words)) := by
  have unmarked : ∀ part ∈ measureParts, '_' ∉ part.toList := by decide
  have unmarked' : ∀ ending ∈ endings, '_' ∉ ending.toList := by decide
  rw [plain.ofText_join, rejoined, shown]
  refine byRule?_congr rfl (fun part mem => ?_) fun ending mem => ?_
  · exact Bool.eq_iff_iff.2 ⟨parts part mem, plain.hasPart_flatten (unmarked part mem)⟩
  · exact Bool.eq_iff_iff.2 ⟨ends ending mem, plain.endsIn_flatten (unmarked' ending mem)⟩

/-- Where no rule fits a name with a verb in front, the type is by the first rule that fits the
words behind the verb as they are found again in camel case. It is by the first rule that fits the
rest of the name just if the same rule fits both or the rules infer the same; so it is where all
joints of the words show in camel case and nothing that is listed is made across a joint. -/
theorem infer_verb_iff (isVerb : verb ∈ verbs) (plain : ArePlain words) (some : words ≠ [])
    (unmatched : byRule? (.ofText (verb ++ "_" ++ "_".intercalate words)) = none) :
    infer (verb ++ "_" ++ "_".intercalate words) = (byRule? (.rejoined words)).getD .unknown ∧
    (infer (verb ++ "_" ++ "_".intercalate words) =
        (byRule? (.ofText ("_".intercalate words))).getD .unknown ↔
      byRule? (.rejoined words) = byRule? (.ofText ("_".intercalate words))) ∧
    (refound false (spoken words) = spoken words →
      (∀ part ∈ measureParts, hasPart part (spoken words).flatten = true →
        hasPart part ("_".intercalate words).toList = true) →
      (∀ ending ∈ endings, endsIn (spoken words).flatten ending = true →
        endsIn ("_".intercalate words).toList ending = true) →
      infer (verb ++ "_" ++ "_".intercalate words) =
        (byRule? (.ofText ("_".intercalate words))).getD .unknown) := by
  have inferred := infer_eq_of_verb isVerb plain some unmatched
  refine ⟨inferred, ?_, fun shown parts ends => ?_⟩
  · rw [inferred]
    exact byRule?_inj
  · rw [inferred, byRule?_rejoined plain shown parts ends]

/-- Whether somebody is an administrator. -/
theorem infer_get_is_admin : byRule? (.ofText "get_is_admin") = none ∧ ArePlain ["is", "admin"] ∧
    infer "get_is_admin" = .boolean := by
  have unmatched : byRule? (.ofText "get_is_admin") = none := by decide
  have plain : ArePlain ["is", "admin"] := by decide
  obtain ⟨-, -, inferred⟩ :=
    infer_verb_iff (show "get" ∈ verbs by decide) plain (by decide) unmatched
  exact ⟨unmatched, plain, inferred (by decide) (by decide) (by decide +kernel)⟩

/-- Whether there is a second factor: the joint before the digit is not found again. -/
theorem infer_compute_is_2fa : byRule? (.ofText "compute_is_2fa") = none ∧
    byRule? (.ofText "is_2fa") = some .boolean ∧ infer "compute_is_2fa" = .unknown := by
  decide

end ComputedType

end EntityModel
