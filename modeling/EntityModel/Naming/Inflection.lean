import EntityModel.Text.Affix
import EntityModel.Text.Casing

/-!
# English inflection

The singular and the plural of a word, in lowercase. Irregular pairs and uncountable words come
first, then suffix rules. A word that is plural already is made singular before its plural is
formed.
-/

namespace EntityModel.Naming

open Text

/-! ### Word lists -/

def irregularWords : List (String × String) := [
  ("person", "people"), ("child", "children"), ("man", "men"), ("woman", "women"),
  ("tooth", "teeth"), ("foot", "feet"), ("mouse", "mice"), ("goose", "geese"), ("ox", "oxen"),
  ("leaf", "leaves"), ("life", "lives"), ("knife", "knives"), ("wife", "wives"),
  ("self", "selves"), ("elf", "elves"), ("loaf", "loaves"), ("potato", "potatoes"),
  ("tomato", "tomatoes"), ("hero", "heroes"), ("echo", "echoes"), ("veto", "vetoes"),
  ("movie", "movies"), ("cactus", "cacti"), ("focus", "foci"), ("fungus", "fungi"),
  ("nucleus", "nuclei"), ("syllabus", "syllabi"), ("analysis", "analyses"),
  ("diagnosis", "diagnoses"), ("thesis", "theses"), ("crisis", "crises"),
  ("phenomenon", "phenomena"), ("criterion", "criteria"), ("datum", "data")]

/-- Words that are their own plural. -/
def uncountableWords : List String :=
  ["sheep", "fish", "deer", "species", "series", "news", "money", "rice", "information",
    "equipment"]

/-- Endings in `s` that singular words have; other words in `-us` and `-is` are plurals. -/
def singularEndings : List String :=
  ["ss", "sis", "status", "bus", "bonus", "campus", "census", "circus", "consensus", "corpus",
    "genus", "octopus", "plus", "prospectus", "radius", "stimulus", "virus", "walrus", "apparatus"]

/-- Singular words in `s` that are no ending of other singular words. -/
def singularWords : List String := ["axis", "iris", "tennis"]

def irregularPlural? (word : List Char) : Option (List Char) :=
  (irregularWords.lookup (String.ofList word)).map String.toList

def irregularSingular? (word : List Char) : Option (List Char) :=
  (irregularWords.find? (·.2 == String.ofList word)).map (·.1.toList)

/-- Whether a word is its own plural. -/
def isUncountable (word : List Char) : Bool := uncountableWords.contains (String.ofList word)

/-- Whether a word that ends in `s` is known to be singular. -/
def isSingularInS (word : List Char) : Bool :=
  singularWords.contains (String.ofList word) || endsInAny word singularEndings

def isVowel (c : Char) : Bool := ['a', 'e', 'i', 'o', 'u'].contains c

/-- Whether the character `n` places before the end is there and is no vowel. -/
def consonantFromEnd (n : Nat) (word : List Char) : Bool :=
  match fromEnd? n word with
  | some c => !isVowel c
  | none => false

/-! ### Singular -/

/-- The singular by suffix rules of a lowercase word that no word list settles. -/
def singularBySuffix (word : List Char) : List Char :=
  if endsIn word "ies" && consonantFromEnd 3 word then dropEnd 3 word ++ ['y']
  else if endsIn word "ves" && 3 < word.length then
    if endsInAny (dropEnd 3 word) ["l", "ar"] then dropEnd 3 word ++ ['f'] else dropEnd 1 word
  else if endsIn word "ses" then
    -- `statuses` loses two letters and `causes` one
    if isSingularInS (dropEnd 2 word) then dropEnd 2 word else dropEnd 1 word
  else if endsInAny word ["xes", "ches", "shes", "zzes"] then dropEnd 2 word
  else if endsIn word "s" then
    (irregularSingular? (dropEnd 1 word)).getD (dropEnd 1 word)
  else word

def singularOf (word : List Char) : List Char :=
  if word.length ≤ 1 then word
  else match irregularSingular? word with
    | some singular => singular
    | none =>
      if isUncountable word || (irregularPlural? word).isSome || isSingularInS word then word
      else singularBySuffix word

def singularize (word : String) : String :=
  String.ofList (singularOf (lowerChars word.toList))

/-! ### Plural -/

def pluralOf (singular : List Char) : List Char :=
  match irregularPlural? singular with
  | some plural => plural
  | none =>
    if isUncountable singular then singular
    else if endsIn singular "y" && consonantFromEnd 1 singular then
      dropEnd 1 singular ++ ['i', 'e', 's']
    else if endsInAny singular ["s", "x", "z", "ch", "sh"] then singular ++ ['e', 's']
    else if endsInAny singular ["lf", "arf"] then dropEnd 1 singular ++ ['v', 'e', 's']
    else singular ++ ['s']

/-- Plurals that are given with the run instead of formed: singular and plural. -/
abbrev Overrides := List (String × String)

/-- The plural of a word, in lowercase. A given plural of the word, or of its singular, wins, and
a word that is itself a given plural stays. -/
def pluralize (word : String) (overrides : Overrides) : String :=
  let lower := lowercase word
  if lower.isEmpty then lower
  else match overrides.lookup lower with
    | some plural => plural
    | none =>
      if overrides.any (·.2 == lower) then lower
      else
        let singular := singularize lower
        match overrides.lookup singular with
        | some plural => plural
        | none => String.ofList (pluralOf singular.toList)

/-- A name as it is written, its singular and its plural. -/
def variants (name : String) (overrides : Overrides) : List String :=
  [name, singularize name, pluralize name overrides]

end EntityModel.Naming
