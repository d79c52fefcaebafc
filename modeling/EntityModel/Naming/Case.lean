import EntityModel.Naming.Inflection
import EntityModel.Text.Blank

/-!
# Case conventions

Splitting a name into words, whatever convention joins them, and joining the words again in another
one. A word ends before a separator (`-`, `_`, white space), between a lowercase letter or digit and
a capital, and inside a run of capitals before the last one when a lowercase letter follows it.
-/

namespace EntityModel.Naming

open Text

/-! ### Words -/

/-- Spaces before the last capital of each run that runs into a word: `HTTPRef` to `HTTP Ref`. -/
def spaceAcronyms : List Char → List Char
  | x :: y :: z :: rest =>
    if x.isUpper && y.isUpper && z.isLower then x :: ' ' :: spaceAcronyms (y :: z :: rest)
    else x :: spaceAcronyms (y :: z :: rest)
  | cs => cs

/-- Spaces between a lowercase letter or digit and a capital: `blogPost` to `blog Post`. -/
def spaceHumps : List Char → List Char
  | x :: y :: rest =>
    if (x.isLower || x.isDigit) && y.isUpper then x :: ' ' :: spaceHumps (y :: rest)
    else x :: spaceHumps (y :: rest)
  | cs => cs

/-- Whether a character stands between words. -/
def isSeparator (c : Char) : Bool := c == '-' || c == '_' || isBlank c

/-- The characters before the first separator, and the pieces after it. -/
def pieces : List Char → List Char × List (List Char)
  | [] => ([], [])
  | c :: cs =>
    let (piece, others) := pieces cs
    if isSeparator c then ([], piece :: others) else (c :: piece, others)

def wordsOf (name : List Char) : List (List Char) :=
  let (piece, others) := pieces (spaceHumps (spaceAcronyms name))
  (piece :: others).filter (!·.isEmpty)

def splitWords (name : String) : List String := (wordsOf name.toList).map String.ofList

/-! ### Conventions -/

/-- A word with a capital first letter and the rest in lowercase. -/
def titled : List Char → List Char
  | [] => []
  | c :: rest => upperChar c ++ lowerChars rest

/-- The words of a name, each with a capital, joined without a mark. -/
def pascalOf (name : List Char) : List Char := (wordsOf name).flatMap titled

/-- The words of a name, each but the first with a capital, joined without a mark. -/
def camelOf (name : List Char) : List Char := uncapitalized (pascalOf name)

/-- `blog-post`, `blog_post` and `blogPost` to `BlogPost`. -/
def toPascalCase (name : String) : String := String.ofList (pascalOf name.toList)

/-- `BlogPost` to `blogPost`. -/
def toCamelCase (name : String) : String := String.ofList (camelOf name.toList)

/-- `authorId` to `author_id` and `userID` to `user_id`. -/
def toSnakeCase (name : String) : String := "_".intercalate ((splitWords name).map lowercase)

def singularLast : List String → List String
  | [] => []
  | [word] => [singularize word]
  | word :: rest => word :: singularLast rest

/-- The camel case name with its last word in the singular: `BlogPosts` to `blogPost`. -/
def singularCamel (name : String) : String :=
  toCamelCase ("_".intercalate (singularLast (splitWords name)))

/-- The Pascal case name with its last word in the singular: `blog_posts` to `BlogPost`. -/
def singularPascal (name : String) : String :=
  String.ofList (capitalized (singularCamel name).toList)

/-- A label for readers: `blogPost` to `Blog Post`. -/
def toDisplayName (name : String) : String :=
  " ".intercalate ((wordsOf name.toList).map fun word => String.ofList (titled word))

end EntityModel.Naming
