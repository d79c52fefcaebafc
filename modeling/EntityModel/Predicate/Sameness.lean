import EntityModel.Number.Reading
import EntityModel.Predicate.Block
import EntityModel.Predicate.Source
import EntityModel.Value.Basic

/-!
# Sameness of lambda expressions

Several lambda expressions may stand in the lines of one function. The one that it was made by is
known by what it does: its body has the same operations, constants that are equal, and names that
are either parameters of the same place or the same name outside of it. A name that a function
around it binds is never the same, and a scope inside of the body has to stand in the same place.
-/

namespace EntityModel.Predicate

/-! ### Constants -/

/-- The whole number that a literal writes, if it writes one. -/
def wholeLiteral? (word : List Char) : Option Nat :=
  let digits := word.filter (· != '_')
  match digits with
  | '0' :: 'x' :: rest | '0' :: 'X' :: rest => Number.readDigitsIn? 16 rest
  | '0' :: 'o' :: rest | '0' :: 'O' :: rest => Number.readDigitsIn? 8 rest
  | '0' :: 'b' :: rest | '0' :: 'B' :: rest => Number.readDigitsIn? 2 rest
  | _ => Number.readDigitsIn? 10 digits

def Node.constant? (n : Node) : Option Scalar :=
  match n.form with
  | .number => match wholeLiteral? n.word with
    | some i => some (.int i)
    | none => (Number.readReal? (String.ofList n.word)).map .real
  | .string => some (.text (String.ofList n.word))
  | .constant =>
    if n.word = "None".toList then some .null
    else if n.word = "True".toList then some (.bool true)
    else if n.word = "False".toList then some (.bool false)
    else none
  | _ => none

/-! ### Sides of a comparison -/

/-- What has to be known of a lambda expression to compare it with another. -/
structure Side where
  code : List Char
  parameters : List (List Char)
  /-- the names that functions around it bind -/
  isFree : List Char → Bool := fun _ => false
  /-- whether a class stands around it, which has names of its own -/
  inClass : Bool := false

/-- The line of a place in code and its distance from the start of the line. -/
def position (code : List Char) (place : Nat) : Nat × Nat :=
  let line := lineOf code place
  (line, place - lineStart code line)

namespace Side

/-- Whether a name is changed by the class around it. -/
def isPrivate (s : Side) (word : List Char) : Bool :=
  s.inClass && ['_', '_'].isPrefixOf word && !(['_', '_'].isSuffixOf word)

/-- What a name stands for: the place of a parameter, or a name outside. -/
def resolve? (s : Side) (word : List Char) : Option (Nat ⊕ List Char) :=
  match s.parameters.findIdx? (· == word) with
  | some i => some (.inl i)
  | none => if s.isFree word || s.isPrivate word then none else some (.inr word)

end Side

/-- The parameters of a lambda expression in the order in which they are counted. -/
def Node.parameterNames (n : Node) : List (List Char) :=
  let parameters := match n.parts with
    | p :: _ => p.parts
    | [] => []
  let ofForms (forms : List Form) : List (List Char) :=
    (parameters.filter fun p => forms.contains p.form).map Node.word
  ofForms [.positionalOnly, .positional] ++ ofForms [.keywordOnly] ++ ofForms [.gathered] ++
    ofForms [.gatheredNamed]

def Node.positionalNames (n : Node) : List (List Char) :=
  match n.parts with
  | p :: _ =>
    (p.parts.filter fun q => q.form = .positionalOnly || q.form = .positional).map Node.word
  | [] => []

/-! ### Comparison -/

mutual

/-- Whether two nodes have the same form, words and parts. -/
def Node.isLike : Node → Node → Bool
  | .node form word _ _ parts, .node form' word' _ _ parts' =>
    form = form' && word == word' && areLike parts parts'
termination_by structural n => n

/-- Whether nodes are alike one by one. -/
def areLike : List Node → List Node → Bool
  | [], [] => true
  | n :: ns, m :: ms => n.isLike m && areLike ns ms
  | _, _ => false
termination_by structural ns => ns

end

mutual

/-- Whether a node does the same in one place as another in another place. -/
def Node.sameAs (a b : Side) : Node → Node → Bool
  | .node form word start stop parts, other =>
    let this := Node.node form word start stop parts
    match this.constant?, other.constant? with
    | some x, some y => x.same y
    | none, none =>
      form = other.form &&
      (if this.opensScope then
        position a.code start == position b.code other.start &&
          position a.code stop == position b.code other.stop && this.isLike other
      else if form = .name then
        (a.resolve? word).isSome && a.resolve? word == b.resolve? other.word
      else word == other.word && !a.isPrivate word && areSame a b parts other.parts)
    | _, _ => false
termination_by structural n => n

/-- Whether nodes do the same one by one. -/
def areSame (a b : Side) : List Node → List Node → Bool
  | [], [] => true
  | n :: ns, m :: ms => n.sameAs a b m && areSame a b ns ms
  | _, _ => false
termination_by structural ns => ns

end

/-- Whether two lambda expressions do the same. -/
def Node.sameLambda (a b : Side) (n m : Node) : Bool :=
  match n.parts, m.parts with
  | [_, body], [_, other] => body.sameAs a b other
  | _, _ => false

/-- The lambda expression in the code of a block that a function was made by: the first that does
the same, or the first whose parameters have the same names, or the first. -/
def FoundLambda.choose? (block : List Char) (a : Side) (n : Node) : Option FoundLambda :=
  let found := all block
  let isSame (l : FoundLambda) : Bool :=
    n.sameLambda a { code := l.code, parameters := l.node.parameterNames } l.node
  let isNamedAlike (l : FoundLambda) : Bool := l.node.positionalNames == n.positionalNames
  found.find? isSame <|> found.find? isNamedAlike <|> found.head?

end EntityModel.Predicate
