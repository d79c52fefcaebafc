import EntityModel.Declaration.Builder

/-!
# Items of declaration scripts

What the expressions of a declaration script stand for: values, kinds, patterns, predicates and
finished declarations. A slot takes the items that it has a use for and refuses the others.
-/

namespace EntityModel.Script

/-- What an expression stands for. -/
inductive Item where
  | plain (s : Scalar)
  | list (items : List Item)
  | map (entries : List (Scalar × Item))
  | fieldKind (kind : FieldKind)
  | relationKind (kind : RelationKind)
  /-- a compiled pattern, by its source -/
  | pattern (source : String)
  /-- a predicate that is a function, with the text of its body where that can be recovered -/
  | function (body : Option String)
  | constraints (c : Constraints)
  | field (f : Field)
  | relation (r : Relation)
  | scope (s : Scope)
  | bypass (b : Bypass)
  | policy (p : Policy)
  | index (i : Index)
  | argument (a : Argument)
  | procedure (p : Procedure)
  | computed (c : Computed)
  | entity (e : Entity)

namespace Item

/-! ### Values -/

mutual

def value : Item → Outcome Value
  | plain s => .ok (.scalar s)
  | list items => do return .list (← values items)
  | map entries => do return .map (← entryValues entries)
  | _ => wrongKind
termination_by structural item => item

def values : List Item → Outcome (List Value)
  | [] => .ok []
  | item :: rest => do return (← item.value) :: (← values rest)
termination_by structural items => items

def entryValues : List (Scalar × Item) → Outcome Entries
  | [] => .ok []
  | (key, item) :: rest => do return (key, ← item.value) :: (← entryValues rest)
termination_by structural entries => entries

end

/-- Whether an item is left out on purpose. -/
def isNull : Item → Bool
  | plain .null => true
  | _ => false

def isGiven : Item → Bool
  | plain s => s.isGiven
  | list items => !items.isEmpty
  | map entries => !entries.isEmpty
  | _ => true

/-- The parts of an item in order: the items of a list, the characters of a text, the keys of a
mapping. -/
def elements : Item → Outcome (List Item)
  | list items => .ok items
  | map entries => .ok (entries.map fun (key, _) => plain key)
  | plain (.text s) => .ok (s.toList.map fun c => plain (.text c.toString))
  | _ => wrongKind

/-- The parts of an item that may be left out. -/
def elementsOrNone (item : Item) : Outcome (List Item) :=
  if item.isGiven then item.elements else .ok []

/-- The type that an item names: a kind of field by its tag. -/
def typeTag : Item → Outcome Value
  | fieldKind kind => .ok (.text kind.tag)
  | item => item.value

def patternSource : Item → Outcome Value
  | pattern source => .ok (.text source)
  | item => item.value

def asRelationKind : Item → Outcome RelationKind
  | relationKind kind => .ok kind
  | plain (.text tag) => RelationKind.parse tag
  | _ => wrongKind

def asPredicate : Item → Outcome Predicate
  | function body => .ok (.function body)
  | item => .written <$> item.value

/-! ### Declarations -/

def asConstraints : Item → Outcome Constraints
  | constraints c => .ok c
  | _ => wrongKind

def asField : Item → Outcome Field
  | field f => .ok f
  | _ => wrongKind

def asRelation : Item → Outcome Relation
  | relation r => .ok r
  | _ => wrongKind

def asScope : Item → Outcome Scope
  | scope s => .ok s
  | _ => wrongKind

def asBypass : Item → Outcome Bypass
  | bypass b => .ok b
  | _ => wrongKind

def asPolicy : Item → Outcome Policy
  | policy p => .ok p
  | _ => wrongKind

def asIndex : Item → Outcome Index
  | index i => .ok i
  | _ => wrongKind

def asArgument : Item → Outcome Argument
  | argument a => .ok a
  | _ => wrongKind

def asProcedure : Item → Outcome Procedure
  | procedure p => .ok p
  | _ => wrongKind

def asComputed : Item → Outcome Computed
  | computed c => .ok c
  | _ => wrongKind

def asEntity : Item → Outcome Entity
  | entity e => .ok e
  | _ => wrongKind

end Item

end EntityModel.Script
