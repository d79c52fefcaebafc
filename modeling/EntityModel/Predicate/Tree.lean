import EntityModel.Predicate.Token

/-!
# Trees of predicate code

What predicate code says, as a tree. Every node has a form, a word (a name, an operator, the text of
a literal), the place where it stands, and its parts in the order in which they are written.
Parentheses that only group leave no node behind; the place of a node that is grouped is that of
what stands between them.
-/

namespace EntityModel.Predicate

/-- What a node is. -/
inductive Form where
  -- atoms
  | name | number | string | bytes | formatted | constant
  -- displays; a spread is `*x`, a double spread `**x`
  | tuple | list | set | mapping | pair | spread | doubleSpread
  -- operators
  | unary | binary | boolean | comparison | operator | conditional | awaited
  -- what may follow an operand
  | call | named | attribute | subscript | slice | absent
  -- bindings and scopes of their own; a clause has a target, what it runs over and its conditions
  | assigned | lambda | listOf | setOf | mappingOf | generator | clause
  | yielded | yieldedFrom
  -- parameters, with a default as part
  | parameters | positionalOnly | positional | gathered | keywordOnly | gatheredNamed
  -- statements
  | block | expression | assignment | augmented | annotated | returned | function | decorated
  | classDefinition | branch | loop | whileLoop | attempt | handler | scoped | imported
  | importedFrom
  | alias | simple | selection | selected
  deriving DecidableEq, Repr

/-- A node of the tree. -/
inductive Node where
  | node (form : Form) (word : List Char) (start stop : Nat) (parts : List Node)
  deriving Repr

namespace Node

def form : Node → Form
  | node form .. => form

def word : Node → List Char
  | node _ word .. => word

def start : Node → Nat
  | node _ _ start .. => start

def stop : Node → Nat
  | node _ _ _ stop _ => stop

def parts : Node → List Node
  | node _ _ _ _ parts => parts

/-- The node of something that is left out. -/
def absent : Node := node .absent [] 0 0 []

/-- The forms that open a scope of their own inside an expression. -/
def opensScope (n : Node) : Bool :=
  match n.form with
  | .lambda | .listOf | .setOf | .mappingOf | .generator => true
  | _ => false

end Node

end EntityModel.Predicate
