import EntityModel.Yaml.Node

/-!
# Reading YAML

A YAML text as a value: a finite tree of scalars, lists and mappings. The keys of a mapping are
scalars; of entries with one key the last value counts, at the place of the first. The entries of
merged mappings come before those of the mapping itself, the mappings of a merged list in reverse
order, so that an earlier one counts.
-/

namespace EntityModel.Yaml

namespace Node

/-- The text of a scalar; a mapping with a default value has the text of that value. -/
def text? : Node → Option String
  | .scalar _ s => some s
  | .list .. => none
  | .map _ entries => defaultText? entries
where
  /-- The text of the default value among entries. -/
  defaultText? : List (Node × Node) → Option String
    | [] => none
    | (.scalar .default _, v) :: _ => v.text?
    | _ :: rest => defaultText? rest

def keyValue : Node → Reading Scalar
  | .scalar .default s => .ok (.text s)
  | .scalar type s => type.scalar s
  | _ => malformed

mutual

def value : Node → Reading Value
  | .scalar type s => .scalar <$> type.scalar s
  | .list .list items => .list <$> values items
  | .list .pairs items => .list <$> pairValues items
  | .list _ _ => malformed
  | .map .map entries => do
    let (merged, own) ← pairs entries
    return .map (Entries.ofPairs (merged ++ own))
  | .map type entries => match (Node.map type entries).text? with
    | some s => .scalar <$> type.scalar s
    | none => malformed

def values : List Node → Reading (List Value)
  | [] => .ok []
  | n :: ns => do return (← value n) :: (← values ns)

/-- The pairs of a list of mappings with one entry each. -/
def pairValues : List Node → Reading (List Value)
  | [] => .ok []
  | .map _ [(k, v)] :: ns => do
    return .list [← value k, ← value v] :: (← pairValues ns)
  | _ => malformed

/-- The entries of a mapping: those that are merged into it, and its own. -/
def pairs : List (Node × Node) → Reading (Entries × Entries)
  | [] => .ok ([], [])
  | (.scalar .merge _, v) :: rest => do
    let here ← mergedPairs v
    let (merged, own) ← pairs rest
    return (here ++ merged, own)
  | (k, v) :: rest => do
    let key ← keyValue k
    let v ← value v
    let (merged, own) ← pairs rest
    return (merged, (key, v) :: own)

/-- The entries that a node contributes when it is merged: a mapping, or a list of mappings. -/
def mergedPairs : Node → Reading Entries
  | .map _ entries => do
    let (merged, own) ← pairs entries
    return merged ++ own
  | .list _ items => do return (← itemPairs items).reverse.flatten
  | .scalar .. => malformed

def itemPairs : List Node → Reading (List Entries)
  | [] => .ok []
  | .map _ entries :: rest => do
    let (merged, own) ← pairs entries
    return (merged ++ own) :: (← itemPairs rest)
  | _ => malformed

end

end Node

/-- The value that a YAML text writes; an empty text writes null. -/
def read (text : String) : Reading Value := do
  match Node.ofTokens? (← Token.ofText text) with
  | none => malformed
  | some none => return .null
  | some (some n) => n.value

end EntityModel.Yaml
